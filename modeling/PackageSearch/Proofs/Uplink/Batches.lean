import PackageSearch.Uplink.Batches
import PackageSearch.Proofs.Uplink.Feed

/-!
# Batches of a body

However a body is cut into chunks, its results are handed on in order, in full batches but for the
last one of a body that ends well. A failure comes last, and takes the results that do not fill a
batch with it.
-/

set_option autoImplicit false

namespace PackageSearch.Uplink

open Package (Listing)

/-! ## Cutting -/

/-- Full batches, and a rest that does not fill one. -/
structure IsCut {α : Type} (size : Nat) (full : List (List α)) (rest items : List α) : Prop where
  whole : full.flatten ++ rest = items
  filled : ∀ batch ∈ full, batch.length = size
  short : rest.length < size

namespace IsCut

variable {α : Type} {size : Nat} {full others : List (List α)} {rest items more : List α}

theorem cutBatches (positive : 0 < size) {fuel : Nat} (enough : items.length ≤ fuel) :
    IsCut size (cutBatches size fuel items).1 (cutBatches size fuel items).2 items := by
  induction fuel generalizing items with
  | zero => exact ⟨rfl, List.forall_mem_nil _, Nat.lt_of_le_of_lt enough positive⟩
  | succ fuel ih =>
      by_cases short : items.length < size
      · simp only [Uplink.cutBatches, short, ↓reduceIte]
        exact ⟨rfl, List.forall_mem_nil _, short⟩
      · have shorter : (items.drop size).length ≤ fuel := by
          rw [List.length_drop]
          omega
        obtain ⟨whole, filled, rest⟩ := ih shorter
        simp only [Uplink.cutBatches, short, ↓reduceIte]
        refine ⟨?_, ?_, rest⟩
        · rw [List.flatten_cons, List.append_assoc, whole, List.take_append_drop]
        · refine List.forall_mem_cons.2 ⟨?_, filled⟩
          rw [List.length_take]
          omega

theorem append {middle : List α} (first : IsCut size full middle items)
    (second : IsCut size others rest (middle ++ more)) :
    IsCut size (full ++ others) rest (items ++ more) := by
  refine ⟨?_, ?_, second.short⟩
  · rw [List.flatten_append, List.append_assoc, second.whole, ← List.append_assoc, first.whole]
  · exact List.forall_mem_append.2 ⟨first.filled, second.filled⟩

theorem unique {left right : List α} (one : IsCut size full left items)
    (other : IsCut size others right items) : full = others ∧ left = right := by
  induction full generalizing others items with
  | nil =>
      cases others with
      | nil => exact ⟨rfl, one.whole.trans other.whole.symm⟩
      | cons batch others =>
          have long := congrArg List.length (one.whole.trans other.whole.symm)
          have filled := other.filled batch List.mem_cons_self
          have short := one.short
          simp only [List.flatten_nil, List.nil_append, List.flatten_cons, List.length_append]
            at long
          omega
  | cons batch full ih =>
      cases others with
      | nil =>
          have long := congrArg List.length (one.whole.trans other.whole.symm)
          have filled := one.filled batch List.mem_cons_self
          have short := other.short
          simp only [List.flatten_nil, List.nil_append, List.flatten_cons, List.length_append]
            at long
          omega
      | cons batch' others =>
          have same := one.whole.trans other.whole.symm
          simp only [List.flatten_cons, List.append_assoc] at same
          have equal := (one.filled batch List.mem_cons_self).trans
            (other.filled batch' List.mem_cons_self).symm
          obtain ⟨rfl, later⟩ := List.append_inj same equal
          have tail : IsCut size full left (full.flatten ++ left) :=
            ⟨rfl, fun batch member => one.filled batch (List.mem_cons_of_mem _ member), one.short⟩
          have tail' : IsCut size others right (full.flatten ++ left) :=
            ⟨later.symm, fun batch member => other.filled batch (List.mem_cons_of_mem _ member),
              other.short⟩
          obtain ⟨rfl, rfl⟩ := ih tail tail'
          exact ⟨rfl, rfl⟩

end IsCut

/-! ## What is decoded -/

/-- The listings of list items up to the first one that does not decode. -/
def decodedUpToFault : List Bytes → List Listing
  | [] => []
  | element :: rest =>
      match decodeElement element with
      | .ok listing => listing :: decodedUpToFault rest
      | .error _ => []

theorem decodeElements?_cons (element : Bytes) (rest : List Bytes) :
    decodeElements? (element :: rest) =
      match decodeElement element with
      | .ok listing => (decodeElements? rest).map fun listings => listing :: listings
      | .error _ => none := by
  cases decoded : decodeElement element with
  | error fault => simp [decodeElements?, decoded, Except.toOption]
  | ok listing =>
      cases later : decodeElements? rest with
      | none => simp_all [decodeElements?, Except.toOption]
      | some listings => simp_all [decodeElements?, Except.toOption]

theorem decodedUpToFault_append {elements : List Bytes} {listings : List Listing}
    (decoded : decodeElements? elements = some listings) (others : List Bytes) :
    decodedUpToFault (elements ++ others) = listings ++ decodedUpToFault others := by
  induction elements generalizing listings with
  | nil =>
      cases decoded
      rfl
  | cons element rest ih =>
      rw [decodeElements?_cons] at decoded
      cases single : decodeElement element with
      | error fault => simp [single] at decoded
      | ok listing =>
          simp only [single, Option.map_eq_some_iff] at decoded
          obtain ⟨later, decoded, rfl⟩ := decoded
          simp only [List.cons_append, decodedUpToFault, single, ih decoded]

theorem decodeElements?_append_isSome (elements others : List Bytes) :
    (decodeElements? (elements ++ others)).isSome =
      ((decodeElements? elements).isSome && (decodeElements? others).isSome) := by
  induction elements with
  | nil => rfl
  | cons element rest ih =>
      rw [List.cons_append, decodeElements?_cons, decodeElements?_cons]
      cases decodeElement element with
      | error fault => rfl
      | ok listing => simp only [Option.isSome_map, ih]

/-! ## What is handed on -/

/-- A body in chunks that perhaps breaks off behind them. -/
def bodyOf (chunks : List Bytes) (broken : Bool) : List Arrival :=
  chunks.map .bytes ++ if broken then [.broken] else []

/-- Nothing fails exactly if the body is complete and all that is found in it decodes. -/
theorem deliverFrom_failure_eq_none {size : Nat} {scanner : Scanner} {pending : List Listing}
    {chunks : List Bytes} {broken : Bool} :
    (deliverFrom size scanner pending (bodyOf chunks broken)).failure = none ↔
      broken = false ∧ (scanner.feedChunks chunks).1.isComplete = true ∧
        (decodeElements? (scanner.feedChunks chunks).2).isSome = true := by
  induction chunks generalizing scanner pending with
  | nil =>
      cases broken with
      | true => simp [bodyOf, deliverFrom]
      | false =>
          cases complete : scanner.isComplete <;>
            simp [bodyOf, deliverFrom, complete, Scanner.feedChunks, decodeElements?]
  | cons chunk rest ih =>
      simp only [bodyOf, List.map_cons, List.cons_append, deliverFrom, Scanner.feedChunks,
        decodeElements?_append_isSome]
      cases decodeElements? (scanner.feed chunk).2 with
      | none => simp
      | some found =>
          simp only [Option.isSome_some, Bool.true_and]
          exact ih

/-- A body that does not break off can fail only to decode. -/
theorem deliverFrom_failure_eq_decode {size : Nat} {scanner : Scanner} {pending : List Listing}
    {chunks : List Bytes}
    (failed : (deliverFrom size scanner pending (bodyOf chunks false)).failure ≠ none) :
    ∃ place, (deliverFrom size scanner pending (bodyOf chunks false)).failure =
      some (.decode place) := by
  induction chunks generalizing scanner pending with
  | nil =>
      simp only [bodyOf, List.map_nil, List.nil_append, Bool.false_eq_true, ↓reduceIte,
        deliverFrom] at failed ⊢
      cases complete : scanner.isComplete with
      | true => simp [complete] at failed
      | false => exact ⟨.body, rfl⟩
  | cons chunk rest ih =>
      simp only [bodyOf, List.map_cons, List.cons_append, deliverFrom] at failed ⊢
      cases decoded : decodeElements? (scanner.feed chunk).2 with
      | none => exact ⟨.element, rfl⟩
      | some found =>
          simp only [decoded] at failed
          exact ih failed

/-- Results in full batches: with the rest behind them if nothing fails, and as many of them as
were handed on before the failure if something does. -/
inductive Delivery.Hands (size : Nat) (results : List Listing) : Delivery → Prop where
  | all {full : List (List Listing)} {rest : List Listing} : IsCut size full rest results →
      Hands size results ⟨full ++ if rest.isEmpty then [] else [rest], none⟩
  | front {full : List (List Listing)} {failure : BatchFailure} :
      (∀ batch ∈ full, batch.length = size) → full.flatten <+: results →
      Hands size results ⟨full, some failure⟩

theorem Delivery.Hands.after {size : Nat} {full : List (List Listing)}
    {rest results more : List Listing} {delivery : Delivery} (cut : IsCut size full rest results)
    (hands : delivery.Hands size (rest ++ more)) :
    (delivery.after full).Hands size (results ++ more) := by
  cases hands with
  | all further =>
      simp only [Delivery.after, ← List.append_assoc]
      exact .all (cut.append further)
  | front filled front =>
      refine .front (List.forall_mem_append.2 ⟨cut.filled, filled⟩) ?_
      rw [List.flatten_append, ← cut.whole, List.append_assoc]
      exact (List.prefix_append_right_inj _).2 front

theorem deliverFrom_hands {size : Nat} (positive : 0 < size) (scanner : Scanner)
    (pending : List Listing) (short : pending.length < size) (chunks : List Bytes)
    (broken : Bool) :
    (deliverFrom size scanner pending (bodyOf chunks broken)).Hands size
      (pending ++ decodedUpToFault (scanner.feedChunks chunks).2) := by
  induction chunks generalizing scanner pending with
  | nil =>
      simp only [bodyOf, Scanner.feedChunks, decodedUpToFault, List.append_nil, List.map_nil,
        List.nil_append]
      cases broken with
      | true => exact .front (List.forall_mem_nil _) List.nil_prefix
      | false =>
          simp only [Bool.false_eq_true, ↓reduceIte, deliverFrom]
          cases scanner.isComplete with
          | true =>
              have rest : IsCut size [] pending pending := ⟨rfl, List.forall_mem_nil _, short⟩
              exact .all rest
          | false => exact .front (List.forall_mem_nil _) List.nil_prefix
  | cons chunk rest ih =>
      simp only [bodyOf, List.map_cons, List.cons_append, deliverFrom, Scanner.feedChunks]
      cases decoded : decodeElements? (scanner.feed chunk).2 with
      | none => exact .front (List.forall_mem_nil _) List.nil_prefix
      | some found =>
          rw [decodedUpToFault_append decoded, ← List.append_assoc]
          have cut := IsCut.cutBatches positive (Nat.le_refl (pending ++ found).length)
          exact .after cut (ih _ _ cut.short)

def Delivery.stream (delivery : Delivery) : List (Except BatchFailure (List Listing)) :=
  delivery.batches.map .ok ++ delivery.failure.toList.map .error

/-! ## Pulling -/

namespace BodyBatches

/-- What is pulled until nothing is left. -/
inductive Streams : BodyBatches → List (Except BatchFailure (List Listing)) → Prop where
  | nil {batches : BodyBatches} : batches.next? = none → Streams batches []
  | cons {batches next : BodyBatches} {item : Except BatchFailure (List Listing)}
      {items : List (Except BatchFailure (List Listing))} :
      batches.next? = some (item, next) → Streams next items → Streams batches (item :: items)

theorem Streams.unique {batches : BodyBatches}
    {items others : List (Except BatchFailure (List Listing))} (one : batches.Streams items)
    (other : batches.Streams others) : items = others := by
  induction one generalizing others with
  | nil stopped =>
      cases other with
      | nil => rfl
      | cons pulled _ => cases stopped.symm.trans pulled
  | cons pulled _ ih =>
      cases other with
      | nil stopped => cases stopped.symm.trans pulled
      | cons again others =>
          cases pulled.symm.trans again
          rw [ih others]

theorem Streams.of_next?_eq {batches other : BodyBatches}
    {items : List (Except BatchFailure (List Listing))} (same : batches.next? = other.next?)
    (streams : other.Streams items) : batches.Streams items := by
  cases streams with
  | nil stopped => exact .nil (same.trans stopped)
  | cons pulled later => exact .cons (same.trans pulled) later

theorem next?_finished (batches : BodyBatches) (short : batches.pending.length < batches.maxBatch)
    (finished : batches.finished = true) :
    batches.next? = if batches.pending.isEmpty then none
      else some (.ok batches.pending, { batches with pending := [] }) := by
  rw [next?, if_neg (Nat.not_le.2 short), if_pos finished]

theorem next?_awaiting (batches : BodyBatches) (short : batches.pending.length < batches.maxBatch)
    (awaiting : batches.finished = false) :
    batches.next? = match batches.body with
      | [] =>
          if batches.scanner.isComplete then { batches with finished := true }.next?
          else some (batches.fail (.decode .body))
      | .broken :: _ => some (batches.fail .transport)
      | .bytes chunk :: rest =>
          match decodeElements? (batches.scanner.feed chunk).2 with
          | none => some (batches.fail (.decode .element))
          | some found =>
              { batches with
                scanner := (batches.scanner.feed chunk).1
                pending := batches.pending ++ found
                body := rest }.next? := by
  obtain ⟨scanner, pending, maxBatch, finished, body⟩ := batches
  cases awaiting
  rw [next?, if_neg (Nat.not_le.2 short), if_neg Bool.false_ne_true]
  cases body with
  | nil => rfl
  | cons arrival rest => cases arrival <;> rfl

/-- Full batches are pulled first. -/
theorem Streams.full (batches : BodyBatches) {full : List (List Listing)}
    {rest pending : List Listing} {items : List (Except BatchFailure (List Listing))}
    (cut : IsCut batches.maxBatch full rest pending)
    (streams : { batches with pending := rest }.Streams items) :
    { batches with pending }.Streams (full.map Except.ok ++ items) := by
  obtain ⟨rfl, filled, -⟩ := cut
  induction full with
  | nil => exact streams
  | cons batch others ih =>
      have size := filled batch List.mem_cons_self
      refine .cons ?_ (ih fun batch member => filled batch (List.mem_cons_of_mem _ member))
      rw [next?]
      simp [← size]

/-- A finished body without a full batch gives its rest. -/
theorem streams_finished (batches : BodyBatches) (short : batches.pending.length < batches.maxBatch)
    (finished : batches.finished = true) :
    batches.Streams
      ((if batches.pending.isEmpty then [] else [batches.pending]).map Except.ok) := by
  have pulled := next?_finished batches short finished
  cases empty : batches.pending.isEmpty with
  | true =>
      rw [empty] at pulled
      exact .nil pulled
  | false =>
      rw [empty] at pulled
      have positive : 0 < batches.maxBatch := Nat.lt_of_le_of_lt (Nat.zero_le _) short
      have drained := next?_finished { batches with pending := [] } positive finished
      exact .cons pulled (.nil drained)

/-- Nothing follows a failure. -/
theorem streams_failed {batches : BodyBatches} (positive : 0 < batches.maxBatch)
    {failure : BatchFailure} (failed : batches.next? = some (batches.fail failure)) :
    batches.Streams [.error failure] :=
  .cons failed (streams_finished (batches.fail failure).2 positive rfl)

theorem streams_deliverFrom {size : Nat} (scanner : Scanner) {pending : List Listing}
    (short : pending.length < size) (body : List Arrival) :
    (BodyBatches.mk scanner pending size false body).Streams
      (deliverFrom size scanner pending body).stream := by
  have positive : 0 < size := Nat.lt_of_le_of_lt (Nat.zero_le _) short
  induction body generalizing scanner pending with
  | nil =>
      have pulled := next?_awaiting ⟨scanner, pending, size, false, []⟩ short rfl
      simp only [deliverFrom]
      cases complete : scanner.isComplete with
      | true =>
          simp only [complete, ↓reduceIte] at pulled ⊢
          have rest := streams_finished ⟨scanner, pending, size, true, []⟩ short rfl
          have streams := Streams.of_next?_eq pulled rest
          simpa only [Delivery.stream, Option.toList_none, List.map_nil, List.append_nil]
            using streams
      | false =>
          simp only [complete, ↓reduceIte, Bool.false_eq_true] at pulled ⊢
          exact streams_failed positive pulled
  | cons arrival rest ih =>
      have pulled :=
        next?_awaiting ⟨scanner, pending, size, false, arrival :: rest⟩ short rfl
      cases arrival with
      | broken => exact streams_failed positive pulled
      | bytes chunk =>
          simp only [deliverFrom]
          cases decoded : decodeElements? (scanner.feed chunk).2 with
          | none =>
              simp only [decoded] at pulled
              exact streams_failed positive pulled
          | some found =>
              simp only [decoded] at pulled
              have cut := IsCut.cutBatches positive (Nat.le_refl (pending ++ found).length)
              have later := ih (scanner.feed chunk).1 cut.short
              have streams :=
                Streams.full ⟨(scanner.feed chunk).1, [], size, false, rest⟩ cut later
              have whole := Streams.of_next?_eq pulled streams
              simpa only [Delivery.stream, Delivery.after, List.map_append, List.append_assoc]
                using whole

/-- What is pulled is what is delivered. -/
theorem streams_start (maxBatch : Nat) (body : List Arrival) :
    (start maxBatch body).Streams (deliver maxBatch body).stream :=
  streams_deliverFrom _ (Nat.lt_of_lt_of_le Nat.one_pos (Nat.le_max_left _ _)) body

theorem streams_iff {maxBatch : Nat} {body : List Arrival}
    {items : List (Except BatchFailure (List Listing))} :
    (start maxBatch body).Streams items ↔ items = (deliver maxBatch body).stream := by
  constructor
  · intro pulled
    exact pulled.unique (streams_start maxBatch body)
  · rintro rfl
    exact streams_start maxBatch body

end BodyBatches

/-! ## The batches of a body -/

namespace Delivery.Hands

variable {size : Nat} {results : List Listing} {delivery other : Delivery}

/-- What ends well is handed on whole. -/
theorem flatten_eq (hands : delivery.Hands size results) (clean : delivery.failure = none) :
    delivery.batches.flatten = results := by
  cases hands with
  | @all full rest cut =>
      rw [← cut.whole]
      cases rest <;> simp
  | front => cases clean

theorem flatten_prefix (hands : delivery.Hands size results) :
    delivery.batches.flatten <+: results := by
  cases hands with
  | all cut =>
      have whole := flatten_eq (.all cut) rfl
      exact ⟨[], by rw [List.append_nil, whole]⟩
  | front _ front => exact front

theorem length_eq (hands : delivery.Hands size results) (failed : delivery.failure.isSome = true) :
    ∀ batch ∈ delivery.batches, batch.length = size := by
  cases hands with
  | all => cases failed
  | front filled => exact filled

theorem length_eq_of_mem_dropLast (hands : delivery.Hands size results) :
    ∀ batch ∈ delivery.batches.dropLast, batch.length = size := by
  cases hands with
  | @all full rest cut =>
      intro batch member
      cases rest with
      | nil =>
          rw [List.isEmpty_nil, if_pos rfl, List.append_nil] at member
          exact cut.filled batch (List.dropLast_subset _ member)
      | cons first others =>
          rw [List.isEmpty_cons, if_neg Bool.false_ne_true, List.dropLast_concat] at member
          exact cut.filled batch member
  | front filled => exact fun batch member => filled batch (List.dropLast_subset _ member)

theorem bounds (hands : delivery.Hands size results) (positive : 0 < size) :
    ∀ batch ∈ delivery.batches, batch ≠ [] ∧ batch.length ≤ size := by
  have filled {batch : List Listing} (full : batch.length = size) :
      batch ≠ [] ∧ batch.length ≤ size :=
    ⟨List.ne_nil_of_length_pos (full ▸ positive), Nat.le_of_eq full⟩
  cases hands with
  | @all full rest cut =>
      refine List.forall_mem_append.2 ⟨fun batch member => filled (cut.filled batch member), ?_⟩
      cases rest with
      | nil => exact List.forall_mem_nil _
      | cons first others =>
          exact List.forall_mem_singleton.2 ⟨List.cons_ne_nil _ _, Nat.le_of_lt cut.short⟩
  | front full => exact fun batch member => filled (full batch member)

/-- Only one way leads to a good end. -/
theorem unique (hands : delivery.Hands size results) (hands' : other.Hands size results)
    (clean : delivery.failure = none) (clean' : other.failure = none) : delivery = other := by
  cases hands with
  | front => cases clean
  | all cut =>
      cases hands' with
      | front => cases clean'
      | all cut' =>
          obtain ⟨rfl, rfl⟩ := cut.unique cut'
          rfl

end Delivery.Hands

theorem decodedUpToFault_eq {elements : List Bytes} {listings : List Listing}
    (decoded : decodeElements? elements = some listings) :
    decodedUpToFault elements = listings := by
  have whole := decodedUpToFault_append decoded []
  rwa [List.append_nil, decodedUpToFault, List.append_nil] at whole

theorem deliver_hands (maxBatch : Nat) (chunks : List Bytes) (broken : Bool) :
    (deliver maxBatch (bodyOf chunks broken)).Hands (max 1 maxBatch)
      (decodedUpToFault (Scanner.start.feedChunks chunks).2) :=
  have positive : 0 < max 1 maxBatch := Nat.lt_of_lt_of_le Nat.one_pos (Nat.le_max_left _ _)
  deliverFrom_hands positive _ [] positive chunks broken

/-- Where a body that ends well is cut into chunks does not matter. -/
theorem deliver_eq_of_flatten_eq {maxBatch : Nat} {chunks others : List Bytes} {broken : Bool}
    (clean : (deliver maxBatch (bodyOf chunks broken)).failure = none)
    (same : others.flatten = chunks.flatten) :
    deliver maxBatch (bodyOf others false) = deliver maxBatch (bodyOf chunks broken) := by
  have fed : Scanner.start.feedChunks others = Scanner.start.feedChunks chunks := by
    rw [Scanner.feedChunks_eq, Scanner.feedChunks_eq, same]
  have known := deliverFrom_failure_eq_none.1 clean
  rw [← fed] at known
  have clean' : (deliver maxBatch (bodyOf others false)).failure = none :=
    deliverFrom_failure_eq_none.2 ⟨rfl, known.2⟩
  have hands := deliver_hands maxBatch others false
  rw [fed] at hands
  exact hands.unique (deliver_hands maxBatch chunks broken) clean' clean

/-- What is pulled from a body, whatever its chunks are and whether it breaks off. -/
theorem streams_bodyOf (maxBatch : Nat) (chunks : List Bytes) (broken : Bool) :
    ∃ (batches : List (List Listing)) (failure : Option BatchFailure),
      (∀ items, (BodyBatches.start maxBatch (bodyOf chunks broken)).Streams items ↔
        items = batches.map Except.ok ++ failure.toList.map Except.error) ∧
      (∀ batch ∈ batches, batch ≠ [] ∧ batch.length ≤ max 1 maxBatch) ∧
      batches.flatten <+: decodedUpToFault (Scanner.start.feedChunks chunks).2 ∧
      (failure.isSome = true → ∀ batch ∈ batches, batch.length = max 1 maxBatch) ∧
      (failure = none →
        decodeElements? (Scanner.start.feedChunks chunks).2 = some batches.flatten ∧
        (∀ batch ∈ batches.dropLast, batch.length = max 1 maxBatch) ∧
        ∀ others : List Bytes, others.flatten = chunks.flatten →
          (BodyBatches.start maxBatch (bodyOf others false)).Streams (batches.map Except.ok)) := by
  have hands := deliver_hands maxBatch chunks broken
  have streams := BodyBatches.streams_start maxBatch (bodyOf chunks broken)
  have positive : 0 < max 1 maxBatch := Nat.lt_of_lt_of_le Nat.one_pos (Nat.le_max_left _ _)
  refine ⟨_, _, fun items => ⟨fun pulled => pulled.unique streams, fun same => same ▸ streams⟩,
    hands.bounds positive, hands.flatten_prefix, hands.length_eq, fun clean => ⟨?_,
    hands.length_eq_of_mem_dropLast, fun others same => ?_⟩⟩
  · obtain ⟨-, -, decodes⟩ := deliverFrom_failure_eq_none.1 clean
    obtain ⟨listings, decoded⟩ := Option.isSome_iff_exists.1 decodes
    rw [decoded, hands.flatten_eq clean, decodedUpToFault_eq decoded]
  · have pulled := BodyBatches.streams_start maxBatch (bodyOf others false)
    rw [deliver_eq_of_flatten_eq clean same] at pulled
    simpa only [Delivery.stream, clean, Option.toList_none, List.map_nil, List.append_nil]
      using pulled

end PackageSearch.Uplink
