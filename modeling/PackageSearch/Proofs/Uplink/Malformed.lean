import PackageSearch.Proofs.Uplink.Losses
import PackageSearch.Proofs.Uplink.Taken
import PackageSearch.Proofs.Uplink.Truncation

/-!
# Bodies that are no documents

A body is taken for whole if the first bracket outside of its texts is a brace, no text is open at
its end, and brackets counted without their kind leave nothing open. Whether a closing bracket is of
the kind of its opening one, and what stands before and behind the root, is not looked at. Only the
elements that are handed on are read, so in them the brackets do match.
-/

set_option autoImplicit false

namespace PackageSearch.Uplink

open Json (isSpace)
open Json.Syntax
open Package (Listing)
open Scanner (quotationMark reverseSolidus isOpening isClosing isIdle)

/-! ## Bytes outside of texts -/

/-- Where a byte stands: outside of texts, in a text, or behind a reverse solidus in one. -/
inductive Quoting where
  | outside
  | inside
  | escaped
  deriving DecidableEq

namespace Quoting

def step : Quoting → UInt8 → Quoting
  | .outside, byte => if byte = quotationMark then .inside else .outside
  | .inside, byte =>
      if byte = reverseSolidus then .escaped
      else if byte = quotationMark then .outside
      else .inside
  | .escaped, _ => .inside

def after (quoting : Quoting) (bytes : Bytes) : Quoting :=
  bytes.foldl step quoting

theorem after_append (quoting : Quoting) (left right : Bytes) :
    quoting.after (left ++ right) = (quoting.after left).after right :=
  List.foldl_append

/-- The bytes outside of texts. Of a text its first quotation mark is left. -/
def unquoted : Quoting → Bytes → Bytes
  | _, [] => []
  | quoting, byte :: rest =>
      if quoting = .outside then byte :: unquoted (quoting.step byte) rest
      else unquoted (quoting.step byte) rest

theorem unquoted_append (quoting : Quoting) (left right : Bytes) :
    quoting.unquoted (left ++ right) =
      quoting.unquoted left ++ (quoting.after left).unquoted right := by
  induction left generalizing quoting with
  | nil => rfl
  | cons byte rest ih =>
      simp only [List.cons_append, unquoted, ih]
      split <;> rfl

end Quoting

def bare (body : Bytes) : Bytes :=
  Quoting.outside.unquoted body

/-! ## Brackets of one kind -/

def closingOf (opening : UInt8) : UInt8 :=
  if opening = 0x7b then 0x7d else 0x5d

/-- Take a byte while the given brackets are wanted, the next one first; a closing bracket that is
not wanted has no continuation. -/
def pairStep (wanted : Bytes) (byte : UInt8) : Option Bytes :=
  if isOpening byte then some (closingOf byte :: wanted)
  else if isClosing byte then if wanted.head? = some byte then some wanted.tail else none
  else some wanted

def wantedAfter (wanted bytes : Bytes) : Option Bytes :=
  bytes.foldlM pairStep wanted

/-- The brackets outside of texts come in pairs of one kind. -/
def IsPaired (body : Bytes) : Prop :=
  wantedAfter [] (bare body) = some []

instance (body : Bytes) : Decidable (IsPaired body) :=
  inferInstanceAs (Decidable (_ = _))

/-! ## Brackets of any kind -/

def openStep (count : Nat) (byte : UInt8) : Nat :=
  if isOpening byte then count + 1 else if isClosing byte then count - 1 else count

def openAfter (count : Nat) (bytes : Bytes) : Nat :=
  bytes.foldl openStep count

/-- The first bracket that opens is a brace, and at the end neither a text is open nor a bracket,
when brackets are counted without their kind. -/
structure Closes (body : Bytes) : Prop where
  brace : (bare body).find? isOpening = some 0x7b
  counted : openAfter 0 (bare body) = 0
  outside : Quoting.outside.after body = .outside

/-! ## Malformed bodies -/

/-- What follows when as many brackets are closed as were opened. -/
def behindRoot : Nat → Bytes → Bytes
  | _, [] => []
  | count, byte :: rest =>
      if openStep count byte = 0 then rest else behindRoot (openStep count byte) rest

/-- The brackets do not match in kind, or something stands before the root opens or behind it. -/
def Malformed (body : Bytes) : Prop :=
  let root := (bare body).dropWhile fun byte => ! isOpening byte
  ¬ IsPaired body ∨
    (∃ byte ∈ (bare body).takeWhile fun byte => ! isOpening byte, isSpace byte = false) ∨
    ∃ byte ∈ behindRoot 0 root, isSpace byte = false

instance (body : Bytes) : Decidable (Malformed body) :=
  inferInstanceAs (Decidable (_ ∨ _ ∨ _))

/-! ## What the scanner looks at -/

namespace Position

def ofQuoting (count : Nat) (quoting : Quoting) : Position :=
  ⟨count, quoting ≠ .outside, quoting = .escaped⟩

theorem step_ofQuoting (count : Nat) (quoting : Quoting) (byte : UInt8) :
    (ofQuoting count quoting).step byte =
      ofQuoting (openAfter count (quoting.unquoted [byte])) (quoting.step byte) := by
  cases quoting with
  | outside =>
      by_cases mark : byte = quotationMark
      · subst mark
        rfl
      · simp only [step, ofQuoting, Quoting.step, mark, if_false]
        by_cases opens : isOpening byte = true
        · simp [openAfter, openStep, Quoting.unquoted, opens]
        · by_cases closes : isClosing byte = true
          · simp [openAfter, openStep, Quoting.unquoted, opens, closes]
          · simp [openAfter, openStep, Quoting.unquoted, opens, closes]
  | inside =>
      by_cases escape : byte = reverseSolidus
      · subst escape
        rfl
      · by_cases mark : byte = quotationMark
        · subst mark
          rfl
        · simp [step, ofQuoting, Quoting.step, Quoting.unquoted, openAfter, escape, mark]
  | escaped => rfl

theorem after_ofQuoting (count : Nat) (quoting : Quoting) (bytes : Bytes) :
    (ofQuoting count quoting).after bytes =
      ofQuoting (openAfter count (quoting.unquoted bytes)) (quoting.after bytes) := by
  induction bytes generalizing count quoting with
  | nil => rfl
  | cons byte rest ih =>
      have split : quoting.unquoted (byte :: rest) =
          quoting.unquoted [byte] ++ (quoting.step byte).unquoted rest :=
        quoting.unquoted_append [byte] rest
      rw [split, openAfter, List.foldl_append]
      show ((ofQuoting count quoting).step byte).after rest = _
      rw [step_ofQuoting, ih]
      rfl

end Position

namespace Scanner

theorem root_stepInText (scanner : Scanner) (byte : UInt8) :
    (scanner.stepInText byte).root = scanner.root := by
  simp only [stepInText_eq]
  repeat' split
  all_goals rfl

theorem root_openText (scanner : Scanner) : scanner.openText.root = scanner.root := by
  unfold openText
  dsimp only
  repeat' split
  all_goals rfl

theorem root_closeBracket (scanner : Scanner) (byte : UInt8) :
    (scanner.closeBracket byte).1.root = scanner.root := by
  unfold closeBracket
  dsimp only
  repeat' split
  all_goals rfl

theorem root_step_of_opening {scanner : Scanner} {byte : UInt8} (between : scanner.inText = false)
    (opens : isOpening byte = true) (rootless : scanner.root = none → scanner.depth = 0) :
    (scanner.step byte).1.root = scanner.root.or (some byte) := by
  have noMark : byte ≠ quotationMark := by
    rintro rfl
    cases opens
  rw [step, if_neg (by simp [between]), if_neg noMark, if_pos opens]
  cases root : scanner.root with
  | none => simp [openBracket, root, rootless root]
  | some first => simp [openBracket, root]

theorem root_step_of_not_opening {scanner : Scanner} {byte : UInt8}
    (other : scanner.inText = false → isOpening byte = false) :
    (scanner.step byte).1.root = scanner.root := by
  unfold step
  split
  · exact root_stepInText scanner byte
  rename_i outside
  have notOpening := other (Bool.eq_false_iff.mpr outside)
  split
  · exact root_openText scanner
  rw [if_neg (by simp [notOpening])]
  split
  · exact root_closeBracket scanner byte
  · split <;> rfl

theorem root_feed {scanner : Scanner} (quoting : Quoting)
    (position : scanner.position = .ofQuoting scanner.depth quoting)
    (rootless : scanner.root = none → scanner.depth = 0) (bytes : Bytes) :
    (scanner.feed bytes).1.root = scanner.root.or ((quoting.unquoted bytes).find? isOpening) := by
  induction bytes generalizing scanner quoting with
  | nil => exact Option.or_none.symm
  | cons byte rest ih =>
      have whole : scanner.Reads (byte :: rest) _ _ :=
        (Reads.single rfl).append ((scanner.step byte).1.reads_feed rest)
      have moved := scanner.position_step byte
      rw [position, Position.step_ofQuoting] at moved
      have depth : (scanner.step byte).1.depth =
          openAfter scanner.depth (quoting.unquoted [byte]) := congrArg Position.depth moved
      rw [← depth] at moved
      have between : scanner.inText = decide (quoting ≠ .outside) :=
        congrArg Position.inText position
      rw [whole.feed_eq]
      -- While there is no root the depth is zero, so the first bracket that opens becomes the root.
      by_cases opens : quoting = .outside ∧ isOpening byte = true
      · obtain ⟨rfl, opening⟩ := opens
        have root := root_step_of_opening (by simpa using between) opening rootless
        rw [ih _ moved (by rw [root]; cases scanner.root <;> nofun), root, Option.or_assoc,
          Quoting.unquoted, if_pos rfl, List.find?_cons_of_pos opening, Option.some_or]
      · have root : (scanner.step byte).1.root = scanner.root := by
          apply root_step_of_not_opening
          intro outside
          rw [outside] at between
          simpa using fun opening => opens ⟨by simpa using between.symm, opening⟩
        have same : (quoting.unquoted (byte :: rest)).find? isOpening =
            ((quoting.step byte).unquoted rest).find? isOpening := by
          rw [Quoting.unquoted]
          split
          · rename_i outside
            rw [List.find?_cons_of_neg fun opening => opens ⟨outside, opening⟩]
          · rfl
        have flat : scanner.root = none → (scanner.step byte).1.depth = 0 := by
          intro none
          rw [depth, rootless none, Quoting.unquoted]
          split
          · rename_i outside
            have notOpening : isOpening byte = false :=
              Bool.eq_false_iff.mpr fun opening => opens ⟨outside, opening⟩
            simp [Quoting.unquoted, openAfter, openStep, notOpening]
          · rfl
        rw [ih _ moved (root ▸ flat), root, same]

theorem isComplete_iff_closes (body : Bytes) :
    (start.feed body).1.isComplete = true ↔ Closes body := by
  have root : (start.feed body).1.root = (bare body).find? isOpening :=
    (root_feed .outside rfl (fun _ => rfl) body).trans Option.none_or
  have position := position_feed start body
  rw [show start.position = .ofQuoting 0 .outside from rfl, Position.after_ofQuoting] at position
  have depth : (start.feed body).1.depth = openAfter 0 (bare body) :=
    congrArg Position.depth position
  have inText : (start.feed body).1.inText = decide (Quoting.outside.after body ≠ .outside) :=
    congrArg Position.inText position
  simp only [isComplete, root, depth, inText, Bool.and_eq_true, decide_eq_true_eq,
    Bool.not_eq_true', decide_eq_false_iff_not, not_not, ne_eq]
  constructor
  · rintro ⟨⟨brace, counted⟩, outside⟩
    exact ⟨brace, counted, outside⟩
  · rintro ⟨brace, counted, outside⟩
    exact ⟨⟨brace, counted⟩, outside⟩

end Scanner

/-! ## Elements -/

theorem wantedAfter_append (wanted left right : Bytes) :
    wantedAfter wanted (left ++ right) =
      (wantedAfter wanted left).bind fun wanted => wantedAfter wanted right :=
  List.foldlM_append

/-- The bytes end outside of texts, and all brackets that they open they close with their kind. -/
structure Balanced (bytes : Bytes) : Prop where
  outside : Quoting.outside.after bytes = .outside
  paired : ∀ wanted, wantedAfter wanted (bare bytes) = some wanted

namespace Balanced

theorem append {left right : Bytes} (first : Balanced left) (second : Balanced right) :
    Balanced (left ++ right) where
  outside := by rw [Quoting.after_append, first.outside, second.outside]
  paired wanted := by
    rw [bare, Quoting.unquoted_append, first.outside, wantedAfter_append]
    exact (congrArg (Option.bind · _) (first.paired wanted)).trans (second.paired wanted)

theorem idle {bytes : Bytes} (all : ∀ byte ∈ bytes, isIdle byte = true) : Balanced bytes := by
  induction bytes with
  | nil => exact ⟨rfl, fun _ => rfl⟩
  | cons byte rest ih =>
      obtain ⟨unquoted, unopened, unclosed⟩ := Scanner.isIdle_iff.1 (all byte List.mem_cons_self)
      have single : Balanced [byte] := by
        constructor
        · simp [Quoting.after, Quoting.step, unquoted]
        · intro wanted
          simp [wantedAfter, bare, Quoting.unquoted, pairStep, unopened, unclosed]
      exact single.append (ih fun other member => all other (List.mem_cons_of_mem _ member))

theorem spelling_inside (parts : List Part) :
    Quoting.inside.after (spelling parts) = .inside ∧
      Quoting.inside.unquoted (spelling parts) = [] := by
  have plain {byte : UInt8} (unmarked : byte ≠ quotationMark ∧ byte ≠ reverseSolidus) :
      Quoting.inside.step byte = .inside := by
    simp [Quoting.step, unmarked]
  have part (part : Part) : Quoting.inside.after part.source = .inside ∧
      Quoting.inside.unquoted part.source = [] := by
    cases part with
    | plain byte known =>
        simp only [isPlain, Bool.and_eq_true, decide_eq_true_eq] at known
        exact ⟨plain ⟨known.1.2, known.2⟩, rfl⟩
    | escape letter _ => exact ⟨rfl, rfl⟩
    | unit first second third fourth =>
        have first := plain (Scanner.isPlain_hexDigit first)
        have second := plain (Scanner.isPlain_hexDigit second)
        have third := plain (Scanner.isPlain_hexDigit third)
        have fourth := plain (Scanner.isPlain_hexDigit fourth)
        have escape : Quoting.inside.step 0x5c = .escaped := rfl
        have letter : Quoting.escaped.step 0x75 = .inside := rfl
        simp [Part.source, Quoting.after, Quoting.unquoted, escape, letter, first, second, third,
          fourth]
  induction parts with
  | nil => exact ⟨rfl, rfl⟩
  | cons first rest ih =>
      obtain ⟨after, unseen⟩ := part first
      rw [spelling, List.flatMap_cons, Quoting.after_append, Quoting.unquoted_append, after, unseen]
      exact ⟨ih.1, ih.2⟩

theorem quoted (parts : List Part) : Balanced (quoted parts) := by
  obtain ⟨after, unseen⟩ := spelling_inside parts
  constructor
  · show Quoting.inside.after (spelling parts ++ [0x22]) = .outside
    rw [Quoting.after_append, after]
    rfl
  · intro wanted
    show wantedAfter wanted (0x22 :: Quoting.inside.unquoted (spelling parts ++ [0x22])) =
      some wanted
    rw [Quoting.unquoted_append, after, unseen]
    rfl

theorem brackets {inside : Bytes} {opening : UInt8} (opens : opening = 0x7b ∨ opening = 0x5b)
    (balanced : Balanced inside) : Balanced (opening :: (inside ++ [closingOf opening])) := by
  have enclosed (wanted : Bytes) :
      wantedAfter (closingOf opening :: wanted) (bare inside ++ [closingOf opening]) =
        some wanted := by
    rw [wantedAfter_append, balanced.paired]
    rcases opens with rfl | rfl <;> rfl
  have behind : Quoting.outside.unquoted (inside ++ [closingOf opening]) =
      bare inside ++ [closingOf opening] := by
    rw [Quoting.unquoted_append, balanced.outside]
    rfl
  constructor
  · have opened : Quoting.outside.step opening = .outside := by
      rcases opens with rfl | rfl <;> rfl
    show (Quoting.outside.step opening).after (inside ++ [closingOf opening]) = .outside
    rw [opened, Quoting.after_append, balanced.outside]
    rcases opens with rfl | rfl <;> rfl
  · intro wanted
    have whole : bare (opening :: (inside ++ [closingOf opening])) =
        opening :: (bare inside ++ [closingOf opening]) := by
      rw [← behind]
      rcases opens with rfl | rfl <;> rfl
    rw [whole, ← enclosed wanted]
    rcases opens with rfl | rfl <;> rfl

theorem composes : Scanner.Composes Balanced where
  idle := idle
  quoted := quoted
  append := append
  list := brackets (.inr rfl)
  record := brackets (.inl rfl)

end Balanced

theorem isPaired_of_decodeElement {element : Bytes} {listing : Listing}
    (decoded : decodeElement element = .ok listing) : IsPaired element :=
  (Json.Shape.holds_of_decode Balanced.composes decoded).paired []

theorem isPaired_of_decodeElements? {elements : List Bytes}
    (decoded : (decodeElements? elements).isSome = true) :
    ∀ element ∈ elements, IsPaired element := by
  induction elements with
  | nil => exact List.forall_mem_nil _
  | cons element rest ih =>
      rw [decodeElements?_cons] at decoded
      cases single : decodeElement element with
      | error fault =>
          rw [single] at decoded
          cases decoded
      | ok listing =>
          rw [single, Option.isSome_map] at decoded
          exact List.forall_mem_cons.2 ⟨isPaired_of_decodeElement single, ih decoded⟩

/-! ## How a stream ends -/

/-- Nothing but batches can be taken from a body. -/
def EndsWell (body : BodyBatches) : Prop :=
  ∃ batches : List (List Listing), ∀ items, body.Streams items ↔ items = batches.map .ok

/-- Batches and at last a decode error are what can be taken from a body. -/
def FailsToDecode (body : BodyBatches) : Prop :=
  ∃ (batches : List (List Listing)) (place : DecodePlace), ∀ items,
    body.Streams items ↔ items = batches.map .ok ++ [.error (.decode place)]

theorem not_failsToDecode_of_endsWell {body : BodyBatches} (well : EndsWell body) :
    ¬ FailsToDecode body := by
  obtain ⟨batches, ends⟩ := well
  rintro ⟨others, place, fails⟩
  have same := (ends _).1 ((fails _).2 rfl)
  have failed : .error (.decode place) ∈ batches.map (Except.ok (ε := BatchFailure)) :=
    same ▸ List.mem_append_right _ List.mem_cons_self
  obtain ⟨batch, -, wrong⟩ := List.mem_map.1 failed
  cases wrong

/-- A body ends well exactly if it closes and all that is found in it decodes; else it fails to
decode. So brackets that do not match in an element are noticed, and no others: whether a body is
malformed outside of its elements makes no difference. -/
theorem endsWell_iff_closes (chunks : List Bytes) (maxBatch : Nat) :
    let body := BodyBatches.start maxBatch (bodyOf chunks false)
    let found := (Scanner.start.feedChunks chunks).2
    (EndsWell body ↔ Closes chunks.flatten ∧ (decodeElements? found).isSome = true) ∧
      (FailsToDecode body ↔ ¬ (Closes chunks.flatten ∧ (decodeElements? found).isSome = true)) ∧
      ((∃ element ∈ found, ¬ IsPaired element) → FailsToDecode body) := by
  intro body found
  let delivery := deliver maxBatch (bodyOf chunks false)
  have clean_iff : delivery.failure = none ↔
      Closes chunks.flatten ∧ (decodeElements? found).isSome = true := by
    rw [← Scanner.isComplete_iff_closes, ← Scanner.feedChunks_eq]
    exact deliverFrom_failure_eq_none.trans (by simp [found])
  have streams (items : List (Except BatchFailure (List Listing))) :
      body.Streams items ↔ items = delivery.stream := BodyBatches.streams_iff
  have endsWell (clean : delivery.failure = none) : EndsWell body := by
    refine ⟨delivery.batches, fun items => ?_⟩
    rw [streams, Delivery.stream_eq_ok.2 ⟨clean, rfl⟩]
  have fails (failed : delivery.failure ≠ none) : FailsToDecode body := by
    obtain ⟨place, failure⟩ := deliverFrom_failure_eq_decode failed
    have failure : delivery.failure = some (.decode place) := failure
    refine ⟨delivery.batches, place, fun items => ?_⟩
    rw [streams, Delivery.stream, failure]
    rfl
  have ends_iff : EndsWell body ↔ delivery.failure = none := by
    refine ⟨fun well => ?_, endsWell⟩
    by_contra failed
    exact not_failsToDecode_of_endsWell well (fails failed)
  have fails_iff : FailsToDecode body ↔ delivery.failure ≠ none :=
    ⟨fun failed clean => not_failsToDecode_of_endsWell (endsWell clean) failed, fails⟩
  refine ⟨ends_iff.trans clean_iff, fails_iff.trans (not_congr clean_iff), ?_⟩
  rintro ⟨element, member, unpaired⟩
  refine fails fun clean => unpaired ?_
  exact isPaired_of_decodeElements? (clean_iff.1 clean).2 element member

/-- The body `{"objects":[{]]}`, byte by byte: the brackets of its one element do not match. -/
theorem failsToDecode_unpairedElement :
    let chunks := ("\x7b\"objects\":[\x7b]]\x7d".toUTF8.toList).map fun byte => [byte]
    (∃ element ∈ (Scanner.start.feedChunks chunks).2, ¬ IsPaired element) ∧
      FailsToDecode (BodyBatches.start 20 (bodyOf chunks false)) := by
  intro chunks
  have unpaired : ∃ element ∈ (Scanner.start.feedChunks chunks).2, ¬ IsPaired element := by
    decide +kernel
  exact ⟨unpaired, (endsWell_iff_closes chunks 20).2.2 unpaired⟩

theorem endsWell_of_stream_eq_nil {chunks : List Bytes} {maxBatch : Nat}
    (nothing : (deliver maxBatch (bodyOf chunks false)).stream = []) :
    EndsWell (BodyBatches.start maxBatch (bodyOf chunks false)) := by
  refine ⟨[], fun items => ?_⟩
  rw [BodyBatches.streams_iff, nothing]
  rfl

/-- A brace closed by a square bracket, a byte before the root, and one behind it: all three are
taken for a document without results. -/
theorem malformed_endsWell :
    (Malformed [0x7b, 0x5d] ∧ EndsWell (BodyBatches.start 20 (bodyOf [[0x7b, 0x5d]] false)) ∧
      ¬ FailsToDecode (BodyBatches.start 20 (bodyOf [[0x7b, 0x5d]] false))) ∧
    (Malformed [0x78, 0x7b, 0x7d] ∧
      EndsWell (BodyBatches.start 20 (bodyOf [[0x78, 0x7b, 0x7d]] false)) ∧
      ¬ FailsToDecode (BodyBatches.start 20 (bodyOf [[0x78, 0x7b, 0x7d]] false))) ∧
    Malformed [0x7b, 0x7d, 0x78] ∧
      EndsWell (BodyBatches.start 20 (bodyOf [[0x7b, 0x7d, 0x78]] false)) ∧
      ¬ FailsToDecode (BodyBatches.start 20 (bodyOf [[0x7b, 0x7d, 0x78]] false)) := by
  have overlooked (body : Bytes) (malformed : Malformed body)
      (quiet : (deliver 20 (bodyOf [body] false)).stream.isEmpty = true) :
      Malformed body ∧ EndsWell (BodyBatches.start 20 (bodyOf [body] false)) ∧
        ¬ FailsToDecode (BodyBatches.start 20 (bodyOf [body] false)) :=
    have well := endsWell_of_stream_eq_nil (List.isEmpty_iff.1 quiet)
    ⟨malformed, well, not_failsToDecode_of_endsWell well⟩
  refine ⟨overlooked _ ?_ ?_, overlooked _ ?_ ?_, overlooked _ ?_ ?_⟩ <;> decide +kernel

end PackageSearch.Uplink
