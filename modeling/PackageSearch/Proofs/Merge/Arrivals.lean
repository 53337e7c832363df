import PackageSearch.Merge.Consumer
import PackageSearch.Proofs.Interleaving
import PackageSearch.Proofs.Merge.Conduct

/-!
# What arrivals make of the merge

The state of the merge after some arrivals tells how many producers are not known to be done, which
listings match, and whether the local store failed; reports of uplinks leave all three alone.
-/

set_option autoImplicit false

namespace PackageSearch.Merge

open Package (Listing)

namespace Message

def item? : Message → Option Item
  | .item _ held => some held
  | .failed _ _ => none
  | .done _ => none

def source : Message → SourceId
  | .item source _ => source
  | .failed source _ => source
  | .done source => source

def isDone : Message → Bool
  | .item _ _ => false
  | .failed _ _ => false
  | .done _ => true

/-- The failure of the local store that a message reports. -/
def storeFailure? : Message → Option StoreError
  | .item _ _ => none
  | .failed _ (.store error) => some error
  | .failed _ (.uplink _) => none
  | .done _ => none

/-- What a message adds to the warnings of a search: the report of an uplink, under its name. -/
def warning? : Message → Option (String × UplinkError)
  | .item _ _ => none
  | .failed _ (.store _) => none
  | .failed source (.uplink error) => some (source.text, error)
  | .done _ => none

end Message

/-- The listings that messages bring, local records lifted, in the order of arrival. -/
def deliveredListings (arrivals : List Message) : List Listing :=
  (arrivals.filterMap Message.item?).flatMap Item.listings

namespace Consumer

variable {pattern : Matcher}

theorem foldl_awaited (consumer : Consumer) (arrivals : List Message) :
    (arrivals.foldl (receive pattern) consumer).awaited =
      consumer.awaited - arrivals.countP Message.isDone := by
  induction arrivals generalizing consumer with
  | nil => rfl
  | cons message rest ih =>
      rw [List.foldl_cons, ih]
      cases message with
      | item source item => rfl
      | failed source failure => cases failure <;> rfl
      | done source =>
          simp only [receive, List.countP_cons, Message.isDone, ↓reduceIte]
          omega

theorem foldl_merged (consumer : Consumer) (arrivals : List Message) :
    (arrivals.foldl (receive pattern) consumer).merged =
      consumer.merged ++
        (deliveredListings arrivals).filter fun listing => pattern.accepts listing.package := by
  induction arrivals generalizing consumer with
  | nil => simp [deliveredListings]
  | cons message rest ih =>
      rw [List.foldl_cons, ih]
      cases message with
      | item source item =>
          simp [receive, deliveredListings, Message.item?, List.filter_append]
      | failed source failure => cases failure <;> rfl
      | done source => rfl

theorem foldl_warnings (consumer : Consumer) (arrivals : List Message) :
    (arrivals.foldl (receive pattern) consumer).warnings =
      consumer.warnings ++ arrivals.filterMap Message.warning? := by
  induction arrivals generalizing consumer with
  | nil => exact (List.append_nil _).symm
  | cons message rest ih =>
      rw [List.foldl_cons, ih]
      cases message with
      | item source item => rfl
      | failed source failure =>
          cases failure with
          | store error => rfl
          | uplink error => exact List.append_assoc _ _ _
      | done source => rfl

theorem foldl_failure_eq_none_iff (consumer : Consumer) (arrivals : List Message) :
    (arrivals.foldl (receive pattern) consumer).failure = none ↔
      consumer.failure = none ∧ ∀ message ∈ arrivals, message.storeFailure? = none := by
  induction arrivals generalizing consumer with
  | nil => simp
  | cons message rest ih =>
      rw [List.foldl_cons, ih]
      cases message with
      | item source item => simp [receive, Message.storeFailure?]
      | failed source failure => cases failure <;> simp [receive, Message.storeFailure?]
      | done source => simp [receive, Message.storeFailure?]

theorem foldl_failure_eq_some {consumer : Consumer} {arrivals : List Message} {error : StoreError}
    (failed : (arrivals.foldl (receive pattern) consumer).failure = some error) :
    consumer.failure = some error ∨ ∃ message ∈ arrivals, message.storeFailure? = some error := by
  induction arrivals generalizing consumer with
  | nil => exact .inl failed
  | cons message rest ih =>
      rcases ih failed with earlier | ⟨later, member, reported⟩
      · cases message with
        | item source item => exact .inl earlier
        | done source => exact .inl earlier
        | failed source failure =>
            cases failure with
            | uplink _ => exact .inl earlier
            | store _ => exact .inr ⟨_, List.mem_cons_self, earlier⟩
      · exact .inr ⟨later, List.mem_cons_of_mem _ member, reported⟩

end Consumer

/-! ## What work sends, by kind of message -/

theorem source_of_mem_messagesOf {source : SourceId} {work : List Act} {message : Message}
    (member : message ∈ messagesOf source work) : message.source = source := by
  rw [messagesOf_eq, Exit.notices] at member
  simp only [List.mem_append, List.mem_map, List.mem_singleton] at member
  rcases member with ⟨item, -, rfl⟩ | ⟨failure, -, rfl⟩ | rfl <;> rfl

/-- Once a notice or a report has been sent, all items have. -/
theorem filterMap_item?_of_notice {source : SourceId} {sent : List Item} {exit : Exit}
    {past : List Message} (sends : past <+: sent.map (.item source) ++ exit.notices source)
    {message : Message} (member : message ∈ past) (other : message.item? = none) :
    past.filterMap Message.item? = sent := by
  obtain ⟨rest, whole⟩ := sends
  rcases List.append_eq_append_iff.1 whole with ⟨unsent, items, -⟩ | ⟨notices, rfl, all⟩
  · have item : message ∈ sent.map (.item source) := items ▸ List.mem_append_left _ member
    obtain ⟨held, -, rfl⟩ := List.mem_map.1 item
    cases other
  · have silent : notices.filterMap Message.item? = [] := by
      refine List.filterMap_eq_nil_iff.2 fun notice inside => ?_
      have among : notice ∈ exit.notices source := all ▸ List.mem_append_left _ inside
      simp only [Exit.notices, List.mem_append, List.mem_map, List.mem_singleton] at among
      rcases among with ⟨failure, -, rfl⟩ | rfl <;> rfl
    rw [List.filterMap_append, silent, List.append_nil, List.filterMap_map]
    exact List.filterMap_some

theorem notices_endsAtMark (source : SourceId) (sent : List Item) (exit : Exit) :
    EndsAtMark Message.isDone (sent.map (.item source) ++ exit.notices source) := by
  induction sent with
  | nil =>
      rw [List.map_nil, List.nil_append, Exit.notices]
      cases exit.report? with
      | none => exact ⟨by simp [Message.isDone], trivial⟩
      | some => exact ⟨by simp [Message.isDone], by simp [Message.isDone], trivial⟩
  | cons item sent ih => exact ⟨by simp [Message.isDone, Exit.notices], ih⟩

theorem notices_countP_isDone (source : SourceId) (sent : List Item) (exit : Exit) :
    (sent.map (Message.item source) ++ exit.notices source).countP Message.isDone = 1 := by
  rw [Exit.notices]
  cases exit.report? <;> simp [List.countP_append, List.countP_map, Function.comp_def,
    Message.isDone]

namespace Account

variable {source : SourceId} {work : List Act} {trace : List Moment} {messages : List Message}
  {last : Producer}

theorem countP_isDone_le (account : Account source work trace messages last) :
    messages.countP Message.isDone ≤ 1 := by
  cases account with
  | atWork sent _ _ delivered =>
      simp [delivered, List.countP_map, Function.comp_def, Message.isDone]
  | @left sent exit tail unsent _ _ delivered _ _ whole =>
      have one := notices_countP_isDone source sent exit
      rw [← whole, ← List.append_assoc, ← delivered, List.countP_append] at one
      omega

/-- A producer that has given its notice is finished, was heard throughout, and sent nothing after
the notice. -/
theorem complete_of_done (account : Account source work trace messages last)
    (noticed : messages.countP Message.isDone ≠ 0) :
    last.isFinished = true ∧ Heard trace ∧ EndsAtMark Message.isDone messages := by
  cases account with
  | atWork sent _ _ delivered =>
      simp [delivered, List.countP_map, Function.comp_def, Message.isDone] at noticed
  | @left sent exit tail unsent _ _ delivered _ _ whole _ finished =>
      have marked := notices_endsAtMark source sent exit
      rw [← whole, ← List.append_assoc, ← delivered] at marked
      by_cases all : unsent = []
      · obtain ⟨closed, heard⟩ := finished all
        rw [all, List.append_nil] at marked
        exact ⟨closed, heard, marked⟩
      · exact absurd (marked.countP_eq_zero all) noticed

/-- A producer that is heard throughout and finishes has given its notice. -/
theorem countP_isDone (account : Account source work trace messages last) (heard : Heard trace)
    (finished : last.isFinished = true) : messages.countP Message.isDone = 1 := by
  obtain ⟨sent, exit, -, -, -, delivered⟩ := account.complete heard finished
  rw [delivered]
  exact notices_countP_isDone source sent exit

/-- Unless it is cancelled at its work, a producer sends the beginning of what its work sends. -/
theorem prefix_messagesOf (account : Account source work trace messages last)
    (uncut : .cancelled ∉ exits trace) : messages <+: messagesOf source work := by
  rw [messagesOf_eq]
  cases account with
  | atWork sent _ _ delivered items =>
      rw [delivered, items, List.map_append, List.append_assoc]
      exact List.prefix_append _ _
  | @left sent exit tail unsent _ leaving delivered shorter explains whole _ finished =>
      rw [delivered]
      cases exit with
      | completed =>
          obtain ⟨rfl, sound, -⟩ := explains
          rw [Exit.ofWork, sound]
          exact (List.prefix_append_right_inj _).2 ⟨unsent, whole⟩
      | failed failure =>
          obtain ⟨rfl, failed⟩ := explains
          rw [Exit.ofWork, failed]
          exact (List.prefix_append_right_inj _).2 ⟨unsent, whole⟩
      | cancelled => exact absurd (by simp [leaving]) uncut
      | unheard =>
          -- What could not be received is not followed by a notice that is.
          obtain ⟨moment, member, unheard⟩ := explains
          rcases List.append_eq_singleton_iff.1 whole with ⟨rfl, -⟩ | ⟨-, rfl⟩
          · rw [List.append_nil]
            exact (shorter.map _).trans (List.prefix_append _ _)
          · cases unheard.symm.trans ((finished rfl).2 moment member)

/-- A producer that is cancelled at its work has sent first items of it, and then at most the
notice. -/
theorem exists_items_of_cancelled (account : Account source work trace messages last)
    (cut : .cancelled ∈ exits trace) :
    ∃ sent, sent <+: itemsOf work ∧ messages <+: sent.map (.item source) ++ [.done source] := by
  cases account with
  | atWork _ _ none => simp [none] at cut
  | @left sent exit tail unsent _ leaving delivered shorter _ whole =>
      rw [leaving, List.mem_singleton] at cut
      subst cut
      refine ⟨sent, shorter, ?_⟩
      rw [delivered]
      exact (List.prefix_append_right_inj _).2 ⟨unsent, whole⟩

/-- A producer never sends what its work would not. -/
theorem subset_messagesOf (account : Account source work trace messages last) :
    messages ⊆ messagesOf source work := by
  by_cases cut : Exit.cancelled ∈ exits trace
  · obtain ⟨sent, shorter, sends⟩ := account.exists_items_of_cancelled cut
    rw [messagesOf_eq, Exit.notices]
    intro message member
    rcases List.mem_append.1 (sends.subset member) with item | notice
    · exact List.mem_append_left _ ((shorter.map _).subset item)
    · exact List.mem_append_right _ (List.mem_append_right _ notice)
  · exact (account.prefix_messagesOf cut).subset

/-- A producer that is heard throughout, not cancelled and finished has sent all of its work. -/
theorem eq_messagesOf (account : Account source work trace messages last) (heard : Heard trace)
    (finished : last.isFinished = true)
    (free : ∀ moment ∈ trace, moment.around.cancelled = false) :
    messages = messagesOf source work := by
  obtain ⟨sent, exit, -, -, explains, delivered⟩ := account.complete heard finished
  rw [delivered, messagesOf_eq, Exit.ofWork]
  cases exit with
  | completed =>
      obtain ⟨rfl, sound, -⟩ := explains
      rw [sound]
  | failed failure =>
      obtain ⟨rfl, failed⟩ := explains
      rw [failed]
  | cancelled =>
      obtain ⟨moment, member, cancelled⟩ := explains
      cases cancelled.symm.trans (free moment member)
  | unheard =>
      obtain ⟨moment, member, unheard⟩ := explains
      cases unheard.symm.trans (heard moment member)

end Account

variable {ε α : Type}

theorem filterMap_item?_messagesOf (kind : SourceKind ε α) (source : SourceId)
    (script : Script ε α) :
    (messagesOf source (script.work kind)).filterMap Message.item? =
      script.items.map kind.item := by
  rw [Script.messagesOf_work]
  cases (script.failure? kind).map kind.failure with
  | none => simp [Message.item?, List.filterMap_map, Function.comp_def]
  | some failure =>
      cases quiet : failure.isQuiet <;>
        simp [Message.item?, List.filterMap_map, Function.comp_def, Option.filter, quiet]

/-- A message of a source is one of its items, the report of its failure, or its notice. -/
theorem mem_messagesOf_work {kind : SourceKind ε α} {source : SourceId} {script : Script ε α}
    {message : Message} :
    message ∈ messagesOf source (script.work kind) ↔
      (∃ item ∈ script.items, message = .item source (kind.item item)) ∨
      (∃ error, script.failure? kind = some error ∧ (kind.failure error).isQuiet = false ∧
        message = .failed source (kind.failure error)) ∨
      message = .done source := by
  simp only [Script.messagesOf_work, List.mem_append, List.mem_map, List.mem_singleton, or_assoc,
    Option.mem_toList, Option.filter_eq_some_iff, Option.map_eq_some_iff, Bool.not_eq_true']
  constructor
  · rintro (⟨item, held, rfl⟩ | ⟨failure, ⟨⟨error, failed, rfl⟩, loud⟩, rfl⟩ | rfl)
    · exact .inl ⟨item, held, rfl⟩
    · exact .inr (.inl ⟨error, failed, loud, rfl⟩)
    · exact .inr (.inr rfl)
  · rintro (⟨item, held, rfl⟩ | ⟨error, failed, loud, rfl⟩ | rfl)
    · exact .inl ⟨item, held, rfl⟩
    · exact .inr (.inl ⟨_, ⟨⟨error, failed, rfl⟩, loud⟩, rfl⟩)
    · exact .inr (.inr rfl)

end PackageSearch.Merge
