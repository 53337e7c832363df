import PackageSearch.Proofs.Merge.Work

/-!
# Moves of a producer

`Moves` lists what a step of a producer can be; `step?_iff` says that these are all. From it follows
what a step leaves to be sent (`Moves.remaining_eq`), that steps come to an end
(`Moves.effort_lt`), and that a producer whose calls all end can go on whenever its message, if it
has one, can be taken (`exists_step?`).
-/

set_option autoImplicit false

namespace PackageSearch.Merge

namespace Producer

/-- The steps of a producer. Cancellation is noticed while there is work; what cannot be sent
because nobody receives is given up. -/
inductive Moves (around : Surroundings) : Producer → Producer → Option Message → Prop where
  | start {source abortable work begun} : around.cancelled = false →
      Moves around ⟨source, abortable, .ready work, begun⟩
        ⟨source, abortable, .working work, true⟩ none
  | cancelReady {source abortable work begun} : around.cancelled = true →
      Moves around ⟨source, abortable, .ready work, begun⟩ ⟨source, abortable, .closing, begun⟩ none
  | cancelWork {source abortable work begun} : around.cancelled = true →
      Moves around ⟨source, abortable, .working work, begun⟩
        ⟨source, abortable, .closing, begun⟩ none
  | cancelSleep {source abortable due work begun} : around.cancelled = true →
      Moves around ⟨source, abortable, .asleep due work, begun⟩
        ⟨source, abortable, .closing, begun⟩ none
  | complete {source abortable begun} : around.cancelled = false →
      Moves around ⟨source, abortable, .working [], begun⟩ ⟨source, abortable, .closing, begun⟩ none
  | pause {source abortable milliseconds rest begun} : around.cancelled = false →
      Moves around ⟨source, abortable, .working (.pause milliseconds :: rest), begun⟩
        ⟨source, abortable, .asleep (around.clock + milliseconds) rest, begun⟩ none
  | wake {source abortable due rest begun} : around.cancelled = false → due ≤ around.clock →
      Moves around ⟨source, abortable, .asleep due rest, begun⟩
        ⟨source, abortable, .working rest, begun⟩ none
  | deliver {source abortable item rest begun} : around.cancelled = false →
      around.received = true → around.room = true →
      Moves around ⟨source, abortable, .working (.deliver item :: rest), begun⟩
        ⟨source, abortable, .working rest, begun⟩ (some (.item source item))
  | giveUp {source abortable item rest begun} : around.cancelled = false →
      around.received = false →
      Moves around ⟨source, abortable, .working (.deliver item :: rest), begun⟩
        ⟨source, abortable, .closing, begun⟩ none
  | fail {source abortable failure rest begun} : around.cancelled = false →
      Moves around ⟨source, abortable, .working (.fail failure :: rest), begun⟩
        ⟨source, abortable, if failure.isQuiet then .closing else .reporting failure, begun⟩ none
  | report {source abortable failure begun} : around.received = true → around.room = true →
      Moves around ⟨source, abortable, .reporting failure, begun⟩
        ⟨source, abortable, .closing, begun⟩ (some (.failed source failure))
  | reportUnheard {source abortable failure begun} : around.received = false →
      Moves around ⟨source, abortable, .reporting failure, begun⟩
        ⟨source, abortable, .closing, begun⟩ none
  | finish {source abortable begun} : around.received = true → around.room = true →
      Moves around ⟨source, abortable, .closing, begun⟩ ⟨source, abortable, .finished, begun⟩
        (some (.done source))
  | finishUnheard {source abortable begun} : around.received = false →
      Moves around ⟨source, abortable, .closing, begun⟩ ⟨source, abortable, .finished, begun⟩ none

theorem send?_iff {producer next : Producer} {around : Surroundings} {message : Message}
    {sent unsent : Phase} {output : Option Message} :
    producer.send? around message sent unsent = some (next, output) ↔
      (around.received = false ∧ next = { producer with phase := unsent } ∧ output = none) ∨
      (around.received = true ∧ around.room = true ∧
        next = { producer with phase := sent } ∧ output = some message) := by
  unfold send? goTo
  cases around.received <;> cases around.room <;> simp [eq_comm]

theorem step?_iff {producer next : Producer} {around : Surroundings} {message : Option Message} :
    producer.step? around = some (next, message) ↔ Moves around producer next message := by
  constructor
  · intro stepped
    obtain ⟨source, abortable, phase, begun⟩ := producer
    cases phase with
    | ready work =>
        cases cancelled : around.cancelled with
        | true =>
            simp [step?, goTo, cancelled] at stepped
            obtain ⟨rfl, rfl⟩ := stepped
            exact .cancelReady cancelled
        | false =>
            simp [step?, cancelled] at stepped
            obtain ⟨rfl, rfl⟩ := stepped
            exact .start cancelled
    | working work =>
        cases cancelled : around.cancelled with
        | true =>
            simp [step?, goTo, cancelled] at stepped
            obtain ⟨rfl, rfl⟩ := stepped
            exact .cancelWork cancelled
        | false =>
            cases work with
            | nil =>
                simp [step?, goTo, cancelled] at stepped
                obtain ⟨rfl, rfl⟩ := stepped
                exact .complete cancelled
            | cons act rest =>
                cases act with
                | pause milliseconds =>
                    simp [step?, goTo, cancelled] at stepped
                    obtain ⟨rfl, rfl⟩ := stepped
                    exact .pause cancelled
                | deliver item =>
                    simp only [step?, cancelled] at stepped
                    rcases send?_iff.1 stepped with ⟨unheard, rfl, rfl⟩ | ⟨heard, room, rfl, rfl⟩
                    · exact .giveUp cancelled unheard
                    · exact .deliver cancelled heard room
                | fail failure =>
                    simp [step?, goTo, cancelled] at stepped
                    obtain ⟨rfl, rfl⟩ := stepped
                    exact .fail cancelled
                | hang => simp [step?, cancelled] at stepped
    | asleep due rest =>
        cases cancelled : around.cancelled with
        | true =>
            simp [step?, goTo, cancelled] at stepped
            obtain ⟨rfl, rfl⟩ := stepped
            exact .cancelSleep cancelled
        | false =>
            simp [step?, goTo, cancelled] at stepped
            obtain ⟨awake, rfl, rfl⟩ := stepped
            exact .wake cancelled awake
    | reporting failure =>
        rcases send?_iff.1 stepped with ⟨unheard, rfl, rfl⟩ | ⟨heard, room, rfl, rfl⟩
        · exact .reportUnheard unheard
        · exact .report heard room
    | closing =>
        rcases send?_iff.1 stepped with ⟨unheard, rfl, rfl⟩ | ⟨heard, room, rfl, rfl⟩
        · exact .finishUnheard unheard
        · exact .finish heard room
    | finished => cases stepped
  · intro moved
    cases moved <;> simp [step?, send?, goTo, *]

/-- Steps come to an end, the receiving of the messages included. -/
theorem Moves.effort_lt {around : Surroundings} {producer next : Producer}
    {message : Option Message} (moved : Moves around producer next message) :
    next.effort + message.toList.length < producer.effort := by
  cases moved with
  | @fail _ _ failure =>
      cases failure.isQuiet <;>
        simp only [effort, Bool.false_eq_true, ↓reduceIte, Option.toList_none, List.length_nil,
          List.length_cons] <;>
        omega
  | _ =>
      simp only [effort, Option.toList_none, Option.toList_some, List.length_nil,
        List.length_cons]
      omega

end Producer

namespace Producer

/-- What a producer has still to send. The notice of one that hangs counts as still to come. -/
def remaining (producer : Producer) : List Message :=
  match producer.phase with
  | .ready work => messagesOf producer.source work
  | .working work => messagesOf producer.source work
  | .asleep _ work => messagesOf producer.source work
  | .reporting failure => [.failed producer.source failure, .done producer.source]
  | .closing => [.done producer.source]
  | .finished => []

def ends (producer : Producer) : Bool :=
  match producer.phase with
  | .ready work => workEnds work
  | .working work => workEnds work
  | .asleep _ work => workEnds work
  | _ => true

/-- A step that is heard and not cancelled sends the next of the remaining messages, or none. -/
theorem Moves.remaining_eq {around : Surroundings} {producer next : Producer}
    {message : Option Message} (moved : Moves around producer next message)
    (heard : around.received = true) (free : around.cancelled = false) :
    producer.remaining = message.toList ++ next.remaining := by
  cases moved with
  | @fail _ _ failure =>
      cases quiet : failure.isQuiet <;> simp [remaining, messagesOf, quiet]
  | cancelReady cancelled | cancelWork cancelled | cancelSleep cancelled =>
      rw [free] at cancelled
      cases cancelled
  | giveUp _ unheard | reportUnheard unheard | finishUnheard unheard =>
      rw [heard] at unheard
      cases unheard
  | _ => rfl

theorem Moves.ends {around : Surroundings} {producer next : Producer} {message : Option Message}
    (moved : Moves around producer next message) (ended : producer.ends = true) :
    next.ends = true := by
  cases moved with
  | start | pause | wake | deliver => exact ended
  | @fail _ _ failure => cases failure.isQuiet <;> rfl
  | cancelReady | cancelWork | cancelSleep | complete | giveUp => rfl
  | report | reportUnheard | finish | finishUnheard => rfl

theorem isFinished_iff_remaining {producer : Producer} :
    producer.isFinished = true ↔ producer.remaining = [] := by
  obtain ⟨source, abortable, phase, begun⟩ := producer
  cases phase <;> simp [isFinished, remaining, messagesOf_ne_nil]

/-- A producer that is not finished can go on if its work ends or is cancelled, its time has come,
and what it sends is taken or given up. -/
theorem exists_step? {producer : Producer} {around : Surroundings}
    (unfinished : producer.isFinished = false)
    (ended : producer.ends = true ∨ around.cancelled = true)
    (room : around.received = true → around.room = true)
    (awake : producer.due?.getD around.clock ≤ around.clock) :
    ∃ next message, producer.step? around = some (next, message) := by
  have sending (message : Message) (sent unsent : Phase) :
      ∃ next output, producer.send? around message sent unsent = some (next, output) := by
    cases heard : around.received with
    | true => exact ⟨_, _, send?_iff.2 (.inr ⟨heard, room heard, rfl, rfl⟩)⟩
    | false => exact ⟨_, _, send?_iff.2 (.inl ⟨heard, rfl, rfl⟩)⟩
  obtain ⟨source, abortable, phase, begun⟩ := producer
  cases cancelled : around.cancelled with
  | true =>
      cases phase with
      | ready work => exact ⟨_, _, step?_iff.2 (.cancelReady cancelled)⟩
      | working work => exact ⟨_, _, step?_iff.2 (.cancelWork cancelled)⟩
      | asleep due work => exact ⟨_, _, step?_iff.2 (.cancelSleep cancelled)⟩
      | reporting failure => exact sending _ _ _
      | closing => exact sending _ _ _
      | finished => cases unfinished
  | false =>
      have ended := ended.resolve_right (by simp [cancelled])
      cases phase with
      | ready work => exact ⟨_, _, step?_iff.2 (.start cancelled)⟩
      | working work =>
          cases work with
          | nil => exact ⟨_, _, step?_iff.2 (.complete cancelled)⟩
          | cons act rest =>
              cases act with
              | pause milliseconds => exact ⟨_, _, step?_iff.2 (.pause cancelled)⟩
              | deliver item =>
                  simp only [step?, cancelled]
                  exact sending _ _ _
              | fail failure => exact ⟨_, _, step?_iff.2 (.fail cancelled)⟩
              | hang => cases ended
      | asleep due rest => exact ⟨_, _, step?_iff.2 (.wake cancelled awake)⟩
      | reporting failure => exact sending _ _ _
      | closing => exact sending _ _ _
      | finished => cases unfinished

end Producer

end PackageSearch.Merge
