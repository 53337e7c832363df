import PackageSearch.Proofs.Merge.Move

/-!
# The conduct of a producer

A producer takes its steps while others change its surroundings: the channel fills and empties, an
abort is noticed sooner or later, the receiver goes away. `Conduct` leaves all of this open. A step
goes on with the work, leaves it, or gives notice of that (`Turn`), and from it follows what a
producer sends: `Account` says that these are the first items of its work and then, once it has left
the work, the notices of how it left.
-/

set_option autoImplicit false

namespace PackageSearch.Merge

namespace Producer

/-- The work that a producer has still to do, unless it has left it. -/
def work? (producer : Producer) : Option (List Act) :=
  match producer.phase with
  | .ready work => some work
  | .working work => some work
  | .asleep _ work => some work
  | .reporting _ => none
  | .closing => none
  | .finished => none

end Producer

/-! ## Steps in open surroundings -/

/-- A producer before a step, and the surroundings that it finds. -/
structure Moment where
  producer : Producer
  around : Surroundings

namespace Moment

/-- How the step leaves the work, if it does. -/
def exit? (moment : Moment) : Option Exit :=
  if moment.producer.work?.isNone then none
  else if moment.around.cancelled then some .cancelled
  else match moment.producer.phase with
    | .working [] => some .completed
    | .working (.fail failure :: _) => some (.failed failure)
    | .working (.deliver _ :: _) => if moment.around.received then none else some .unheard
    | _ => none

/-- Whether the step begins the work, which for an uplink is to ask it. -/
def begins (moment : Moment) : Bool :=
  match moment.producer.phase with
  | .ready _ => ! moment.around.cancelled
  | _ => false

end Moment

/-- How a producer left its work on the way. -/
def exits (trace : List Moment) : List Exit := trace.filterMap Moment.exit?

theorem exists_cancelled_of_mem_exits {trace : List Moment} (cut : .cancelled ∈ exits trace) :
    ∃ moment ∈ trace, moment.around.cancelled = true := by
  obtain ⟨moment, member, left⟩ := List.mem_filterMap.1 cut
  refine ⟨moment, member, ?_⟩
  cases cancelled : moment.around.cancelled with
  | true => rfl
  | false =>
      simp only [Moment.exit?, cancelled, Bool.false_eq_true, ↓reduceIte] at left
      repeat' split at left
      all_goals cases left

/-- Steps of a producer one after the other, in whatever surroundings it finds each time, and the
messages that it sends. -/
inductive Conduct : Producer → List Moment → List Message → Producer → Prop where
  | nil {producer : Producer} : Conduct producer [] [] producer
  | cons {first next last : Producer} {around : Surroundings} {message : Option Message}
      {trace : List Moment} {messages : List Message} :
      first.step? around = some (next, message) → Conduct next trace messages last →
      Conduct first (⟨first, around⟩ :: trace) (message.toList ++ messages) last

/-- What a producer does in given surroundings, one after the other. It stands still where it cannot
take a step. -/
def Producer.attend (producer : Producer) :
    List Surroundings → List Moment × List Message × Producer
  | [] => ([], [], producer)
  | around :: rest =>
      match producer.step? around with
      | none => producer.attend rest
      | some (next, message) =>
          let (trace, messages, last) := next.attend rest
          (⟨producer, around⟩ :: trace, message.toList ++ messages, last)

theorem Conduct.of_attend (producer : Producer) (arounds : List Surroundings) :
    Conduct producer (producer.attend arounds).1 (producer.attend arounds).2.1
      (producer.attend arounds).2.2 := by
  induction arounds generalizing producer with
  | nil => exact .nil
  | cons around rest ih =>
      cases stepped : producer.step? around with
      | none =>
          simp only [Producer.attend, stepped]
          exact ih producer
      | some result =>
          obtain ⟨next, message⟩ := result
          simp only [Producer.attend, stepped]
          exact .cons stepped (ih next)

/-- A receiver that has gone away does not come back. -/
def GoneForGood (trace : List Moment) : Prop :=
  trace.Pairwise fun earlier later =>
    later.around.received = true → earlier.around.received = true

/-! ## What a step can be -/

/-- What must be so for a producer to leave work in some way after sending items of it. -/
def Exit.Explains (work : List Act) (sent : List Item) (trace : List Moment) : Exit → Prop
  | completed => sent = itemsOf work ∧ failureOf? work = none ∧ workEnds work = true
  | failed failure => sent = itemsOf work ∧ failureOf? work = some failure
  | cancelled => ∃ moment ∈ trace, moment.around.cancelled = true
  | unheard => ∃ moment ∈ trace, moment.around.received = false

theorem Exit.Explains.earlier {work rest : List Act} {before sent : List Item} {moment : Moment}
    {trace : List Moment} {exit : Exit} (items : itemsOf work = before ++ itemsOf rest)
    (failure : failureOf? work = failureOf? rest) (ends : workEnds work = workEnds rest)
    (explains : exit.Explains rest sent trace) :
    exit.Explains work (before ++ sent) (moment :: trace) := by
  cases exit with
  | completed =>
      obtain ⟨rfl, sound, ended⟩ := explains
      exact ⟨items.symm, failure.trans sound, ends.trans ended⟩
  | failed cause =>
      obtain ⟨rfl, failed⟩ := explains
      exact ⟨items.symm, failure.trans failed⟩
  | cancelled | unheard =>
      obtain ⟨witness, member, found⟩ := explains
      exact ⟨witness, List.mem_cons_of_mem _ member, found⟩

theorem Exit.Explains.first {work : List Act} {moment : Moment} {exit : Exit}
    (explains : exit.Explains work [] [moment]) (trace : List Moment) :
    exit.Explains work [] (moment :: trace) := by
  cases exit with
  | completed | failed => exact explains
  | cancelled | unheard =>
      obtain ⟨witness, member, found⟩ := explains
      exact ⟨witness, List.mem_cons.2 (.inl (List.mem_singleton.1 member)), found⟩

/-- The three kinds of steps: a producer goes on with its work, leaves it, or has left it. -/
inductive Turn (moment : Moment) (next : Producer) (message : Option Message) : Prop where
  | works {work rest : List Act} (sent : List Item) :
      moment.producer.work? = some work → next.work? = some rest → moment.exit? = none →
      message.toList = sent.map (.item moment.producer.source) →
      itemsOf work = sent ++ itemsOf rest → failureOf? work = failureOf? rest →
      workEnds work = workEnds rest → Turn moment next message
  | leaves {work : List Act} (exit : Exit) :
      moment.producer.work? = some work → next.work? = none → moment.exit? = some exit →
      exit.Explains work [] [moment] → message = none →
      next.remaining = exit.notices moment.producer.source → Turn moment next message
  | notifies :
      moment.producer.work? = none → next.work? = none → moment.exit? = none →
      (moment.around.received = true →
        moment.producer.remaining = message.toList ++ next.remaining) →
      (moment.around.received = false → message = none) → Turn moment next message

theorem Producer.Moves.turn {around : Surroundings} {producer next : Producer}
    {message : Option Message} (moved : producer.Moves around next message) :
    Turn ⟨producer, around⟩ next message := by
  cases moved with
  | start free =>
      exact .works [] rfl rfl (by simp [Moment.exit?, work?, free]) (List.map_nil.symm) rfl rfl rfl
  | pause free | wake free =>
      exact .works [] rfl rfl (by simp [Moment.exit?, work?, free]) (List.map_nil.symm) rfl rfl rfl
  | @deliver _ _ item _ _ free heard =>
      exact .works [item] rfl rfl (by simp [Moment.exit?, work?, free, heard]) rfl rfl rfl rfl
  | cancelReady cancelled | cancelWork cancelled | cancelSleep cancelled =>
      exact .leaves .cancelled rfl rfl (by simp [Moment.exit?, work?, cancelled])
        ⟨_, List.mem_singleton_self _, cancelled⟩ rfl rfl
  | complete free =>
      exact .leaves .completed rfl rfl (by simp [Moment.exit?, work?, free])
        ⟨rfl, rfl, rfl⟩ rfl rfl
  | giveUp free unheard =>
      exact .leaves .unheard rfl rfl (by simp [Moment.exit?, work?, free, unheard])
        ⟨_, List.mem_singleton_self _, unheard⟩ rfl rfl
  | @fail _ _ failure _ _ free =>
      refine .leaves (.failed failure) rfl ?_ (by simp [Moment.exit?, work?, free])
        ⟨rfl, rfl⟩ rfl ?_
      · cases failure.isQuiet <;> rfl
      · cases quiet : failure.isQuiet <;>
          simp [remaining, Exit.notices, Exit.report?, quiet]
  | report heard | finish heard =>
      exact .notifies rfl rfl rfl (fun _ => rfl) (fun unheard => by simp [heard] at unheard)
  | reportUnheard unheard | finishUnheard unheard =>
      exact .notifies rfl rfl rfl (fun heard => by simp [unheard] at heard) (fun _ => rfl)

theorem Producer.Moves.heard {around : Surroundings} {producer next : Producer} {message : Message}
    (moved : producer.Moves around next (some message)) : around.received = true := by
  cases moved <;> assumption

theorem Producer.Moves.room {around : Surroundings} {producer next : Producer} {message : Message}
    (moved : producer.Moves around next (some message)) : around.room = true := by
  cases moved <;> assumption

theorem Producer.Moves.remaining_ne_nil {around : Surroundings} {producer next : Producer}
    {message : Option Message} (moved : producer.Moves around next message) :
    producer.remaining ≠ [] := by
  cases moved <;> simp [remaining, messagesOf_ne_nil]

/-! ## What a producer sends -/

/-- Whether the receiver was there at every step. -/
def Heard (trace : List Moment) : Prop :=
  ∀ moment ∈ trace, moment.around.received = true

theorem GoneForGood.heard_cons {moment : Moment} {trace : List Moment}
    (gone : GoneForGood (moment :: trace)) (heard : Heard trace) (later : trace ≠ []) :
    Heard (moment :: trace) := by
  obtain ⟨next, rest, rfl⟩ := List.exists_cons_of_ne_nil later
  have first := (List.pairwise_cons.1 gone).1 next List.mem_cons_self
  intro earlier member
  rcases List.mem_cons.1 member with rfl | member
  · exact first (heard next List.mem_cons_self)
  · exact heard earlier member

theorem Producer.Moves.source_eq {around : Surroundings} {producer next : Producer}
    {message : Option Message} (moved : producer.Moves around next message) :
    next.source = producer.source := by
  cases moved <;> rfl

theorem Producer.Moves.abortable_eq {around : Surroundings} {producer next : Producer}
    {message : Option Message} (moved : producer.Moves around next message) :
    next.abortable = producer.abortable := by
  cases moved <;> rfl

namespace Conduct

variable {first last : Producer} {trace : List Moment} {messages : List Message}

theorem abortable_eq (conduct : Conduct first trace messages last) :
    last.abortable = first.abortable := by
  induction conduct with
  | nil => rfl
  | cons stepped _ ih => exact ih.trans (Producer.step?_iff.1 stepped).abortable_eq

theorem ends (conduct : Conduct first trace messages last) (ended : first.ends = true) :
    last.ends = true := by
  induction conduct with
  | nil => exact ended
  | cons stepped _ ih => exact ih ((Producer.step?_iff.1 stepped).ends ended)

theorem messages_eq_nil (conduct : Conduct first trace messages last)
    (unheard : ∀ moment ∈ trace, moment.around.received = false) : messages = [] := by
  induction conduct with
  | nil => rfl
  | @cons first next last around message trace messages stepped _ ih =>
      have here := unheard _ List.mem_cons_self
      rw [ih fun moment member => unheard moment (List.mem_cons_of_mem _ member), List.append_nil]
      cases message with
      | none => rfl
      | some message => simp [(Producer.step?_iff.1 stepped).heard] at here

/-- A producer that has left its work sends its notices, unless the receiver goes away. -/
theorem notices (conduct : Conduct first trace messages last) (gone : GoneForGood trace)
    (left : first.work? = none) :
    exits trace = [] ∧ last.work? = none ∧ ∃ unsent, messages ++ unsent = first.remaining ∧
      (Heard trace → unsent = last.remaining) ∧
      (unsent = [] → last.isFinished = true ∧ Heard trace) := by
  induction conduct with
  | nil =>
      exact ⟨rfl, left, _, rfl, fun _ => rfl,
        fun sent => ⟨Producer.isFinished_iff_remaining.2 sent, List.forall_mem_nil _⟩⟩
  | @cons first next last around message trace messages stepped conduct ih =>
      have moved := Producer.step?_iff.1 stepped
      obtain ⟨earlier, later⟩ := List.pairwise_cons.1 gone
      cases moved.turn with
      | works _ here => cases left.symm.trans here
      | leaves _ here => cases left.symm.trans here
      | notifies _ still quiet sends silent =>
          obtain ⟨none, idle, unsent, rest, complete, finished⟩ := ih later still
          refine ⟨by rw [exits, List.filterMap_cons_none quiet]; exact none, idle, ?_⟩
          cases heard : around.received with
          | true =>
              refine ⟨unsent, by rw [List.append_assoc, rest, sends heard], ?_, ?_⟩
              · intro all
                exact complete (List.forall_mem_cons.1 all).2
              · intro sent
                obtain ⟨ended, all⟩ := finished sent
                exact ⟨ended, List.forall_mem_cons.2 ⟨heard, all⟩⟩
          | false =>
              have lost : messages = [] := conduct.messages_eq_nil fun moment member => by
                cases again : moment.around.received with
                | false => rfl
                | true => exact absurd (earlier moment member again) (by simp [heard])
              refine ⟨first.remaining, by simp [lost, silent heard], ?_, ?_⟩
              · intro all
                exact absurd (all _ List.mem_cons_self) (by simp [heard])
              · intro sent
                exact absurd sent moved.remaining_ne_nil

end Conduct

/-- What a producer with work has sent: items of the work, in order and without a gap, and once it
has left the work, as many of its notices as were received. -/
inductive Account (source : SourceId) (work : List Act) (trace : List Moment)
    (messages : List Message) (last : Producer) : Prop where
  | atWork (sent : List Item) {rest : List Act} :
      last.work? = some rest → exits trace = [] → messages = sent.map (.item source) →
      itemsOf work = sent ++ itemsOf rest → Account source work trace messages last
  | left (sent : List Item) {exit : Exit} {tail unsent : List Message} :
      last.work? = none → exits trace = [exit] → messages = sent.map (.item source) ++ tail →
      sent <+: itemsOf work → exit.Explains work sent trace →
      tail ++ unsent = exit.notices source → (Heard trace → unsent = last.remaining) →
      (unsent = [] → last.isFinished = true ∧ Heard trace) →
      Account source work trace messages last

theorem Conduct.account {first last : Producer} {trace : List Moment} {messages : List Message}
    (conduct : Conduct first trace messages last) (gone : GoneForGood trace) {work : List Act}
    (begun : first.work? = some work) : Account first.source work trace messages last := by
  induction conduct generalizing work with
  | nil => exact .atWork [] begun rfl rfl rfl
  | @cons first next last around message trace messages stepped conduct ih =>
      have moved := Producer.step?_iff.1 stepped
      have later := (List.pairwise_cons.1 gone).2
      cases moved.turn with
      | notifies none => cases begun.symm.trans none
      | leaves _ here idle leaving explains silent remaining =>
          cases begun.symm.trans here
          obtain ⟨none, ended, unsent, sent, complete, finished⟩ := conduct.notices later idle
          have whole := sent.trans remaining
          refine .left [] ended ?_ ?_ List.nil_prefix ?_ whole ?_ ?_
          · rw [exits, List.filterMap_cons_some leaving]
            exact congrArg _ none
          · rw [silent]
            rfl
          · exact explains.first trace
          · intro all
            exact complete (List.forall_mem_cons.1 all).2
          · rintro rfl
            obtain ⟨closed, all⟩ := finished rfl
            refine ⟨closed, gone.heard_cons all ?_⟩
            rintro rfl
            cases conduct
            simp [Exit.notices] at whole
      | works before here still quiet sends items failure ends =>
          cases begun.symm.trans here
          have silent (trace : List Moment) : exits (⟨first, around⟩ :: trace) = exits trace := by
            rw [exits, List.filterMap_cons_none quiet]
            rfl
          have account := ih later still
          rw [moved.source_eq] at account
          cases account with
          | atWork sent working none delivered left =>
              refine .atWork (before ++ sent) working ((silent _).trans none) ?_ ?_
              · rw [delivered, sends, List.map_append]
              · rw [items, left, List.append_assoc]
          | left sent idle leaving delivered shorter explains whole complete finished =>
              refine .left (before ++ sent) idle ((silent _).trans leaving) ?_ ?_
                (explains.earlier items failure ends) whole ?_ ?_
              · rw [delivered, sends, List.map_append, List.append_assoc]
              · rw [items]
                exact (List.prefix_append_right_inj before).2 shorter
              · intro all
                exact complete (List.forall_mem_cons.1 all).2
              · intro sent
                obtain ⟨closed, all⟩ := finished sent
                refine ⟨closed, gone.heard_cons all ?_⟩
                rintro rfl
                cases leaving

theorem Producer.work?_eq_none_of_isFinished {producer : Producer}
    (finished : producer.isFinished = true) : producer.work? = none := by
  obtain ⟨source, abortable, phase, begun⟩ := producer
  cases phase <;> first | rfl | cases finished

theorem Producer.remaining_eq {producer : Producer} {work : List Act}
    (working : producer.work? = some work) :
    producer.remaining = messagesOf producer.source work := by
  obtain ⟨source, abortable, phase, begun⟩ := producer
  cases phase <;> cases working <;> rfl

/-- A producer that is heard throughout and finishes has sent items and then all of its notices. -/
theorem Account.complete {source : SourceId} {work : List Act} {trace : List Moment}
    {messages : List Message} {last : Producer}
    (account : Account source work trace messages last) (heard : Heard trace)
    (finished : last.isFinished = true) :
    ∃ sent exit, exits trace = [exit] ∧ sent <+: itemsOf work ∧ exit.Explains work sent trace ∧
      messages = sent.map (.item source) ++ exit.notices source := by
  cases account with
  | atWork _ working => cases working.symm.trans (Producer.work?_eq_none_of_isFinished finished)
  | left sent _ leaving delivered shorter explains whole complete =>
      have all := (complete heard).trans (Producer.isFinished_iff_remaining.1 finished)
      rw [all, List.append_nil] at whole
      exact ⟨sent, _, leaving, shorter, explains, whole ▸ delivered⟩

end PackageSearch.Merge
