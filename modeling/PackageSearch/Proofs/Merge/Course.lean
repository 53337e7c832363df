import PackageSearch.Merge.Pipeline
import PackageSearch.Proofs.Interleaving
import PackageSearch.Proofs.Merge.Conduct

/-!
# Courses of a pipeline

In a course every producer notices an abort in its own time: one may go on for some steps while
another already stops. `Course.length_add_effort_le` bounds every course, and `Course.exists_shares`
takes it apart into what each producer did, and says that what arrived and is queued interleaves
what they sent.
-/

set_option autoImplicit false

namespace PackageSearch.Merge

namespace Pipeline

variable {σ : Type}

/-- Surroundings that a producer may find. The time is open, and so is whether a producer that an
abort cancels has noticed it. -/
structure Admits (receiver : Receiver σ) (pipeline : Pipeline σ) (producer : Producer)
    (around : Surroundings) : Prop where
  received : around.received = ! receiver.isOver pipeline.state
  room : around.room = decide (pipeline.queue.length < pipeline.capacity)
  cancelled : around.cancelled = true → pipeline.aborted = true ∧ producer.abortable = true

/-- What may occur in a pipeline. -/
inductive Occurs (receiver : Receiver σ) (pipeline : Pipeline σ) : Action → Pipeline σ → Prop where
  | receive {message : Message} {rest : List Message} :
      receiver.isOver pipeline.state = false → pipeline.queue = message :: rest →
      Occurs receiver pipeline .receive
        { pipeline with queue := rest, state := receiver.receive pipeline.state message }
  | produce {index : Nat} {producer next : Producer} {around : Surroundings}
      {message : Option Message} {clock : Nat} :
      pipeline.producers[index]? = some producer → pipeline.Admits receiver producer around →
      producer.step? around = some (next, message) →
      Occurs receiver pipeline (.produce index)
        { pipeline with
          clock
          producers := pipeline.producers.set index next
          queue := pipeline.queue ++ message.toList }
  | abort {clock : Nat} : pipeline.aborted = false →
      Occurs receiver pipeline .abort { pipeline with aborted := true, clock }

theorem act?_receive_iff {receiver : Receiver σ} {pipeline next : Pipeline σ} :
    pipeline.act? receiver .receive = some next ↔
      receiver.isOver pipeline.state = false ∧ ∃ message rest, pipeline.queue = message :: rest ∧
        next =
          { pipeline with queue := rest, state := receiver.receive pipeline.state message } := by
  cases closed : receiver.isOver pipeline.state with
  | true => simp [act?, closed]
  | false =>
      cases queued : pipeline.queue with
      | nil => simp [act?, closed, queued]
      | cons message rest =>
          simp only [act?, closed, queued, Bool.false_eq_true, ↓reduceIte, Option.some.injEq,
            true_and]
          constructor
          · intro acted
            exact ⟨message, rest, rfl, acted.symm⟩
          · rintro ⟨_, _, same, rfl⟩
            cases same
            rfl

theorem act?_produce_iff {receiver : Receiver σ} {pipeline next : Pipeline σ} {index : Nat} :
    pipeline.act? receiver (.produce index) = some next ↔
      ∃ producer after message, pipeline.producers[index]? = some producer ∧
        producer.step? (pipeline.surroundings receiver producer) = some (after, message) ∧
        next =
          { pipeline with
            clock :=
              if (pipeline.surroundings receiver producer).cancelled then pipeline.clock
              else (pipeline.surroundings receiver producer).clock
            producers := pipeline.producers.set index after
            queue := pipeline.queue ++ message.toList } := by
  cases found : pipeline.producers[index]? with
  | none => simp [act?, found]
  | some producer =>
      cases stepped : producer.step? (pipeline.surroundings receiver producer) with
      | none => simp [act?, found, stepped]
      | some result =>
          obtain ⟨after, message⟩ := result
          simp only [act?, found, stepped, Option.bind_eq_bind, Option.bind_some, Option.some.injEq]
          constructor
          · intro acted
            exact ⟨producer, after, message, rfl, stepped, acted.symm⟩
          · rintro ⟨_, _, _, rfl, again, rfl⟩
            cases stepped.symm.trans again
            rfl

theorem act?_abort_iff {receiver : Receiver σ} {pipeline next : Pipeline σ} :
    pipeline.act? receiver .abort = some next ↔ pipeline.aborted = false ∧
      next =
        { pipeline with
          aborted := true
          clock := max pipeline.clock (pipeline.abortAt.getD pipeline.clock) } := by
  cases aborted : pipeline.aborted with
  | true => simp [act?, aborted]
  | false =>
      simp only [act?, aborted, Bool.false_eq_true, ↓reduceIte, Option.some.injEq, true_and]
      exact eq_comm

theorem occurs_of_act? {receiver : Receiver σ} {pipeline next : Pipeline σ} {action : Action}
    (acted : pipeline.act? receiver action = some next) :
    Occurs receiver pipeline action next := by
  cases action with
  | receive =>
      obtain ⟨heard, message, rest, queued, rfl⟩ := act?_receive_iff.1 acted
      exact .receive heard queued
  | produce index =>
      obtain ⟨producer, after, message, found, stepped, rfl⟩ := act?_produce_iff.1 acted
      refine .produce found ⟨rfl, rfl, fun cancelled => ?_⟩ stepped
      exact (Bool.and_eq_true _ _).mp cancelled
  | abort =>
      obtain ⟨fresh, rfl⟩ := act?_abort_iff.1 acted
      exact .abort fresh

def received? (pipeline : Pipeline σ) : Action → Option Message
  | .receive => pipeline.queue.head?
  | .produce _ => none
  | .abort => none

/-- Occurrences one after the other, and what arrives. -/
inductive Course (receiver : Receiver σ) :
    Pipeline σ → List Action → List Message → Pipeline σ → Prop where
  | nil {pipeline : Pipeline σ} : Course receiver pipeline [] [] pipeline
  | cons {first next last : Pipeline σ} {action : Action} {actions : List Action}
      {arrivals : List Message} :
      Occurs receiver first action next → Course receiver next actions arrivals last →
      Course receiver first (action :: actions) ((first.received? action).toList ++ arrivals) last

theorem Occurs.effort_lt {receiver : Receiver σ} {pipeline next : Pipeline σ} {action : Action}
    (occurred : Occurs receiver pipeline action next) : next.effort < pipeline.effort := by
  cases occurred with
  | receive _ queued =>
      simp only [effort, queued, List.length_cons]
      omega
  | @produce _ _ after _ _ _ found _ stepped =>
      have total := sum_map_set Producer.effort after found
      have less := (Producer.step?_iff.1 stepped).effort_lt
      simp only [effort, List.length_append, ← List.sum_eq_foldr]
      omega
  | abort fresh =>
      simp only [effort, fresh, ↓reduceIte, Bool.false_eq_true]
      omega

namespace Course

variable {receiver : Receiver σ} {first last : Pipeline σ} {actions : List Action}
  {arrivals : List Message}

theorem length_add_effort_le (course : Course receiver first actions arrivals last) :
    actions.length + last.effort ≤ first.effort := by
  induction course with
  | nil => simp
  | cons occurred _ ih =>
      have less := occurred.effort_lt
      rw [List.length_cons]
      omega

theorem capacity_eq (course : Course receiver first actions arrivals last) :
    last.capacity = first.capacity := by
  induction course with
  | nil => rfl
  | cons occurred _ ih => rw [ih]; cases occurred <;> rfl

theorem aborted (course : Course receiver first actions arrivals last)
    (aborted : first.aborted = true) : last.aborted = true := by
  induction course with
  | nil => exact aborted
  | cons occurred _ ih =>
      apply ih
      cases occurred with
      | receive | produce => exact aborted
      | abort => rfl

theorem aborted_eq (course : Course receiver first actions arrivals last)
    (unaborted : Action.abort ∉ actions) : last.aborted = first.aborted := by
  induction course with
  | nil => rfl
  | cons occurred _ ih =>
      cases occurred with
      | receive | produce => exact ih (List.not_mem_of_not_mem_cons unaborted)
      | abort => exact absurd rfl (List.ne_of_not_mem_cons unaborted)

/-- The state is what the arrivals make of it. -/
theorem state_eq (course : Course receiver first actions arrivals last) :
    last.state = arrivals.foldl receiver.receive first.state := by
  induction course with
  | nil => rfl
  | cons occurred _ ih =>
      rw [ih]
      cases occurred with
      | receive _ queued => simp [received?, queued]
      | produce | abort => rfl

/-- A receiver that takes no more does not begin again. -/
theorem isOver (course : Course receiver first actions arrivals last)
    (closed : receiver.isOver first.state = true) : receiver.isOver last.state = true := by
  induction course with
  | nil => exact closed
  | cons occurred _ ih =>
      cases occurred with
      | receive heard => cases closed.symm.trans heard
      | produce | abort => exact ih closed

/-- The channel never holds more than its capacity. -/
theorem queue_length_le (course : Course receiver first actions arrivals last)
    (fits : first.queue.length ≤ first.capacity) : last.queue.length ≤ last.capacity := by
  induction course with
  | nil => exact fits
  | cons occurred _ ih =>
      apply ih
      cases occurred with
      | receive _ queued =>
          rw [queued, List.length_cons] at fits
          exact Nat.le_of_succ_le fits
      | @produce _ _ _ around message _ _ admits stepped =>
          cases message with
          | none => simpa using fits
          | some message =>
              have room : around.room = true := (Producer.step?_iff.1 stepped).room
              rw [admits.room, decide_eq_true_eq] at room
              rw [Option.toList_some, List.length_append, List.length_singleton]
              exact room
      | abort => exact fits

end Course

end Pipeline

/-! ## What each producer did -/

/-- What one producer did in a course. -/
structure Share where
  first : Producer
  trace : List Moment
  sent : List Message
  last : Producer
  conduct : Conduct first trace sent last
  gone : GoneForGood trace

namespace Share

def idle (producer : Producer) : Share := ⟨producer, [], [], producer, .nil, .nil⟩

theorem account (share : Share) {work : List Act} (begun : share.first.work? = some work) :
    Account share.first.source work share.trace share.sent share.last :=
  share.conduct.account share.gone begun

/-- A share with one more step before it. -/
def after (share : Share) {producer : Producer} {around : Surroundings} {message : Option Message}
    (stepped : producer.step? around = some (share.first, message))
    (opened : ∀ moment ∈ share.trace, moment.around.received = true → around.received = true) :
    Share where
  first := producer
  trace := ⟨producer, around⟩ :: share.trace
  sent := message.toList ++ share.sent
  last := share.last
  conduct := .cons stepped share.conduct
  gone := List.pairwise_cons.2 ⟨opened, share.gone⟩

/-- What a course allows a producer: its messages are received only while the receiver takes some,
and are so to the end if it still does; and only an abort cancels it. -/
structure Within {σ : Type} (receiver : Receiver σ) (first last : Pipeline σ) (share : Share) :
    Prop where
  opened : ∀ moment ∈ share.trace, moment.around.received = true →
    receiver.isOver first.state = false
  heard : receiver.isOver last.state = false → Heard share.trace
  cancelled : ∀ moment ∈ share.trace, moment.around.cancelled = true →
    last.aborted = true ∧ share.first.abortable = true

theorem Within.after {σ : Type} {receiver : Receiver σ} {first next last : Pipeline σ}
    {actions : List Action} {arrivals : List Message} {share : Share} {producer : Producer}
    {around : Surroundings} {message : Option Message} (own : share.Within receiver next last)
    (admits : first.Admits receiver producer around)
    (course : Pipeline.Course receiver next actions arrivals last)
    (state : next.state = first.state) (aborted : next.aborted = first.aborted)
    (stepped : producer.step? around = some (share.first, message))
    (opened : ∀ moment ∈ share.trace, moment.around.received = true → around.received = true) :
    (share.after stepped opened).Within receiver first last where
  opened := by
    have later := own.opened
    rw [state] at later
    refine List.forall_mem_cons.2 ⟨fun received => ?_, later⟩
    simpa [admits.received] using received
  heard := by
    intro going
    refine List.forall_mem_cons.2 ⟨?_, own.heard going⟩
    cases closed : receiver.isOver first.state with
    | false => rw [admits.received, closed, Bool.not_false]
    | true => cases going.symm.trans (course.isOver (state ▸ closed))
  cancelled := by
    have same := (Producer.step?_iff.1 stepped).abortable_eq
    refine List.forall_mem_cons.2 ⟨fun cancelled => ?_, fun moment member cancelled => ?_⟩
    · obtain ⟨earlier, abortable⟩ := admits.cancelled cancelled
      exact ⟨course.aborted (aborted.trans earlier), abortable⟩
    · obtain ⟨later, abortable⟩ := own.cancelled moment member cancelled
      exact ⟨later, same.symm.trans abortable⟩

end Share

namespace Pipeline

variable {σ : Type} {receiver : Receiver σ} {first last : Pipeline σ} {actions : List Action}
  {arrivals : List Message}

/-- A course is made of the shares of its producers. -/
theorem Course.exists_shares (course : Course receiver first actions arrivals last) :
    ∃ shares : List Share, shares.map Share.first = first.producers ∧
      shares.map Share.last = last.producers ∧
      (∀ share ∈ shares, share.Within receiver first last) ∧
      ∃ whole, first.queue ++ whole = arrivals ++ last.queue ∧
        Interleaving (shares.map Share.sent) whole := by
  induction course with
  | @nil pipeline =>
      refine ⟨pipeline.producers.map Share.idle, by simp [Share.idle, Function.comp_def],
        by simp [Share.idle, Function.comp_def], ?_, [], List.append_nil _, .nil ?_⟩
      · intro share member
        obtain ⟨producer, -, rfl⟩ := List.mem_map.1 member
        exact ⟨List.forall_mem_nil _, fun _ => List.forall_mem_nil _, List.forall_mem_nil _⟩
      · intro part member
        rw [List.map_map] at member
        obtain ⟨producer, -, rfl⟩ := List.mem_map.1 member
        rfl
  | @cons first next last action actions arrivals occurred course ih =>
      obtain ⟨shares, firsts, lasts, within, whole, same, interleaving⟩ := ih
      cases occurred with
      | receive heard queued =>
          refine ⟨shares, firsts, lasts, fun share member => ?_, whole, ?_, interleaving⟩
          · exact ⟨fun _ _ _ => heard, (within share member).heard, (within share member).cancelled⟩
          · simpa [received?, queued] using same
      | abort =>
          refine ⟨shares, firsts, lasts, fun share member => ?_, whole, same, interleaving⟩
          exact ⟨(within share member).opened, (within share member).heard,
            (within share member).cancelled⟩
      | @produce index producer after around message _ found admits stepped =>
          obtain ⟨inside, here⟩ := List.getElem?_eq_some_iff.1 found
          have reached : (shares.map Share.first)[index]? = some after := by
            rw [firsts]
            exact List.getElem?_set_self inside
          rw [List.getElem?_map] at reached
          obtain ⟨share, held, rfl⟩ := Option.map_eq_some_iff.1 reached
          have own := within share (List.mem_of_getElem? held)
          have opened (moment : Moment) (member : moment ∈ share.trace)
              (received : moment.around.received = true) : around.received = true := by
            rw [admits.received, own.opened moment member received, Bool.not_false]
          have unchanged : first.producers.set index producer = first.producers := by
            rw [← here, List.set_getElem_self]
          refine ⟨shares.set index (share.after stepped opened), ?_, ?_, ?_,
            message.toList ++ whole, ?_, ?_⟩
          · rw [List.map_set, firsts, List.set_set]
            exact unchanged
          · rw [← lasts]
            exact map_set_of_eq held rfl
          · intro other member
            rcases List.mem_or_eq_of_mem_set member with earlier | rfl
            · exact ⟨(within other earlier).opened, (within other earlier).heard,
                (within other earlier).cancelled⟩
            · exact own.after admits course rfl rfl stepped opened
          · rw [← List.append_assoc]
            exact same
          · rw [List.map_set]
            exact interleaving.prepend (by rw [List.getElem?_map, held]; rfl) message

end Pipeline

end PackageSearch.Merge
