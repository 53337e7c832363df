import PackageSearch.Proofs.Merge.Course

/-!
# Runs of a pipeline

A run is any sequence of enabled actions; the messages received on the way are its arrivals, in
order. Every run is a course, and `exists_action` says that a pipeline whose producers end does not
get stuck.
-/

set_option autoImplicit false

namespace PackageSearch.Merge.Pipeline

variable {σ : Type}

/-- Enabled actions one after the other, each in a state with a property, and what arrives. -/
inductive Run (receiver : Receiver σ) (Holds : Pipeline σ → Prop) :
    Pipeline σ → List Action → List Message → Pipeline σ → Prop where
  | nil {pipeline : Pipeline σ} : Run receiver Holds pipeline [] [] pipeline
  | cons {first next last : Pipeline σ} {action : Action} {actions : List Action}
      {arrivals : List Message} :
      Holds first → first.act? receiver action = some next →
      Run receiver Holds next actions arrivals last →
      Run receiver Holds first (action :: actions) ((first.received? action).toList ++ arrivals)
        last

/-- Do the actions one after the other, if each is enabled in its turn. -/
def perform? (receiver : Receiver σ) :
    Pipeline σ → List Action → Option (List Message × Pipeline σ)
  | pipeline, [] => some ([], pipeline)
  | pipeline, action :: rest =>
      (pipeline.act? receiver action).bind fun next =>
        (perform? receiver next rest).map fun (arrivals, last) =>
          ((pipeline.received? action).toList ++ arrivals, last)

theorem Run.of_perform? {receiver : Receiver σ} {first last : Pipeline σ} {actions : List Action}
    {arrivals : List Message}
    (performed : first.perform? receiver actions = some (arrivals, last)) :
    Run receiver (fun _ => True) first actions arrivals last := by
  induction actions generalizing first arrivals with
  | nil =>
      cases performed
      exact .nil
  | cons action rest ih =>
      obtain ⟨next, acted, performed⟩ := Option.bind_eq_some_iff.1 performed
      obtain ⟨⟨later, reached⟩, performed, same⟩ := Option.map_eq_some_iff.1 performed
      cases same
      exact .cons trivial acted (ih performed)

theorem Run.course {receiver : Receiver σ} {Holds : Pipeline σ → Prop} {first last : Pipeline σ}
    {actions : List Action} {arrivals : List Message}
    (run : Run receiver Holds first actions arrivals last) :
    Course receiver first actions arrivals last := by
  induction run with
  | nil => exact .nil
  | cons _ acted _ ih => exact .cons (occurs_of_act? acted) ih

theorem Run.length_add_effort_le {receiver : Receiver σ} {Holds : Pipeline σ → Prop}
    {first last : Pipeline σ} {actions : List Action} {arrivals : List Message}
    (run : Run receiver Holds first actions arrivals last) :
    actions.length + last.effort ≤ first.effort :=
  run.course.length_add_effort_le

/-! ## No run gets stuck -/

theorem receive_ne_abort : Action.receive ≠ .abort := by
  intro same
  cases same

theorem produce_ne_abort (index : Nat) : Action.produce index ≠ .abort := by
  intro same
  cases same

theorem exists_action {receiver : Receiver σ} {pipeline : Pipeline σ}
    (roomy : 0 < pipeline.capacity)
    (ended : ∀ producer ∈ pipeline.producers,
      producer.ends = true ∨ (pipeline.aborted && producer.abortable) = true)
    (unfinished : (∃ producer ∈ pipeline.producers, producer.isFinished = false) ∨
      (receiver.isOver pipeline.state = false ∧ pipeline.queue ≠ [])) :
    ∃ action, action ≠ .abort ∧ (pipeline.act? receiver action).isSome = true := by
  by_cases waiting : receiver.isOver pipeline.state = false ∧ pipeline.queue ≠ []
  · obtain ⟨heard, queued⟩ := waiting
    obtain ⟨message, rest, queued⟩ := List.exists_cons_of_ne_nil queued
    exact ⟨.receive, receive_ne_abort, by simp [act?, heard, queued]⟩
  · obtain ⟨producer, member, unfinished⟩ := unfinished.resolve_right waiting
    obtain ⟨index, inside, rfl⟩ := List.mem_iff_getElem.1 member
    let around := pipeline.surroundings receiver pipeline.producers[index]
    have room : around.received = true → around.room = true := by
      intro received
      have heard : receiver.isOver pipeline.state = false := by
        simpa [around, surroundings] using received
      have empty : pipeline.queue = [] := by simpa [heard] using waiting
      simpa [around, surroundings, empty] using roomy
    have awake : pipeline.producers[index].due?.getD around.clock ≤ around.clock := by
      cases due : pipeline.producers[index].due? with
      | none => exact Nat.le_refl _
      | some instant =>
          simp only [around, surroundings, due, Option.getD_some]
          exact Nat.le_max_right _ _
    obtain ⟨next, message, stepped⟩ :=
      Producer.exists_step? unfinished (ended _ member) room awake
    refine ⟨.produce index, produce_ne_abort index, ?_⟩
    simp only [act?, List.getElem?_eq_getElem inside]
    simp [around] at stepped
    simp [stepped]

end PackageSearch.Merge.Pipeline
