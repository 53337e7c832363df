import PackageSearch.Proofs.Merge.Run

/-!
# The order of the clock

The order in which `settle` picks actions is one of the runs. It leaves nothing undone: when it
stops, no action is enabled but an abort that nobody asks for, and an abort that is asked for has
happened.
-/

set_option autoImplicit false

namespace PackageSearch.Merge.Pipeline

variable {σ : Type} {receiver : Receiver σ} {pipeline : Pipeline σ}

theorem act?_produce_isSome {index : Nat} :
    (pipeline.act? receiver (.produce index)).isSome = true ↔
      ∃ producer, pipeline.producers[index]? = some producer ∧
        (pipeline.readyAt? receiver producer).isSome = true := by
  cases found : pipeline.producers[index]? with
  | none => simp [act?, found]
  | some producer =>
      cases stepped : producer.step? (pipeline.surroundings receiver producer) <;>
        simp [act?, readyAt?, found, stepped]

theorem mem_candidates {instant index : Nat} :
    (instant, index) ∈ pipeline.candidates receiver ↔
      ∃ producer, pipeline.producers[index]? = some producer ∧
        pipeline.readyAt? receiver producer = some instant := by
  simp only [candidates, List.mem_filterMap, Prod.exists, List.mk_mem_zipIdx_iff_getElem?,
    Option.map_eq_some_iff, Prod.mk.injEq]
  constructor
  · rintro ⟨producer, place, found, other, ready, rfl, rfl⟩
    exact ⟨producer, found, ready⟩
  · rintro ⟨producer, found, ready⟩
    exact ⟨producer, index, found, instant, ready, rfl, rfl⟩

theorem mem_of_earliest? {candidates : List (Nat × Nat)} {candidate : Nat × Nat}
    (first : earliest? candidates = some candidate) : candidate ∈ candidates := by
  cases candidates with
  | nil => cases first
  | cons head rest =>
      cases first
      induction rest generalizing head with
      | nil => exact List.mem_cons_self
      | cons next rest ih =>
          rw [List.foldl_cons]
          rcases List.mem_cons.1 (ih (earlier head next)) with here | later
          · rw [here, earlier]
            split
            · exact List.mem_cons_of_mem _ List.mem_cons_self
            · exact List.mem_cons_self
          · exact List.mem_cons_of_mem _ (List.mem_cons_of_mem _ later)

theorem earliest?_eq_none {candidates : List (Nat × Nat)} (absent : earliest? candidates = none) :
    candidates = [] := by
  cases candidates with
  | nil => rfl
  | cons => cases absent

/-- An unstarted producer can always begin. -/
theorem act?_unstarted_isSome {index : Nat} (found : pipeline.unstarted? = some index) :
    (pipeline.act? receiver (.produce index)).isSome = true := by
  obtain ⟨inside, unstarted, -⟩ := List.findIdx?_eq_some_iff_getElem.1 found
  refine act?_produce_isSome.2 ⟨_, List.getElem?_eq_getElem inside, ?_⟩
  cases phase : pipeline.producers[index].phase with
  | ready work =>
      simp only [readyAt?, Option.isSome_map, Producer.step?, phase]
      split <;> rfl
  | working | asleep | reporting | closing | finished => simp [phase] at unstarted

theorem act?_abort_isSome (fresh : pipeline.aborted = false) :
    (pipeline.act? receiver .abort).isSome = true := by
  simp [act?, fresh]

theorem fresh_of_abortsBy {instant : Nat} (due : pipeline.abortsBy instant = true) :
    pipeline.aborted = false := by
  simp only [abortsBy, Bool.and_eq_true, Bool.not_eq_true'] at due
  exact due.1

/-- The action that is chosen is enabled. -/
theorem act?_choose?_isSome {action : Action}
    (chosen : pipeline.choose? receiver = some action) :
    (pipeline.act? receiver action).isSome = true := by
  unfold choose? at chosen
  split at chosen
  · rename_i waiting
    cases chosen
    simp only [Bool.and_eq_true, Bool.not_eq_true', List.isEmpty_eq_false_iff] at waiting
    obtain ⟨message, rest, queued⟩ := List.exists_cons_of_ne_nil waiting.2
    simp [act?, waiting.1, queued]
  · split at chosen
    · rename_i due
      cases chosen
      exact act?_abort_isSome (fresh_of_abortsBy due)
    · split at chosen
      · rename_i index unstarted
        cases chosen
        exact act?_unstarted_isSome unstarted
      · split at chosen
        · rename_i instant index first
          obtain ⟨producer, found, ready⟩ := mem_candidates.1 (mem_of_earliest? first)
          split at chosen
          · rename_i due
            cases chosen
            exact act?_abort_isSome (fresh_of_abortsBy due)
          · cases chosen
            exact act?_produce_isSome.2 ⟨producer, found, by rw [ready, Option.isSome_some]⟩
        · split at chosen
          · rename_i due
            cases chosen
            simp only [Bool.and_eq_true, Bool.not_eq_true'] at due
            exact act?_abort_isSome due.1
          · cases chosen

/-- Nothing is chosen only where nothing is enabled, but an abort that nobody asks for. -/
theorem stuck_of_choose?_eq_none (idle : pipeline.choose? receiver = none) :
    (∀ action, action ≠ .abort → (pipeline.act? receiver action).isSome = false) ∧
      (pipeline.abortAt.isSome = true → pipeline.aborted = true) := by
  unfold choose? at idle
  split at idle
  · cases idle
  · rename_i quiet
    split at idle
    · cases idle
    · split at idle
      · cases idle
      · split at idle
        · split at idle <;> cases idle
        · rename_i none
          split at idle
          · cases idle
          · rename_i unasked
            refine ⟨fun action other => ?_, fun asked => by simpa [asked] using unasked⟩
            cases action with
            | abort => exact absurd rfl other
            | receive =>
                cases closed : receiver.isOver pipeline.state with
                | true => simp [act?, closed]
                | false =>
                    have empty : pipeline.queue = [] := by simpa [closed] using quiet
                    simp [act?, closed, empty]
            | produce index =>
                rw [Bool.eq_false_iff]
                intro enabled
                obtain ⟨producer, found, ready⟩ := act?_produce_isSome.1 enabled
                obtain ⟨instant, ready⟩ := Option.isSome_iff_exists.1 ready
                have candidate := mem_candidates.2 ⟨producer, found, ready⟩
                rw [earliest?_eq_none none] at candidate
                cases candidate

theorem choose?_ne_abort (never : pipeline.abortAt = none) {action : Action}
    (chosen : pipeline.choose? receiver = some action) : action ≠ .abort := by
  rintro rfl
  have unaborted (instant : Nat) : pipeline.abortsBy instant = false := by
    simp [abortsBy, never]
  unfold choose? at chosen
  split at chosen
  · cases chosen
  · simp only [unaborted, Bool.false_eq_true, ↓reduceIte, never, Option.isSome_none,
      Bool.and_false] at chosen
    split at chosen
    · cases chosen
    · split at chosen <;> cases chosen

theorem Occurs.abortAt_eq {next : Pipeline σ} {action : Action}
    (occurred : Occurs receiver pipeline action next) : next.abortAt = pipeline.abortAt := by
  cases occurred <;> rfl

/-- The order of the clock is a run, and it stops only where nothing is left to do. -/
theorem exists_run (receiver : Receiver σ) (pipeline : Pipeline σ) {fuel : Nat}
    (enough : pipeline.effort ≤ fuel) :
    (∃ actions arrivals, Run receiver (fun _ => True) pipeline actions arrivals
        (pipeline.run receiver fuel) ∧ (pipeline.abortAt = none → Action.abort ∉ actions)) ∧
      (∀ action, action ≠ .abort →
        ((pipeline.run receiver fuel).act? receiver action).isSome = false) ∧
      (pipeline.abortAt.isSome = true → (pipeline.run receiver fuel).aborted = true) := by
  induction fuel generalizing pipeline with
  | zero =>
      have spent (action : Action) : pipeline.act? receiver action = none := by
        cases acted : pipeline.act? receiver action with
        | none => rfl
        | some next =>
            have less := (occurs_of_act? acted).effort_lt
            omega
      refine ⟨⟨[], [], .nil, fun _ => List.not_mem_nil⟩, fun action _ => ?_, fun _ => ?_⟩
      · simp only [run, spent, Option.isSome_none]
      · cases fresh : pipeline.aborted with
        | true => rw [run, fresh]
        | false =>
            have enabled : (pipeline.act? receiver .abort).isSome = true :=
              act?_abort_isSome fresh
            rw [spent] at enabled
            cases enabled
  | succ fuel ih =>
      cases picked : (pipeline.choose? receiver).bind (pipeline.act? receiver) with
      | none =>
          have idle : pipeline.choose? receiver = none := by
            cases choice : pipeline.choose? receiver with
            | none => rfl
            | some action =>
                have enabled := act?_choose?_isSome choice
                rw [choice, Option.bind_some] at picked
                rw [picked] at enabled
                cases enabled
          simp only [run, picked]
          exact ⟨⟨[], [], .nil, fun _ => List.not_mem_nil⟩, stuck_of_choose?_eq_none idle⟩
      | some next =>
          obtain ⟨action, choice, acted⟩ := Option.bind_eq_some_iff.1 picked
          have occurred := occurs_of_act? acted
          have less := occurred.effort_lt
          obtain ⟨⟨actions, arrivals, later, unaborted⟩, stuck, aborted⟩ := ih next (by omega)
          rw [occurred.abortAt_eq] at unaborted aborted
          simp only [run, picked]
          refine ⟨⟨_, _, .cons trivial acted later, fun never member => ?_⟩, stuck, aborted⟩
          exact (List.mem_cons.1 member).elim
            (fun aborts => choose?_ne_abort never choice aborts.symm) (unaborted never)

end PackageSearch.Merge.Pipeline
