import Mathlib.Algebra.GroupWithZero.Nat
import PackageSearch.Access.Window

/-!
# Decisions of checks in flight

However many checks run at once and however long each takes, the decisions are those of checking
one package after the other: `decideAll_eq_decideInOrder`. A window stands for its `verdict`, which
no step changes, and its `cost` bounds the steps. `authorize_eq` says what is kept.
-/

set_option autoImplicit false

namespace PackageSearch.Access

namespace Window

variable {oracle : Oracle} {identity : Identity}

/-- Every result in a window is the decision on its package. -/
def Sound (oracle : Oracle) (identity : Identity) (held : List Check) : Prop :=
  ∀ check ∈ held, ∀ result, check.stage = .finished result →
    result = oracle.decision identity check.package

/-- How many steps a check still takes at most. A running check that is not due may need one for
the time to pass. -/
def stageCost (clock : Nat) : Stage → Nat
  | .queued => 4
  | .running due => if due ≤ clock then 2 else 3
  | .finished _ => 1

def heldCost (clock : Nat) (held : List Check) : Nat :=
  (held.map fun check => stageCost clock check.stage).sum

def cost (window : Window) : Nat :=
  4 * window.waiting.length + heldCost window.clock window.held

/-- The decisions taken so far and those of checking the other packages in order. -/
def verdict (oracle : Oracle) (identity : Identity) (window : Window) :
    Except CheckError (List Bool) :=
  (decideInOrder oracle identity (window.held.map Check.package ++ window.waiting)).map
    (window.taken.reverse ++ ·)

theorem heldCost_cons (clock : Nat) (check : Check) (rest : List Check) :
    heldCost clock (check :: rest) = stageCost clock check.stage + heldCost clock rest := by
  simp [heldCost]

theorem Sound.tail {check : Check} {rest : List Check}
    (sound : Sound oracle identity (check :: rest)) : Sound oracle identity rest :=
  fun later member => sound later (List.mem_cons_of_mem _ member)

theorem Sound.cons {check : Check} {rest : List Check} (sound : Sound oracle identity rest)
    (first : ∀ result, check.stage = .finished result →
      result = oracle.decision identity check.package) :
    Sound oracle identity (check :: rest) := by
  intro later member result finished
  rcases List.mem_cons.1 member with rfl | member
  · exact first result finished
  · exact sound later member result finished

theorem heldCost_append (clock : Nat) (left right : List Check) :
    heldCost clock (left ++ right) = heldCost clock left + heldCost clock right := by
  simp [heldCost]

/-! ## Taking up packages -/

theorem verdict_fill (limit : Nat) (window : Window) :
    (window.fill limit).verdict oracle identity = window.verdict oracle identity := by
  simp [verdict, fill, Function.comp_def]

theorem heldCost_queued (clock : Nat) (packages : List String) :
    heldCost clock (packages.map fun package => ⟨package, .queued⟩) = 4 * packages.length := by
  induction packages with
  | nil => rfl
  | cons _ rest ih =>
      rw [List.map_cons, heldCost_cons, ih, List.length_cons, stageCost]
      omega

theorem cost_fill (limit : Nat) (window : Window) : (window.fill limit).cost = window.cost := by
  simp only [cost, fill, heldCost_append, heldCost_queued, List.length_drop, List.length_take]
  omega

theorem sound_fill (limit : Nat) {window : Window} (sound : Sound oracle identity window.held) :
    Sound oracle identity (window.fill limit).held := by
  intro check member result finished
  rcases List.mem_append.1 member with held | fresh
  · exact sound check held result finished
  · obtain ⟨package, -, rfl⟩ := List.mem_map.1 fresh
    cases finished

theorem waiting_fill {limit : Nat} (positive : 0 < limit) (window : Window)
    (empty : (window.fill limit).held = []) : (window.fill limit).waiting = [] := by
  simp only [fill, List.append_eq_nil_iff, List.map_eq_nil_iff, List.take_eq_nil_iff] at empty ⊢
  obtain ⟨held, room | waiting⟩ := empty
  · simp only [held, List.length_nil] at room
    omega
  · simp [waiting]

/-! ## Checks in the window -/

/-- A change of the checks in a window that brings them nearer to their results. -/
structure Advances (oracle : Oracle) (identity : Identity) (clock : Nat)
    (held next : List Check) : Prop where
  sound : Sound oracle identity next
  packages : next.map Check.package = held.map Check.package
  cost : heldCost clock next < heldCost clock held

theorem Advances.behind {clock : Nat} {check : Check} {rest next : List Check}
    (sound : Sound oracle identity (check :: rest))
    (advances : Advances oracle identity clock rest next) :
    Advances oracle identity clock (check :: rest) (check :: next) where
  sound := advances.sound.cons (sound check List.mem_cons_self)
  packages := by simp [advances.packages]
  cost := by simpa [heldCost_cons] using advances.cost

theorem finishDue?_advances {clock : Nat} {held next : List Check}
    (sound : Sound oracle identity held)
    (found : finishDue? oracle identity clock held = some next) :
    Advances oracle identity clock held next := by
  induction held generalizing next with
  | nil => cases found
  | cons check rest ih =>
      have later (skipped : (finishDue? oracle identity clock rest).map (check :: ·) = some next) :
          Advances oracle identity clock (check :: rest) next := by
        obtain ⟨tail, inner, same⟩ := Option.map_eq_some_iff.1 skipped
        exact same ▸ (ih sound.tail inner).behind sound
      obtain ⟨package, stage⟩ := check
      cases stage with
      | queued => exact later found
      | finished result => exact later found
      | running due =>
          simp only [finishDue?] at found
          split at found
          · rename_i passed
            cases found
            refine ⟨sound.tail.cons ?_, rfl, by simp [heldCost_cons, stageCost, passed]⟩
            rintro result ⟨⟩
            rfl
          · exact later found

theorem begin?_advances {clock : Nat} {held next : List Check}
    (sound : Sound oracle identity held)
    (found : begin? oracle identity clock held = some next) :
    Advances oracle identity clock held next := by
  induction held generalizing next with
  | nil => cases found
  | cons check rest ih =>
      have later (skipped : (begin? oracle identity clock rest).map (check :: ·) = some next) :
          Advances oracle identity clock (check :: rest) next := by
        obtain ⟨tail, inner, same⟩ := Option.map_eq_some_iff.1 skipped
        exact same ▸ (ih sound.tail inner).behind sound
      obtain ⟨package, stage⟩ := check
      cases stage with
      | running due => exact later found
      | finished result => exact later found
      | queued =>
          simp only [begin?, Option.some.injEq] at found
          subst found
          by_cases immediate : oracle.delay package = 0
          · refine ⟨sound.tail.cons ?_, rfl, by simp [heldCost_cons, stageCost, immediate]⟩
            rintro result finished
            simp only [immediate, ↓reduceIte, Stage.finished.injEq] at finished
            exact finished.symm
          · refine ⟨sound.tail.cons ?_, rfl, ?_⟩
            · rintro result finished
              simp [immediate] at finished
            · simp only [heldCost_cons, stageCost, immediate, ↓reduceIte]
              split <;> omega

/-! ## Letting time pass -/

theorem stageCost_le_of_le {clock later : Nat} (passed : clock ≤ later) (stage : Stage) :
    stageCost later stage ≤ stageCost clock stage := by
  cases stage with
  | running due => simp only [stageCost]; split <;> split <;> omega
  | queued => exact Nat.le_refl _
  | finished => exact Nat.le_refl _

theorem heldCost_le_of_le {clock later : Nat} (passed : clock ≤ later) (held : List Check) :
    heldCost later held ≤ heldCost clock held := by
  induction held with
  | nil => exact Nat.le_refl _
  | cons check rest ih =>
      have first := stageCost_le_of_le passed check.stage
      simp only [heldCost_cons]
      omega

/-- A running check that is not due becomes so when time passes to its completion. -/
theorem heldCost_lt_of_running {clock due : Nat} {held : List Check} {package : String}
    (member : ⟨package, .running due⟩ ∈ held) (ahead : clock < due) :
    heldCost due held < heldCost clock held := by
  induction held with
  | nil => cases member
  | cons check rest ih =>
      rcases List.mem_cons.1 member with rfl | member
      · have others := heldCost_le_of_le (Nat.le_of_lt ahead) rest
        simp only [heldCost_cons, stageCost]
        split <;> split <;> omega
      · have less := ih member
        have first := stageCost_le_of_le (Nat.le_of_lt ahead) check.stage
        simp only [heldCost_cons]
        omega

theorem not_due_of_finishDue? {clock : Nat} {held : List Check}
    (idle : finishDue? oracle identity clock held = none) {package : String} {due : Nat}
    (member : ⟨package, .running due⟩ ∈ held) : clock < due := by
  induction held with
  | nil => cases member
  | cons check rest ih =>
      rcases List.mem_cons.1 member with rfl | member
      · simp only [finishDue?] at idle
        split at idle
        · cases idle
        · omega
      · refine ih ?_ member
        obtain ⟨other, stage⟩ := check
        cases stage with
        | queued => simpa [finishDue?] using idle
        | finished => simpa [finishDue?] using idle
        | running instant =>
            simp only [finishDue?] at idle
            split at idle
            · cases idle
            · simpa using idle

theorem exists_running_of_nextDue? {held : List Check} {due : Nat}
    (next : nextDue? held = some due) : ∃ package, ⟨package, .running due⟩ ∈ held := by
  obtain ⟨check, member, running⟩ := List.mem_filterMap.1 (List.min?_mem next)
  obtain ⟨package, stage⟩ := check
  cases stage with
  | running instant =>
      cases running
      exact ⟨package, member⟩
  | queued => cases running
  | finished => cases running

/-- The first check of a window is finished, or something can still happen. -/
theorem front_finished {clock : Nat} {check : Check} {rest : List Check}
    (idle : begin? oracle identity clock (check :: rest) = none)
    (timeless : nextDue? (check :: rest) = none) : ∃ result, check.stage = .finished result := by
  obtain ⟨package, stage⟩ := check
  cases stage with
  | queued => cases idle
  | running due => simp [nextDue?] at timeless
  | finished result => exact ⟨result, rfl⟩

/-! ## Steps and runs -/

/-- What a step leads to: a window nearer to the same verdict, or the verdict. -/
def LeadsTo (oracle : Oracle) (identity : Identity) (window : Window) :
    Window ⊕ Except CheckError (List Bool) → Prop
  | .inl next => Sound oracle identity next.held ∧ next.cost < window.cost ∧
      next.verdict oracle identity = window.verdict oracle identity
  | .inr outcome => outcome = window.verdict oracle identity

theorem Advances.leadsTo {window : Window} {next : List Check} {peak : Nat}
    (advances : Advances oracle identity window.clock window.held next) :
    LeadsTo oracle identity window (.inl { window with held := next, peak }) := by
  refine ⟨advances.sound, ?_, ?_⟩
  · exact Nat.add_lt_add_left advances.cost _
  · simp only [verdict, advances.packages]

theorem move_leadsTo {window : Window} {check : Check} {rest : List Check}
    (held : window.held = check :: rest) (sound : Sound oracle identity window.held)
    (unfinished : ∀ result, check.stage ≠ .finished result) :
    LeadsTo oracle identity window (window.move oracle identity) := by
  unfold move
  cases advanced : finishDue? oracle identity window.clock window.held with
  | some next => exact (finishDue?_advances sound advanced).leadsTo
  | none =>
      cases begun : begin? oracle identity window.clock window.held with
      | some next => exact (begin?_advances sound begun).leadsTo
      | none =>
          cases next : nextDue? window.held with
          | some due =>
              obtain ⟨package, member⟩ := exists_running_of_nextDue? next
              have less := heldCost_lt_of_running member (not_due_of_finishDue? advanced member)
              refine ⟨sound, ?_, rfl⟩
              simp only [cost]
              omega
          | none =>
              rw [held] at begun next
              obtain ⟨result, finished⟩ := front_finished begun next
              exact absurd finished (unfinished result)

theorem step_leadsTo {limit : Nat} {window : Window} (positive : 0 < limit)
    (sound : Sound oracle identity window.held) :
    LeadsTo oracle identity window (window.step oracle identity limit) := by
  have filled := sound_fill limit sound
  have exhausted := waiting_fill positive window
  have same : LeadsTo oracle identity window = LeadsTo oracle identity (window.fill limit) := by
    funext reached
    cases reached <;> simp only [LeadsTo, verdict_fill, cost_fill]
  rw [same]
  simp only [step]
  generalize window.fill limit = window at filled exhausted
  obtain ⟨clock, waiting, held, taken, peak⟩ := window
  simp only at filled exhausted ⊢
  cases held with
  | nil => simp [LeadsTo, verdict, exhausted rfl, decideInOrder, Except.map]
  | cons check rest =>
      obtain ⟨package, stage⟩ := check
      cases stage with
      | queued => exact move_leadsTo rfl filled nofun
      | running due => exact move_leadsTo rfl filled nofun
      | finished result =>
          have decided := filled _ List.mem_cons_self result rfl
          simp only at decided
          cases result with
          | ok allowed =>
              refine ⟨filled.tail, by simp [cost, heldCost_cons, stageCost], ?_⟩
              simp only [verdict, List.map_cons, List.cons_append, decideInOrder, ← decided]
              cases decideInOrder oracle identity (rest.map Check.package ++ waiting) <;>
                simp [bind, Except.bind, Except.map]
          | error error =>
              simp [LeadsTo, verdict, decideInOrder, ← decided, bind, Except.bind, Except.map]

theorem run_eq_verdict {limit fuel : Nat} {window : Window} (positive : 0 < limit)
    (sound : Sound oracle identity window.held) (enough : window.cost < fuel) :
    (run oracle identity limit fuel window).1 = window.verdict oracle identity := by
  induction fuel generalizing window with
  | zero => omega
  | succ fuel ih =>
      have leads := step_leadsTo positive sound
      simp only [run]
      cases stepped : window.step oracle identity limit with
      | inr outcome => rwa [stepped] at leads
      | inl next =>
          rw [stepped] at leads
          obtain ⟨kept, less, same⟩ := leads
          rw [← same]
          exact ih kept (by omega)

end Window

/-- However many checks are in flight, the decisions are those of checking in order. -/
theorem decideAll_eq_decideInOrder (oracle : Oracle) (identity : Identity)
    (packages : List String) (concurrency : Nat) :
    decideAll oracle identity packages concurrency = decideInOrder oracle identity packages := by
  have empty : Window.Sound oracle identity (Window.start packages).held := by
    intro check member
    cases member
  rw [decideAll, decideWithPeak, Window.run_eq_verdict (by omega) empty]
  · simp only [Window.verdict, Window.start, List.map_nil, List.nil_append, List.reverse_nil]
    cases decideInOrder oracle identity packages <;> rfl
  · simp [Window.cost, Window.start, Window.heldCost]

/-! ## What is kept -/

def Oracle.grants (oracle : Oracle) (identity : Identity) (package : String) : Bool :=
  match oracle.answer package identity with
  | .ok allowed => allowed
  | .error _ => false

/-- The failure of a check that does not count as a denial: it has no status, or one outside
400 to 499. -/
def Oracle.fatal? (oracle : Oracle) (identity : Identity) (package : String) : Option CheckError :=
  match oracle.answer package identity with
  | .ok _ => none
  | .error error =>
      match error.status with
      | some status => if 400 ≤ status ∧ status ≤ 499 then none else some error
      | none => some error

theorem decision_eq (oracle : Oracle) (identity : Identity) (package : String) :
    oracle.decision identity package =
      match oracle.fatal? identity package with
      | some error => .error error
      | none => .ok (oracle.grants identity package) := by
  simp only [Oracle.decision, settle, Oracle.fatal?, Oracle.grants]
  cases oracle.answer package identity with
  | ok allowed => rfl
  | error error =>
      obtain ⟨status, message⟩ := error
      cases status with
      | none => rfl
      | some status =>
          by_cases client : 400 ≤ status ∧ status ≤ 499
          · have inside : 400 ≤ status ∧ status < 500 := by omega
            simp [CheckError.isClientError, client, inside]
          · have outside : ¬ (400 ≤ status ∧ status < 500) := by omega
            simp [CheckError.isClientError, client, outside]

theorem decideInOrder_eq (oracle : Oracle) (identity : Identity) (packages : List String) :
    decideInOrder oracle identity packages =
      match packages.findSome? (oracle.fatal? identity) with
      | some error => .error error
      | none => .ok (packages.map (oracle.grants identity)) := by
  induction packages with
  | nil => rfl
  | cons package rest ih =>
      simp only [decideInOrder, decision_eq, ih, List.findSome?_cons]
      cases oracle.fatal? identity package with
      | some error => rfl
      | none => cases rest.findSome? (oracle.fatal? identity) <;> rfl

/-- Items are kept if their packages are granted, unless a check fails fatally; then the first such
failure is given. -/
theorem authorize_eq {α : Type} (oracle : Oracle) (identity : Identity) (packageOf : α → String)
    (items : List α) (concurrency : Nat) :
    authorize oracle identity packageOf items concurrency =
      match items.findSome? fun item => oracle.fatal? identity (packageOf item) with
      | some error => .error error
      | none => .ok (items.filter fun item => oracle.grants identity (packageOf item)) := by
  have zipped : ((items.zip ((items.map packageOf).map (oracle.grants identity))).filterMap
      fun decided => if decided.2 then some decided.1 else none) =
        items.filter fun item => oracle.grants identity (packageOf item) := by
    induction items with
    | nil => rfl
    | cons item rest ih =>
        simp only [List.map_cons, List.zip_cons_cons, List.filterMap_cons, List.filter_cons, ih]
        cases oracle.grants identity (packageOf item) <;> rfl
  rw [authorize, decideAll_eq_decideInOrder, decideInOrder_eq, List.findSome?_map]
  simp only [Function.comp_def]
  cases items.findSome? fun item => oracle.fatal? identity (packageOf item) with
  | some error => rfl
  | none => simp only [bind, Except.bind, zipped]

end PackageSearch.Access
