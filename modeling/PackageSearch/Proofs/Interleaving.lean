import Mathlib.Algebra.GroupWithZero.Nat

/-!
# Interleavings of lists

A list interleaves several parts if it takes them apart from the front, one head at a time and in
any order. Every part keeps its order, and nothing is lost or added.
-/

set_option autoImplicit false

namespace PackageSearch

/-- Replacing an entry by one with the same image does not change the images. -/
theorem map_set_of_eq {α γ : Type} {entries : List α} {index : Nat} {before after : α}
    {image : α → γ} (found : entries[index]? = some before) (same : image after = image before) :
    (entries.set index after).map image = entries.map image := by
  apply List.ext_getElem?
  intro place
  rw [List.getElem?_map, List.getElem?_map]
  by_cases here : index = place
  · subst here
    obtain ⟨inside, -⟩ := List.getElem?_eq_some_iff.1 found
    rw [List.getElem?_set_self inside, found, Option.map_some, Option.map_some, same]
  · rw [List.getElem?_set_ne here]

theorem sum_map_set {α : Type} (measure : α → Nat) {entries : List α} {index : Nat}
    {before : α} (after : α) (found : entries[index]? = some before) :
    ((entries.set index after).map measure).sum + measure before =
      (entries.map measure).sum + measure after := by
  induction entries generalizing index with
  | nil => cases found
  | cons head tail ih =>
      cases index with
      | zero =>
          cases found
          simp only [List.set_cons_zero, List.map_cons, List.sum_cons]
          omega
      | succ index =>
          rw [List.getElem?_cons_succ] at found
          have shorter := ih found
          simp only [List.set_cons_succ, List.map_cons, List.sum_cons]
          omega

theorem flatten_perm_cons {α : Type} {parts : List (List α)} {index : Nat} {head : α}
    {rest : List α} (found : parts[index]? = some (head :: rest)) :
    parts.flatten.Perm (head :: (parts.set index rest).flatten) := by
  induction parts generalizing index with
  | nil => cases found
  | cons part parts ih =>
      cases index with
      | zero =>
          cases found
          exact .refl _
      | succ index =>
          rw [List.set_cons_succ, List.flatten_cons, List.flatten_cons]
          exact ((ih found).append_left part).trans List.perm_middle

inductive Interleaving {α : Type} : List (List α) → List α → Prop where
  | nil {parts : List (List α)} : (∀ part ∈ parts, part = []) → Interleaving parts []
  | cons {parts : List (List α)} {index : Nat} {head : α} {rest merged : List α} :
      parts[index]? = some (head :: rest) → Interleaving (parts.set index rest) merged →
      Interleaving parts (head :: merged)

namespace Interleaving

variable {α β : Type} {parts : List (List α)} {merged : List α}

theorem filterMap (keep : α → Option β) (interleaving : Interleaving parts merged) :
    Interleaving (parts.map (List.filterMap keep)) (merged.filterMap keep) := by
  induction interleaving with
  | nil empty =>
      refine .nil fun image member => ?_
      obtain ⟨part, inside, rfl⟩ := List.mem_map.1 member
      rw [empty part inside, List.filterMap_nil]
  | @cons parts index head rest merged found _ ih =>
      cases kept : keep head with
      | none =>
          rw [List.filterMap_cons_none kept]
          rwa [map_set_of_eq found (by rw [List.filterMap_cons_none kept])] at ih
      | some image =>
          rw [List.filterMap_cons_some kept]
          have image : (parts.map (List.filterMap keep))[index]? =
              some (image :: rest.filterMap keep) := by
            rw [List.getElem?_map, found, Option.map_some, List.filterMap_cons_some kept]
          rw [List.map_set] at ih
          exact .cons image ih

theorem exists_of_mem (interleaving : Interleaving parts merged) {item : α}
    (member : item ∈ merged) : ∃ part ∈ parts, item ∈ part := by
  induction interleaving with
  | nil => cases member
  | @cons parts index head rest merged found _ ih =>
      have whole := List.mem_of_getElem? found
      rcases List.mem_cons.1 member with rfl | later
      · exact ⟨_, whole, List.mem_cons_self⟩
      · obtain ⟨part, inside, held⟩ := ih later
        rcases List.mem_or_eq_of_mem_set inside with earlier | rfl
        · exact ⟨part, earlier, held⟩
        · exact ⟨_, whole, List.mem_cons_of_mem _ held⟩

theorem mem_of_mem (interleaving : Interleaving parts merged) {part : List α} {item : α}
    (member : part ∈ parts) (held : item ∈ part) : item ∈ merged := by
  induction interleaving generalizing part with
  | nil empty =>
      rw [empty part member] at held
      cases held
  | @cons parts index head rest merged found _ ih =>
      obtain ⟨place, inside, rfl⟩ := List.mem_iff_getElem.1 member
      by_cases here : index = place
      · subst here
        obtain ⟨_, whole⟩ := List.getElem?_eq_some_iff.1 found
        rw [whole] at held
        rcases List.mem_cons.1 held with rfl | later
        · exact List.mem_cons_self
        · exact List.mem_cons_of_mem _ (ih (List.mem_set inside rest) later)
      · have kept : parts[place] ∈ parts.set index rest :=
          List.mem_iff_getElem.2 ⟨place, by simpa using inside, List.getElem_set_ne here _⟩
        exact List.mem_cons_of_mem _ (ih kept held)

theorem countP_eq (mark : α → Bool) (interleaving : Interleaving parts merged) :
    merged.countP mark = (parts.map (List.countP mark)).sum := by
  induction interleaving with
  | nil empty =>
      refine (List.sum_eq_zero_iff_forall_eq_nat.2 fun count member => ?_).symm
      obtain ⟨part, inside, rfl⟩ := List.mem_map.1 member
      rw [empty part inside, List.countP_nil]
  | @cons parts index head rest merged found _ ih =>
      have total := sum_map_set (List.countP mark) rest found
      rw [List.countP_cons] at total ⊢
      omega

theorem eq_nil (interleaving : Interleaving parts merged) (empty : ∀ part ∈ parts, part = []) :
    merged = [] := by
  cases interleaving with
  | nil => rfl
  | cons found _ => cases empty _ (List.mem_of_getElem? found)

/-- An interleaving has the items of its parts, each as often as they have it. -/
theorem perm (interleaving : Interleaving parts merged) : merged.Perm parts.flatten := by
  induction interleaving with
  | nil empty => rw [List.flatten_eq_nil_iff.2 empty]
  | cons found _ ih => exact (ih.cons _).trans (flatten_perm_cons found).symm

/-- A part beside which there is nothing is all there is. -/
theorem eq_head {part : List α} {others : List (List α)}
    (interleaving : Interleaving (part :: others) merged)
    (silent : ∀ other ∈ others, other = []) : merged = part := by
  generalize same : part :: others = parts at interleaving
  induction interleaving generalizing part with
  | nil empty =>
      subst same
      exact (empty part List.mem_cons_self).symm
  | @cons parts index head rest merged found _ ih =>
      subst same
      cases index with
      | zero =>
          cases found
          exact congrArg _ (ih rfl)
      | succ index => cases silent _ (List.mem_of_getElem? found)

theorem filter (keep : α → Bool) (interleaving : Interleaving parts merged) :
    Interleaving (parts.map (List.filter keep)) (merged.filter keep) := by
  have kept := interleaving.filterMap (Option.guard keep)
  rwa [List.filterMap_eq_filter] at kept

/-- A new head of a part comes before everything else. -/
theorem prepend (interleaving : Interleaving parts merged) {index : Nat} {part : List α}
    (found : parts[index]? = some part) (head : Option α) :
    Interleaving (parts.set index (head.toList ++ part)) (head.toList ++ merged) := by
  obtain ⟨inside, same⟩ := List.getElem?_eq_some_iff.1 found
  have unchanged : parts.set index part = parts := by
    rw [← same, List.set_getElem_self]
  cases head with
  | none => rwa [Option.toList_none, List.nil_append, List.nil_append, unchanged]
  | some head =>
      have front : (parts.set index (head :: part))[index]? = some (head :: part) :=
        List.getElem?_set_self inside
      exact .cons front (by rwa [List.set_set, unchanged])

end Interleaving

def EndsAtMark {α : Type} (mark : α → Bool) : List α → Prop
  | [] => True
  | head :: rest => (mark head = true ↔ rest = []) ∧ EndsAtMark mark rest

theorem EndsAtMark.countP_eq_zero {α : Type} {mark : α → Bool} {past rest : List α}
    (marked : EndsAtMark mark (past ++ rest)) (more : rest ≠ []) : past.countP mark = 0 := by
  induction past with
  | nil => rfl
  | cons head past ih =>
      have unmarked : ¬ mark head = true := by
        rw [marked.1]
        simp [more]
      rw [List.countP_cons_of_neg unmarked, ih marked.2]

theorem sum_le_length {counts : List Nat} (small : ∀ count ∈ counts, count ≤ 1) :
    counts.sum ≤ counts.length := by
  induction counts with
  | nil => exact Nat.le_refl _
  | cons first rest ih =>
      obtain ⟨least, others⟩ := List.forall_mem_cons.1 small
      rw [List.sum_cons, List.length_cons, Nat.add_comm]
      exact Nat.add_le_add (ih others) least

/-- Counts of at most one that reach as many as there are of them are all one. -/
theorem eq_one_of_length_le_sum {counts : List Nat} (small : ∀ count ∈ counts, count ≤ 1)
    (many : counts.length ≤ counts.sum) : ∀ count ∈ counts, count = 1 := by
  induction counts with
  | nil => exact List.forall_mem_nil _
  | cons first rest ih =>
      obtain ⟨least, others⟩ := List.forall_mem_cons.1 small
      have bounded := sum_le_length others
      rw [List.length_cons, List.sum_cons] at many
      exact List.forall_mem_cons.2 ⟨by omega, ih others (by omega)⟩

/-- Once as many marks have passed as there are parts that end at one, nothing is left. -/
theorem Interleaving.rest_eq_nil {α : Type} (mark : α → Bool) {parts : List (List α)}
    {past rest : List α} (interleaving : Interleaving parts (past ++ rest))
    (marked : ∀ part ∈ parts, EndsAtMark mark part)
    (passed : (parts.map fun part => if part.isEmpty then 0 else 1).sum ≤ past.countP mark) :
    rest = [] := by
  induction past generalizing parts with
  | nil =>
      refine interleaving.eq_nil fun part member => ?_
      rw [List.countP_nil] at passed
      have unmarked := List.sum_eq_zero_iff_forall_eq_nat.1 (Nat.le_zero.1 passed) _
        (List.mem_map_of_mem member)
      simpa using unmarked
  | cons head past ih =>
      obtain ⟨index, later, found, interleaving⟩ : ∃ index later,
          parts[index]? = some (head :: later) ∧
            Interleaving (parts.set index later) (past ++ rest) := by
        cases interleaving with
        | cons found interleaving => exact ⟨_, _, found, interleaving⟩
      have here := marked _ (List.mem_of_getElem? found)
      refine ih interleaving (fun part member => ?_) ?_
      · rcases List.mem_or_eq_of_mem_set member with earlier | rfl
        · exact marked part earlier
        · exact here.2
      · have total := sum_map_set (fun part : List α => if part.isEmpty then 0 else 1) later found
        have single : (if mark head then 1 else 0) = (if later.isEmpty then 1 else 0) := by
          simp [here.1]
        simp only [List.countP_cons, single] at passed
        simp only [List.isEmpty_cons, Bool.false_eq_true, ↓reduceIte] at total
        cases left : later.isEmpty with
        | true =>
            simp only [left, ↓reduceIte] at passed total
            omega
        | false =>
            simp only [left, Bool.false_eq_true, ↓reduceIte] at passed total
            omega

end PackageSearch
