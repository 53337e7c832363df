import Mathlib
import PackageSearch.Proofs.Text.Runs

/-!
# Words in a text

A word is a nonempty part of a text without blanks that has a blank or an end of the text on either
side. `mem_runs_iff` says that splitting a text finds just its words. Texts with blanks between them
have the words of both.
-/

set_option autoImplicit false

namespace PackageSearch.Text

variable {α : Type} {separator : α → Bool}

/-- A longest nonempty part of a text without separators. -/
structure IsRun (separator : α → Bool) (text run : List α) : Prop where
  nonempty : run ≠ []
  free : ∀ character ∈ run, separator character = false
  bounded : ∃ before after, text = before ++ run ++ after ∧
    (∀ last ∈ before.getLast?, separator last = true) ∧
    ∀ next ∈ after.head?, separator next = true

theorem runs_cons_separator {character : α} (separates : separator character = true)
    (rest : List α) : runs separator (character :: rest) = runs separator rest := by
  have cut := runs_append_separator separates [] rest
  rwa [List.nil_append, runs_nil, List.nil_append] at cut

/-- A text has a run unless it consists of separators. -/
theorem runs_eq_nil_iff {text : List α} :
    runs separator text = [] ↔ ∀ character ∈ text, separator character = true := by
  induction text with
  | nil => simp
  | cons character rest ih =>
      by_cases separates : separator character = true
      · rw [runs_cons_separator separates, ih, List.forall_mem_cons]
        exact (and_iff_right separates).symm
      · obtain ⟨first, others, cut⟩ := List.exists_cons_of_ne_nil (pieces_ne_nil separator rest)
        simp [runs, pieces, separates, cut]

/-- Texts with separators between them have the runs of both, wherever else they have separators. -/
theorem runs_append_separators {middle : List α} (nonempty : middle ≠ [])
    (all : ∀ character ∈ middle, separator character = true) (before after : List α) :
    runs separator (before ++ middle ++ after) = runs separator before ++ runs separator after := by
  induction middle generalizing before with
  | nil => exact absurd rfl nonempty
  | cons character rest ih =>
      have separates : separator character = true := all character List.mem_cons_self
      cases rest with
      | nil => rw [List.append_assoc, List.singleton_append, runs_append_separator separates]
      | cons next others =>
          have later := ih (List.cons_ne_nil _ _)
            (fun other member => all other (List.mem_cons_of_mem _ member)) (before ++ [character])
          have alone : runs separator (before ++ [character]) = runs separator before := by
            rw [runs_append_separator separates before [], runs_nil, List.append_nil]
          rw [alone] at later
          rw [← later]
          simp

theorem isRun_of_mem_runs {text run : List α} (listed : run ∈ runs separator text) :
    IsRun separator text run := by
  obtain ⟨nonempty, free⟩ := free_of_mem_runs listed
  -- The text is cut at its first separator; the run is what comes before it or a run of the rest.
  cases cut : text.find? separator with
  | none =>
      have solid : ∀ character ∈ text, separator character = false := by
        simpa using List.find?_eq_none.1 cut
      have given : text ≠ [] := by
        rintro rfl
        cases listed
      rw [runs_of_free given solid, List.mem_singleton] at listed
      exact ⟨nonempty, free, [], [], by simp [listed], by simp, by simp⟩
  | some mark =>
      obtain ⟨separates, front, rest, rfl, solid⟩ := List.find?_eq_some_iff_append.1 cut
      rw [runs_append_separator separates, List.mem_append] at listed
      rcases listed with here | later
      · have given : front ≠ [] := by
          rintro rfl
          cases here
        have alone := runs_of_free given fun character member => by
          simpa using solid character member
        rw [alone, List.mem_singleton] at here
        exact ⟨nonempty, free, [], mark :: rest, by simp [here], by simp, by simpa using separates⟩
      · obtain ⟨before, after, whole, opened, closed⟩ := (isRun_of_mem_runs later).bounded
        refine ⟨nonempty, free, front ++ mark :: before, after, by simp [whole], ?_, closed⟩
        rcases List.eq_nil_or_concat' before with rfl | ⟨others, last, rfl⟩
        · simpa using separates
        · have ends : (front ++ mark :: (others ++ [last])).getLast? = some last := by
            rw [← List.cons_append, ← List.append_assoc, List.getLast?_concat]
          rw [List.getLast?_concat] at opened
          rwa [ends]
termination_by text.length

theorem IsRun.mem_runs {text run : List α} (isRun : IsRun separator text run) :
    run ∈ runs separator text := by
  obtain ⟨before, after, rfl, opened, closed⟩ := isRun.bounded
  have alone := runs_of_free isRun.nonempty isRun.free
  have closing : runs separator (run ++ after) = [run] ++ runs separator after := by
    cases after with
    | nil => simp [alone]
    | cons next rest =>
        have separates : separator next = true := closed next rfl
        rw [runs_append_separator separates, alone, runs_cons_separator separates]
  rcases List.eq_nil_or_concat' before with rfl | ⟨rest, last, rfl⟩
  · simp [closing]
  · have separates : separator last = true := opened last (by simp)
    have opening := runs_append_separator separates rest (run ++ after)
    rw [closing] at opening
    simp [opening]

/-- Splitting a text at its separators finds just its runs. -/
theorem mem_runs_iff {text run : List α} : run ∈ runs separator text ↔ IsRun separator text run :=
  ⟨isRun_of_mem_runs, IsRun.mem_runs⟩

end PackageSearch.Text
