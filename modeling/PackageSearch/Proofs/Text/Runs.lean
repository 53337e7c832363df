import Mathlib
import PackageSearch.Text.Blank

/-!
# Runs between separators

The runs of a text are its longest nonempty parts without separators. All that is needed of them
follows from one equation: a text that is cut at a separator has the runs of both sides.
-/

set_option autoImplicit false

namespace PackageSearch.Text

variable {α : Type} {separator : α → Bool}

theorem pieces_ne_nil (separator : α → Bool) (text : List α) : pieces separator text ≠ [] := by
  cases text with
  | nil => simp [pieces]
  | cons character rest =>
      rw [pieces]
      split
      · simp
      · split <;> simp

theorem pieces_append_separator {character : α} (separates : separator character = true)
    (before after : List α) :
    pieces separator (before ++ character :: after) =
      pieces separator before ++ pieces separator after := by
  induction before with
  | nil => simp [pieces, separates]
  | cons first rest ih =>
      rw [List.cons_append, pieces, ih, pieces]
      by_cases between : separator first = true
      · simp [between]
      · obtain ⟨piece, others, cut⟩ := List.exists_cons_of_ne_nil (pieces_ne_nil separator rest)
        simp [between, cut]

theorem runs_append_separator {character : α} (separates : separator character = true)
    (before after : List α) :
    runs separator (before ++ character :: after) =
      runs separator before ++ runs separator after := by
  rw [runs, pieces_append_separator separates, List.filter_append]
  rfl

theorem pieces_of_free {text : List α} (free : ∀ character ∈ text, separator character = false) :
    pieces separator text = [text] := by
  induction text with
  | nil => rfl
  | cons character rest ih =>
      have settled : separator character = false := free character List.mem_cons_self
      have others := ih fun other listed => free other (List.mem_cons_of_mem _ listed)
      simp [pieces, settled, others]

@[simp] theorem runs_nil : runs separator [] = [] := rfl

/-- A nonempty text without separators is its own only run. -/
theorem runs_of_free {text : List α} (nonempty : text ≠ [])
    (free : ∀ character ∈ text, separator character = false) : runs separator text = [text] := by
  rw [runs, pieces_of_free free]
  simp [nonempty]

/-- Every piece stands between separators or ends of the text. -/
theorem free_of_mem_pieces {text piece : List α} (cut : piece ∈ pieces separator text) :
    ∀ character ∈ piece, separator character = false := by
  induction text generalizing piece with
  | nil =>
      rw [pieces, List.mem_singleton] at cut
      simp [cut]
  | cons first rest ih =>
      rw [pieces] at cut
      by_cases between : separator first = true
      · rw [if_pos between, List.mem_cons] at cut
        rcases cut with rfl | cut
        · simp
        · exact ih cut
      · obtain ⟨start, others, parts⟩ := List.exists_cons_of_ne_nil (pieces_ne_nil separator rest)
        rw [if_neg between, parts, List.mem_cons] at cut
        rcases cut with rfl | cut
        · intro character listed
          rcases List.mem_cons.mp listed with rfl | listed
          · simpa using between
          · exact ih (by simp [parts]) character listed
        · exact ih (by simp [parts, cut])

theorem free_of_mem_runs {text run : List α} (listed : run ∈ runs separator text) :
    run ≠ [] ∧ ∀ character ∈ run, separator character = false := by
  obtain ⟨cut, nonempty⟩ := List.mem_filter.mp listed
  exact ⟨by simpa using nonempty, free_of_mem_pieces cut⟩

/-- The runs of texts that are joined by a separator are the runs of the texts. -/
theorem runs_intercalate {character : α} (separates : separator character = true)
    (texts : List (List α)) :
    runs separator ([character].intercalate texts) = texts.flatMap (runs separator) := by
  induction texts with
  | nil => rfl
  | cons text rest ih =>
      cases rest with
      | nil => simp
      | cons next others =>
          rw [List.intercalate_cons_cons, List.append_assoc, List.singleton_append,
            runs_append_separator separates, ih]
          rfl

end PackageSearch.Text
