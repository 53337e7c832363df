import Mathlib
import PackageSearch.Pattern.Meaning
import PackageSearch.Proofs.Text.CharacterSets

/-!
# Places in a text

A text has one more place than characters. A set of characters leads from a place to the next one,
over a character of the set, so it occurs in a text that has such a character.
-/

set_option autoImplicit false

namespace PackageSearch.Pattern

open Text (CharacterSet)

theorem length_places (before : Option Char) (text : List Char) :
    (places before text).length = text.length + 1 := by
  induction text generalizing before with
  | nil => rfl
  | cons character rest ih => rw [places, List.length_cons, ih, List.length_cons]

theorem getElem?_places (before : Option Char) (text : List Char) (index : Nat) :
    (places before text)[index]?.bind Neighbours.after = text[index]? := by
  induction text generalizing before index with
  | nil => cases index <;> rfl
  | cons character rest ih =>
      cases index with
      | zero => rfl
      | succ index => exact ih (some character) index

theorem any_marks_iff {marks : Marks} :
    marks.any id = true ↔ ∃ index : Nat, marks[index]? = some true := by
  rw [List.any_eq_true, ← List.mem_iff_getElem?]
  simp

section

variable {before : Option Char} {text : List Char} {starts : Marks}

theorem length_zipWith_places (length : starts.length = text.length + 1)
    (step : Neighbours → Bool → Bool) :
    (List.zipWith step (places before text) starts).length = text.length + 1 := by
  rw [List.length_zipWith, length_places, length, Nat.min_self]

theorem length_ends_oneOf (length : starts.length = text.length + 1) (set : CharacterSet) :
    (ends (places before text) (.oneOf set) starts).length = text.length + 1 := by
  rw [ends, List.length_cons, List.length_dropLast, length_zipWith_places length,
    Nat.add_sub_cancel]

theorem getElem?_ends_oneOf_succ (length : starts.length = text.length + 1) (set : CharacterSet)
    (earlier : Nat) :
    (ends (places before text) (.oneOf set) starts)[earlier + 1]? = some true ↔
      starts[earlier]? = some true ∧
        ∃ character, text[earlier]? = some character ∧ set.contains character.toNat = true := by
  rw [ends, List.getElem?_cons_succ, List.getElem?_dropLast, length_zipWith_places length,
    Nat.add_sub_cancel]
  by_cases inside : earlier < text.length
  · have near := getElem?_places before text earlier
    obtain ⟨place, found⟩ : ∃ place, (places before text)[earlier]? = some place :=
      ⟨_, List.getElem?_eq_getElem (by rw [length_places]; omega)⟩
    obtain ⟨start, begun⟩ : ∃ start, starts[earlier]? = some start :=
      ⟨_, List.getElem?_eq_getElem (by omega)⟩
    rw [found, Option.bind_some] at near
    rw [if_pos inside, List.getElem?_zipWith, found, begun, ← near]
    simp [Option.any_eq_true]
  · rw [if_neg inside, List.getElem?_eq_none (Nat.not_lt.mp inside)]
    simp

theorem getElem?_ends_oneOf (length : starts.length = text.length + 1) (set : CharacterSet)
    (index : Nat) :
    (ends (places before text) (.oneOf set) starts)[index]? = some true ↔
      ∃ earlier, index = earlier + 1 ∧ starts[earlier]? = some true ∧
        ∃ character, text[earlier]? = some character ∧ set.contains character.toNat = true := by
  cases index with
  | zero => simp [ends]
  | succ earlier => simp [getElem?_ends_oneOf_succ length]

end

theorem length_starts (text : List Char) :
    ((places none text).map fun _ => true).length = text.length + 1 := by
  rw [List.length_map, length_places]

/-- A search may start at every place of the text. -/
theorem getElem?_starts {text : List Char} {index : Nat} (inside : index ≤ text.length) :
    ((places none text).map fun _ => true)[index]? = some true := by
  rw [List.getElem?_map, List.getElem?_eq_getElem (by rw [length_places]; omega), Option.map_some]

theorem occursIn_oneOf {set : CharacterSet} {text : List Char} :
    (Pattern.oneOf set).occursIn text = true ↔
      ∃ character ∈ text, set.contains character.toNat = true := by
  rw [occursIn, any_marks_iff]
  simp only [getElem?_ends_oneOf (length_starts text)]
  constructor
  · rintro ⟨_, earlier, rfl, -, character, found, inside⟩
    exact ⟨character, List.mem_of_getElem? found, inside⟩
  · rintro ⟨character, listed, inside⟩
    obtain ⟨earlier, found⟩ := List.mem_iff_getElem?.1 listed
    have within : earlier < text.length := (List.getElem?_eq_some_iff.1 found).1
    exact ⟨_, earlier, rfl, getElem?_starts within.le, character, found, inside⟩

end PackageSearch.Pattern
