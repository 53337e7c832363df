import Mathlib
import PackageSearch.Text.LetterCase
import PackageSearch.Proofs.Text.CharacterSets

/-!
# The two ways of lowering a text

A text that is lowered as a whole differs from one that is lowered character by character at the
capital sigmas that end a word, and nowhere else: there the small letter is the final one.
-/

set_option autoImplicit false

namespace PackageSearch.Text

/-- A capital sigma of the text ends a word: a cased letter stands before it and none behind it,
where characters that have no part in case do not count. -/
def HasFinalSigma (text : List Char) : Prop :=
  ∃ before after, text = before ++ 'Σ' :: after ∧
    startsCased before.reverse = true ∧ startsCased after = false

/-- The small sigma, whatever its place. -/
def sigmaAnywhere (character : Char) : Char :=
  if character = 'ς' then 'σ' else character

theorem startsCased_cons {character : Char} {rest : List Char}
    (kept : caseIgnorable.contains character.toNat = false) :
    startsCased (character :: rest) = cased.contains character.toNat := by
  rw [startsCased, List.dropWhile_cons_of_neg (by simp [kept])]

/-- In the proofs below a literal is taken for the list of its characters before anything is
computed with it; decoding its bytes would take the kernel hundreds of times longer. -/
theorem lowerCharacter_sigma : lowerCharacter 'Σ' = ['σ'] := by
  have image : imageOf? lowercaseRuns 0x3a3 = some 0x3c3 := by
    simp only [lowercaseRuns, caseRuns, List.flatMap_cons, List.flatMap_nil]
    repeat rw [String.toList_ofList]
    decide +kernel
  have code : ('Σ' : Char).toNat = 0x3a3 := rfl
  rw [lowerCharacter, code, image]
  rfl

/-- A final sigma of a text that has `before`, given last first, in front of it. -/
def EndsWordAfter (before text : List Char) : Prop :=
  ∃ front after, text = front ++ 'Σ' :: after ∧
    startsCased (front.reverse ++ before) = true ∧ startsCased after = false

theorem endsWordAfter_cons (before rest : List Char) (character : Char) :
    EndsWordAfter before (character :: rest) ↔
      (character = 'Σ' ∧ startsCased before = true ∧ startsCased rest = false) ∨
        EndsWordAfter (character :: before) rest := by
  constructor
  · rintro ⟨front, after, cut, cased, uncased⟩
    cases front with
    | nil =>
        obtain ⟨rfl, rfl⟩ := List.cons.inj cut
        exact .inl ⟨rfl, cased, uncased⟩
    | cons first front =>
        obtain ⟨rfl, rfl⟩ := List.cons.inj cut
        exact .inr ⟨front, after, rfl, by simpa using cased, uncased⟩
  · rintro (⟨rfl, cased, uncased⟩ | ⟨front, after, rfl, cased, uncased⟩)
    · exact ⟨[], rest, rfl, cased, uncased⟩
    · exact ⟨character :: front, after, rfl, by simpa using cased, uncased⟩

theorem lowerAfter_eq_iff (before text : List Char) :
    lowerAfter before text = lowerEach text ↔ ¬ EndsWordAfter before text := by
  induction text generalizing before with
  | nil =>
      have nothing : ¬ EndsWordAfter before [] := by
        rintro ⟨front, after, cut, -⟩
        simp at cut
      simp [lowerAfter, lowerEach, nothing]
  | cons character rest ih =>
      rw [lowerAfter, lowerEach, List.flatMap_cons, ← lowerEach, endsWordAfter_cons, not_or, ← ih]
      by_cases sigma : character = 'Σ'
      · subst sigma
        rw [if_pos rfl, lowerCharacter_sigma]
        by_cases final : startsCased before = true ∧ startsCased rest = false
        · simp [final]
        · have plain : (startsCased before && ! startsCased rest) = false := by
            simpa using final
          simp [plain, final]
      · simp [sigma]

/-- Lowering a text as a whole is lowering its characters, unless it has a final sigma. -/
theorem lowerText_eq_lowerEach_iff (text : List Char) :
    lowerText text = lowerEach text ↔ ¬ HasFinalSigma text := by
  rw [lowerText, lowerAfter_eq_iff]
  simp only [EndsWordAfter, HasFinalSigma, List.append_nil]

/-- But for the two forms of the small sigma there is no difference. -/
theorem map_sigmaAnywhere_lowerText (text : List Char) :
    (lowerText text).map sigmaAnywhere = (lowerEach text).map sigmaAnywhere := by
  suffices alike : ∀ before,
      (lowerAfter before text).map sigmaAnywhere = (lowerEach text).map sigmaAnywhere from alike []
  induction text with
  | nil => exact fun before => rfl
  | cons character rest ih =>
      intro before
      rw [lowerAfter, lowerEach, List.flatMap_cons, ← lowerEach, List.map_append, List.map_append,
        ih]
      by_cases sigma : character = 'Σ'
      · rw [if_pos sigma, sigma, lowerCharacter_sigma]
        split <;> rfl
      · rw [if_neg sigma]

theorem lowerEach_infix {part text : List Char} (inside : part <:+: text) :
    lowerEach part <:+: lowerEach text := by
  obtain ⟨before, after, rfl⟩ := inside
  exact ⟨lowerEach before, lowerEach after, by simp [lowerEach]⟩

end PackageSearch.Text
