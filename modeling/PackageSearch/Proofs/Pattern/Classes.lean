import Mathlib
import PackageSearch.Proofs.Pattern.Places

/-!
# Classes of characters in patterns

A class holds of a character if one of its items does, a negated item of the others, and an operation
on two classes is that on their answers. Where letter case counts, the codes that are read for a
class are those of which it holds, so it occurs in the texts that have such a character.
-/

set_option autoImplicit false

namespace PackageSearch.Pattern

open Text (CharacterSet covers)

def SetOperation.holds : SetOperation → Bool → Bool → Bool
  | .intersection, left, right => left && right
  | .difference, left, right => left && ! right
  | .symmetricDifference, left, right => left != right

mutual

/-- Whether an item of a class holds of a code. A property without a set holds of none. -/
def ClassItem.holds (unicode : Bool) (code : Nat) : ClassItem → Bool
  | .range first last => first.value.toNat ≤ code && code ≤ last.value.toNat
  | .named negated ranges => negated != covers ranges code
  | .property negated name value =>
      (propertyCodes? name value).any fun set => negated != set.contains code
  | .short negated kind => negated != (kind.codes unicode).contains code
  | .nested negated set => negated != set.holds unicode code

def ClassSet.holds (unicode : Bool) (code : Nat) : ClassSet → Bool
  | .items items => anyHolds unicode code items
  | .joined operation left right =>
      operation.holds (left.holds unicode code) (right.holds unicode code)

def anyHolds (unicode : Bool) (code : Nat) : List ClassItem → Bool
  | [] => false
  | item :: rest => item.holds unicode code || anyHolds unicode code rest

end

variable {settings : Settings} {code : Nat}

theorem Settings.foldCase_of_caseSensitive (caseSensitive : settings.ignoreCase = false)
    (set : CharacterSet) : settings.foldCase set = set := by
  simp [foldCase, caseSensitive]

theorem Settings.classCode_eq {letter : Letter} (found : settings.classCode? letter = some code) :
    code = letter.value.toNat := by
  rw [classCode?] at found
  split at found
  · cases found
  · exact (Option.some.inj found).symm

theorem SetOperation.contains_apply (within : code ≤ CharacterSet.lastCode)
    (operation : SetOperation) (left right : CharacterSet) :
    (operation.apply left right).contains code =
      operation.holds (left.contains code) (right.contains code) := by
  cases operation with
  | intersection => exact CharacterSet.contains_intersection within left right
  | difference => exact CharacterSet.contains_difference within left right
  | symmetricDifference => exact CharacterSet.contains_symmetricDifference within left right

theorem Settings.contains_finish (caseSensitive : settings.ignoreCase = false)
    (within : code ≤ CharacterSet.lastCode) {negated : Bool} {set codes : CharacterSet}
    (finished : settings.finish? negated set = some codes) :
    codes.contains code = (negated != set.contains code) := by
  rw [finish?, foldCase_of_caseSensitive caseSensitive] at finished
  cases negated with
  | false => simp_all
  | true =>
      simp only [Bool.not_true, Bool.false_eq_true, if_false] at finished
      split at finished
      · cases finished
        rw [CharacterSet.contains_complement within, Bool.true_bne]
      · cases finished

mutual

theorem contains_itemCodes (caseSensitive : settings.ignoreCase = false)
    (within : code ≤ CharacterSet.lastCode) :
    ∀ (item : ClassItem) {codes : CharacterSet}, itemCodes? settings item = some codes →
      codes.contains code = item.holds settings.unicode code
  | .range first last, codes, read => by
      rw [itemCodes?] at read
      obtain ⟨start, foundFirst, others⟩ := Option.bind_eq_some_iff.1 read
      obtain ⟨finish, foundLast, listed⟩ := Option.bind_eq_some_iff.1 others
      cases listed
      rw [CharacterSet.contains_ofRanges, settings.classCode_eq foundFirst,
        settings.classCode_eq foundLast, ClassItem.holds, covers, List.any_cons, List.any_nil,
        Bool.or_false]
  | .named negated ranges, codes, read => by
      rw [itemCodes?] at read
      rw [settings.contains_finish caseSensitive within read, CharacterSet.contains_ofRanges,
        ClassItem.holds]
  | .property negated name value, codes, read => by
      rw [itemCodes?] at read
      split at read
      · cases read
      · obtain ⟨set, found, finished⟩ := Option.bind_eq_some_iff.1 read
        rw [settings.contains_finish caseSensitive within finished, ClassItem.holds, found,
          Option.any_some]
  | .short negated kind, codes, read => by
      rw [itemCodes?] at read
      cases negated with
      | false =>
          cases read
          rw [ClassItem.holds, Bool.false_bne]
      | true =>
          simp only [Bool.not_true, Bool.false_eq_true, if_false] at read
          split at read
          · cases read
            rw [CharacterSet.contains_complement within, ClassItem.holds, Bool.true_bne]
          · cases read
  | .nested negated set, codes, read => by
      rw [itemCodes?] at read
      obtain ⟨inner, found, finished⟩ := Option.bind_eq_some_iff.1 read
      rw [settings.contains_finish caseSensitive within finished,
        contains_setCodes caseSensitive within set found, ClassItem.holds]

theorem contains_setCodes (caseSensitive : settings.ignoreCase = false)
    (within : code ≤ CharacterSet.lastCode) :
    ∀ (set : ClassSet) {codes : CharacterSet}, setCodes? settings set = some codes →
      codes.contains code = set.holds settings.unicode code
  | .items items, codes, read => by
      rw [setCodes?] at read
      obtain ⟨sets, found, united⟩ := Option.bind_eq_some_iff.1 read
      cases united
      rw [CharacterSet.contains_unionAll, any_itemsCodes caseSensitive within items found,
        ClassSet.holds]
  | .joined operation left right, codes, read => by
      rw [setCodes?] at read
      obtain ⟨first, foundLeft, others⟩ := Option.bind_eq_some_iff.1 read
      obtain ⟨second, foundRight, applied⟩ := Option.bind_eq_some_iff.1 others
      cases applied
      rw [operation.contains_apply within, settings.foldCase_of_caseSensitive caseSensitive,
        settings.foldCase_of_caseSensitive caseSensitive,
        contains_setCodes caseSensitive within left foundLeft,
        contains_setCodes caseSensitive within right foundRight, ClassSet.holds]

theorem any_itemsCodes (caseSensitive : settings.ignoreCase = false)
    (within : code ≤ CharacterSet.lastCode) :
    ∀ (items : List ClassItem) {sets : List CharacterSet},
      itemsCodes? settings items = some sets →
      (sets.any fun set => set.contains code) = anyHolds settings.unicode code items
  | [], sets, read => by
      cases read
      rfl
  | item :: rest, sets, read => by
      rw [itemsCodes?] at read
      obtain ⟨first, found, others⟩ := Option.bind_eq_some_iff.1 read
      obtain ⟨behind, foundRest, listed⟩ := Option.bind_eq_some_iff.1 others
      cases listed
      rw [List.any_cons, contains_itemCodes caseSensitive within item found,
        any_itemsCodes caseSensitive within rest foundRest, anyHolds]

end

theorem toNat_le_lastCode (character : Char) : character.toNat ≤ CharacterSet.lastCode := by
  have valid : character.toNat.isValidChar := character.valid
  rw [Nat.isValidChar] at valid
  rw [CharacterSet.lastCode]
  omega

/-- A class occurs in the texts that have a character of which the class holds. -/
theorem occursIn_class (caseSensitive : settings.ignoreCase = false) {item : ClassItem}
    {pattern : Pattern} {after : Settings}
    (read : patternOf? settings (.oneOf item) = some (pattern, after)) {text : List Char} :
    pattern.occursIn text = true ↔
      ∃ character ∈ text, item.holds settings.unicode character.toNat = true := by
  rw [patternOf?] at read
  obtain ⟨codes, found, paired⟩ := Option.bind_eq_some_iff.1 read
  cases paired
  simp only [occursIn_oneOf,
    contains_itemCodes caseSensitive (toNat_le_lastCode _) item found]

end PackageSearch.Pattern
