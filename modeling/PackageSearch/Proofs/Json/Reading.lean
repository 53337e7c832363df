import Mathlib
import PackageSearch.Proofs.Json.Written

/-!
# Trees that were read

Every number in the tree of a text is an integer of 64 bits or a finite double, since it comes from
the text of a number.
-/

set_option autoImplicit false

namespace PackageSearch.Json

/-- Every number that can be read in a tree has a property. -/
inductive Node.AllNumbers (property : Number → Prop) : Node → Prop where
  | null : AllNumbers property .null
  | boolean (value : Bool) : AllNumbers property (.boolean value)
  | number {value : Except Fault Number} (holds : ∀ found, value = .ok found → property found) :
      AllNumbers property (.number value)
  | text (value : Except Fault String) : AllNumbers property (.text value)
  | list {items : List Node} (ending : Option Break)
      (all : ∀ item ∈ items, AllNumbers property item) : AllNumbers property (.list items ending)
  | record {members : List (Except Fault String × Node)} (ending : Option Break)
      (all : ∀ member ∈ members, AllNumbers property member.2) :
      AllNumbers property (.record members ending)
  | broken (place : Break) : AllNumbers property (.broken place)

/-- A tree whose numbers fit their types. -/
abbrev Node.InRange (node : Node) : Prop := node.AllNumbers Number.InRange

theorem readWord_inRange {word text : Bytes} {value : Node} (inRange : value.InRange) :
    (readWord word value text).1.InRange := by
  unfold readWord
  split
  · exact inRange
  · exact .broken _

/-- One step of the three readers, when the shorter ones give trees whose numbers fit. -/
theorem readNode_step {fuel : Nat}
    (items : ∀ first text, ∀ item ∈ (readItems fuel first text).1, item.InRange)
    (members : ∀ first text, ∀ member ∈ (readMembers fuel first text).1, member.2.InRange)
    (text : Bytes) : (readNode (fuel + 1) text).1.InRange := by
  rw [readNode]
  split
  · exact .broken _
  split
  · exact readWord_inRange .null
  split
  · exact readWord_inRange (.boolean true)
  split
  · exact readWord_inRange (.boolean false)
  split
  · split
    · exact .number fun found valued => Numeral.value_inRange valued
    · exact .broken _
  split
  · split
    · exact .text _
    · exact .broken _
  split
  · exact .list _ (items true _)
  split
  · exact .record _ (members true _)
  · exact .broken _

theorem readItems_step {fuel : Nat} (node : ∀ text, (readNode fuel text).1.InRange)
    (items : ∀ first text, ∀ item ∈ (readItems fuel first text).1, item.InRange)
    (first : Bool) (text : Bytes) :
    ∀ item ∈ (readItems (fuel + 1) first text).1, item.InRange := by
  intro item member
  rw [readItems] at member
  split at member
  · cases member
  split at member
  · cases member
  split at member
  · simp only at member
    split at member
    · cases List.mem_singleton.mp member
      exact node _
    · rcases List.mem_cons.mp member with same | later
      · rw [same]
        exact node _
      · exact items _ _ item later
  · cases member

theorem readMembers_step {fuel : Nat} (node : ∀ text, (readNode fuel text).1.InRange)
    (members : ∀ first text, ∀ member ∈ (readMembers fuel first text).1, member.2.InRange)
    (first : Bool) (text : Bytes) :
    ∀ member ∈ (readMembers (fuel + 1) first text).1, member.2.InRange := by
  intro entry member
  rw [readMembers] at member
  split at member
  · cases member
  split at member
  · cases member
  split at member
  · split at member
    · cases member
    · split at member
      · cases member
      · split at member
        · simp only at member
          split at member
          · cases List.mem_singleton.mp member
            exact node _
          · rcases List.mem_cons.mp member with same | later
            · rw [same]
              exact node _
            · exact members _ _ entry later
        · cases List.mem_singleton.mp member
          exact .broken _
        · cases List.mem_singleton.mp member
          exact .broken _
    · cases member
  · cases member

theorem readNode_inRange (fuel : Nat) (text : Bytes) : (readNode fuel text).1.InRange := by
  have all : (∀ text, (readNode fuel text).1.InRange) ∧
      (∀ first text, ∀ item ∈ (readItems fuel first text).1, item.InRange) ∧
      ∀ first text, ∀ member ∈ (readMembers fuel first text).1, member.2.InRange := by
    induction fuel with
    | zero =>
        refine ⟨fun text => .broken _, fun first text item member => ?_,
          fun first text entry member => ?_⟩
        · cases member
        · cases member
    | succ fuel ih =>
        obtain ⟨node, items, members⟩ := ih
        exact ⟨readNode_step items members, readItems_step node items,
          readMembers_step node members⟩
  exact all.1 text

theorem Document.inRange (text : Bytes) : (Document.ofBytes text).root.InRange :=
  readNode_inRange (2 * text.length + 2) text

end PackageSearch.Json
