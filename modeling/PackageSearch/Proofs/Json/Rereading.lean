import Mathlib
import PackageSearch.Proofs.Json.Reading
import PackageSearch.Package.Person

/-!
# Reading again what was read and written

What a decoder reads from any tree it reads again from what is written for it. `Rereads` says so of
one decoder and its writer, as long as some levels may still be nested, since more may be written
than was read: fields that were not given have a value that is written. It holds of texts, numbers
and whole values, and passes from the items to lists and dictionaries.
-/

set_option autoImplicit false

namespace PackageSearch.Json

/-- A decoder gives a value for some tree whose numbers fit their types. -/
def Reads {α : Type} (decoder : Decoder α) (levels : Nat) (content : α) : Prop :=
  ∃ node : Node, node.InRange ∧ decoder levels node = .ok content

/-- What a decoder reads, it reads again from what is written for it. -/
structure Rereads {α : Type} (need : Nat) (decoder : Decoder α) (write : α → Value) : Prop where
  reread : ∀ {levels content}, need ≤ levels → Reads decoder levels content →
    decoder levels (write content).tree = .ok content
  inRange : ∀ {levels content}, need ≤ levels → Reads decoder levels content →
    (write content).AllNumbers Number.InRange

/-! ## Texts and numbers -/

theorem rereads_text : Rereads 0 Decoder.text Value.text where
  reread _ _ := rfl
  inRange _ _ := .text _

theorem rereads_boolean : Rereads 0 Decoder.boolean Value.boolean where
  reread _ _ := rfl
  inRange _ _ := .boolean _

theorem rereads_real : Rereads 0 Decoder.real fun real => .number (.real real) where
  reread _ _ := rfl
  inRange := by
    rintro levels content - ⟨node, inRange, result⟩
    cases node with
    | number value =>
        obtain ⟨number, valued, rfl⟩ := map_eq_ok.mp result
        cases inRange with
        | number holds =>
            have finite := (holds number valued).toReal
            exact .number finite
    | _ => cases result

theorem rereads_natural : Rereads 0 Decoder.natural fun number => .number (.integer number) := by
  have bounded {levels content : Nat} (reads : Reads Decoder.natural levels content) :
      content < 2 ^ 64 := by
    obtain ⟨node, inRange, result⟩ := reads
    cases node with
    | number value =>
        obtain ⟨number, valued, result⟩ := bind_eq_ok.mp result
        cases inRange with
        | number holds =>
            have fits := holds number valued
            cases number with
            | integer value =>
                simp only at result
                split at result
                · cases result
                · cases result
                  obtain ⟨low, high⟩ := fits
                  omega
            | real value => cases result
    | _ => cases result
  constructor
  · intro levels content _ _
    have notNegative : ¬ (content : Int) < 0 := by omega
    simp [Value.tree, Decoder.natural, bind, Except.bind, notNegative]
  · intro levels content _ reads
    have small := bounded reads
    exact .number ⟨by omega, by omega⟩

/-! ## Lists and dictionaries -/

section Sequences

variable {ε α β : Type}

theorem mem_of_mapM {read : α → Except ε β} {items : List α} {values : List β}
    (result : items.mapM read = .ok values) {value : β} (member : value ∈ values) :
    ∃ item ∈ items, read item = .ok value := by
  induction items generalizing values with
  | nil =>
      cases result
      cases member
  | cons item rest ih =>
      rw [List.mapM_cons] at result
      obtain ⟨first, firstRead, result⟩ := bind_eq_ok.mp result
      obtain ⟨others, othersRead, result⟩ := bind_eq_ok.mp result
      cases result
      rcases List.mem_cons.mp member with rfl | later
      · exact ⟨item, List.mem_cons_self, firstRead⟩
      · obtain ⟨found, held, read⟩ := ih othersRead later
        exact ⟨found, List.mem_cons_of_mem _ held, read⟩

theorem mapM_map_eq_ok {read : α → Except ε β} {write : β → α} {values : List β}
    (all : ∀ value ∈ values, read (write value) = .ok value) :
    (values.map write).mapM read = .ok values := by
  induction values with
  | nil => rfl
  | cons value rest ih =>
      rw [List.map_cons, List.mapM_cons, all value List.mem_cons_self,
        ih fun other member => all other (List.mem_cons_of_mem _ member)]
      rfl

theorem mapM_of_imp {first second : α → Except ε β} {items : List α} {values : List β}
    (result : items.mapM first = .ok values)
    (implies : ∀ item ∈ items, ∀ value, first item = .ok value → second item = .ok value) :
    items.mapM second = .ok values := by
  induction items generalizing values with
  | nil => exact result
  | cons item rest ih =>
      rw [List.mapM_cons] at result ⊢
      obtain ⟨value, read, result⟩ := bind_eq_ok.mp result
      obtain ⟨others, othersRead, result⟩ := bind_eq_ok.mp result
      refine bind_eq_ok.mpr ⟨value, implies item List.mem_cons_self value read,
        bind_eq_ok.mpr ⟨others, ih othersRead fun other member => ?_, result⟩⟩
      exact implies other (List.mem_cons_of_mem _ member)

end Sequences

section Collections

variable {α : Type} {need : Nat} {decoder : Decoder α} {write : α → Value}

theorem Rereads.list (item : Rereads need decoder write) :
    Rereads (need + 1) (Decoder.list decoder) fun contents => .list (contents.map write) := by
  have parts {levels : Nat} {contents : List α}
      (reads : Reads (Decoder.list decoder) levels contents) :
      ∃ inner, levels = inner + 1 ∧ ∀ content ∈ contents, Reads decoder inner content := by
    obtain ⟨node, inRange, result⟩ := reads
    cases node with
    | list items ending =>
        cases levels with
        | zero => cases result
        | succ inner =>
            obtain ⟨values, read, last⟩ := bind_eq_ok.mp result
            obtain ⟨-, -, last⟩ := bind_eq_ok.mp last
            cases last
            refine ⟨inner, rfl, fun content member => ?_⟩
            obtain ⟨item, held, itemRead⟩ := mem_of_mapM read member
            cases inRange with
            | list _ all => exact ⟨item, all item held, itemRead⟩
    | number value => cases result
    | text value => cases result
    | _ => cases result
  constructor
  · intro levels contents enough reads
    obtain ⟨inner, rfl, items⟩ := parts reads
    have again : (treesOf (contents.map write)).mapM (decoder inner) = .ok contents := by
      rw [treesOf_eq_map, List.map_map]
      exact mapM_map_eq_ok fun content member =>
        item.reread (Nat.le_of_succ_le_succ enough) (items content member)
    exact bind_eq_ok.mpr ⟨contents, again, rfl⟩
  · intro levels contents enough reads
    obtain ⟨inner, rfl, items⟩ := parts reads
    refine .list fun value member => ?_
    obtain ⟨content, held, rfl⟩ := List.mem_map.mp member
    exact item.inRange (Nat.le_of_succ_le_succ enough) (items content held)

theorem Rereads.dictionary (item : Rereads need decoder write) :
    Rereads (need + 1) (Decoder.dictionary decoder) fun contents =>
      .record (contents.map write).entries := by
  have parts {levels : Nat} {contents : Dictionary α}
      (reads : Reads (Decoder.dictionary decoder) levels contents) :
      ∃ inner, levels = inner + 1 ∧ ∀ entry ∈ contents.entries, Reads decoder inner entry.2 := by
    obtain ⟨node, inRange, result⟩ := reads
    cases node with
    | record members ending =>
        cases levels with
        | zero => cases result
        | succ inner =>
            obtain ⟨entries, read, last⟩ := bind_eq_ok.mp result
            obtain ⟨-, -, last⟩ := bind_eq_ok.mp last
            cases last
            refine ⟨inner, rfl, fun entry member => ?_⟩
            obtain ⟨⟨key, node⟩, held, entryRead⟩ := mem_of_mapM read (Dictionary.mem_ofList member)
            obtain ⟨name, -, rest⟩ := bind_eq_ok.mp entryRead
            obtain ⟨value, valueRead, same⟩ := bind_eq_ok.mp rest
            cases same
            cases inRange with
            | record _ all => exact ⟨node, all (key, node) held, valueRead⟩
    | number value => cases result
    | text value => cases result
    | _ => cases result
  constructor
  · intro levels contents enough reads
    obtain ⟨inner, rfl, entries⟩ := parts reads
    have again : (memberTrees (contents.map write).entries).mapM (fun member => do
        let key ← member.1
        let value ← decoder inner member.2
        .ok (key, value)) = .ok contents.entries := by
      rw [memberTrees_eq_map, Dictionary.map, List.map_map]
      refine mapM_map_eq_ok fun entry member => ?_
      have value := item.reread (Nat.le_of_succ_le_succ enough) (entries entry member)
      simp only [Function.comp_apply, value]
      rfl
    exact bind_eq_ok.mpr ⟨contents.entries, again, by
      rw [Dictionary.ofList_entries]
      rfl⟩
  · intro levels contents enough reads
    obtain ⟨inner, rfl, entries⟩ := parts reads
    refine .record fun written member => ?_
    obtain ⟨entry, held, rfl⟩ := List.mem_map.mp member
    exact item.inRange (Nat.le_of_succ_le_succ enough) (entries entry held)

end Collections

/-! ## Whole values -/

theorem itemValues_eq_mapM (levels : Nat) (items : List Node) :
    itemValues levels items = items.mapM (Node.value levels) := by
  induction items with
  | nil => rfl
  | cons item rest ih =>
      rw [itemValues, ih, List.mapM_cons]
      rfl

/-- The key and the value of a member, both read. -/
def memberValue (levels : Nat) (member : Except Fault String × Node) :
    Except Fault (String × Value) := do
  let key ← member.1
  let value ← member.2.value levels
  .ok (key, value)

theorem memberValues_eq_mapM (levels : Nat) (members : List (Except Fault String × Node)) :
    memberValues levels members = members.mapM (memberValue levels) := by
  induction members with
  | nil => rfl
  | cons member rest ih =>
      obtain ⟨key, node⟩ := member
      rw [memberValues, ih, List.mapM_cons]
      cases key with
      | error fault => rfl
      | ok key =>
          cases value : node.value levels with
          | error fault => simp [memberValue, bind, Except.bind, value]
          | ok value => simp [memberValue, bind, Except.bind, value, pure, Except.pure]

/-- The value of a tree is read again from its own tree, and its numbers fit. -/
def ReadAgain (levels : Nat) (value : Value) : Prop :=
  value.tree.value levels = .ok value ∧ value.AllNumbers Number.InRange

theorem itemValues_again {levels : Nat} {items : List Node} {values : List Value}
    (all : ∀ item ∈ items, ∀ value, item.value levels = .ok value → ReadAgain levels value)
    (read : itemValues levels items = .ok values) :
    itemValues levels (treesOf values) = .ok values ∧
      ∀ value ∈ values, value.AllNumbers Number.InRange := by
  rw [itemValues_eq_mapM] at read
  have again : ∀ value ∈ values, ReadAgain levels value := by
    intro value member
    obtain ⟨item, held, itemRead⟩ := mem_of_mapM read member
    exact all item held value itemRead
  refine ⟨?_, fun value member => (again value member).2⟩
  rw [itemValues_eq_mapM, treesOf_eq_map]
  exact mapM_map_eq_ok fun value member => (again value member).1

theorem memberValues_again {levels : Nat} {members : List (Except Fault String × Node)}
    {values : List (String × Value)}
    (all : ∀ member ∈ members, ∀ value, member.2.value levels = .ok value →
      ReadAgain levels value)
    (read : memberValues levels members = .ok values) :
    memberValues levels (memberTrees (Dictionary.ofList values).entries) =
        .ok (Dictionary.ofList values).entries ∧
      ∀ entry ∈ (Dictionary.ofList values).entries, entry.2.AllNumbers Number.InRange := by
  rw [memberValues_eq_mapM] at read
  have again : ∀ entry ∈ (Dictionary.ofList values).entries, ReadAgain levels entry.2 := by
    intro entry member
    obtain ⟨⟨key, node⟩, held, entryRead⟩ := mem_of_mapM read (Dictionary.mem_ofList member)
    obtain ⟨name, -, rest⟩ := bind_eq_ok.mp entryRead
    obtain ⟨value, valueRead, same⟩ := bind_eq_ok.mp rest
    cases same
    exact all (key, node) held _ valueRead
  refine ⟨?_, fun entry member => (again entry member).2⟩
  rw [memberValues_eq_mapM, memberTrees_eq_map]
  refine mapM_map_eq_ok fun entry member => ?_
  simp only [memberValue, (again entry member).1]
  rfl

theorem value_reread {node : Node} (inRange : node.InRange) {levels : Nat} {value : Value}
    (result : node.value levels = .ok value) : ReadAgain levels value := by
  -- Trees have lists of trees inside; the derivation has a hypothesis for each of their members.
  induction inRange generalizing levels value with
  | null =>
      cases result
      exact ⟨rfl, .null⟩
  | boolean value =>
      cases result
      exact ⟨rfl, .boolean _⟩
  | number holds =>
      obtain ⟨number, valued, rfl⟩ := map_eq_ok.mp result
      exact ⟨rfl, .number (holds number valued)⟩
  | text value =>
      obtain ⟨text, valued, rfl⟩ := map_eq_ok.mp result
      exact ⟨rfl, .text _⟩
  | broken place => cases result
  | list ending all ih =>
      cases levels with
      | zero => cases result
      | succ levels =>
          obtain ⟨values, read, last⟩ := bind_eq_ok.mp result
          obtain ⟨-, -, last⟩ := bind_eq_ok.mp last
          cases last
          obtain ⟨again, fits⟩ := itemValues_again (fun item held _ => ih item held) read
          exact ⟨bind_eq_ok.mpr ⟨values, again, rfl⟩, .list fits⟩
  | record ending all ih =>
      cases levels with
      | zero => cases result
      | succ levels =>
          obtain ⟨values, read, last⟩ := bind_eq_ok.mp result
          obtain ⟨-, -, last⟩ := bind_eq_ok.mp last
          cases last
          obtain ⟨again, fits⟩ := memberValues_again (fun member held _ => ih member held) read
          refine ⟨bind_eq_ok.mpr ⟨_, again, ?_⟩, .record fits⟩
          rw [Dictionary.ofList_entries]
          rfl

/-- A value that is read is the same where more levels may be nested. -/
theorem value_of_le {node : Node} (inRange : node.InRange) {levels more : Nat} {value : Value}
    (result : node.value levels = .ok value) (enough : levels ≤ more) :
    node.value more = .ok value := by
  induction inRange generalizing levels more value with
  | list ending all ih =>
      cases levels with
      | zero => cases result
      | succ levels =>
          obtain ⟨further, rfl⟩ := Nat.exists_eq_add_of_le' (Nat.zero_lt_of_lt enough)
          obtain ⟨values, read, last⟩ := bind_eq_ok.mp result
          rw [itemValues_eq_mapM] at read
          refine bind_eq_ok.mpr ⟨values, ?_, last⟩
          rw [itemValues_eq_mapM]
          exact mapM_of_imp read fun item member value read =>
            ih item member read (Nat.le_of_succ_le_succ enough)
  | record ending all ih =>
      cases levels with
      | zero => cases result
      | succ levels =>
          obtain ⟨further, rfl⟩ := Nat.exists_eq_add_of_le' (Nat.zero_lt_of_lt enough)
          obtain ⟨values, read, last⟩ := bind_eq_ok.mp result
          rw [memberValues_eq_mapM] at read
          refine bind_eq_ok.mpr ⟨values, ?_, last⟩
          rw [memberValues_eq_mapM]
          refine mapM_of_imp read fun member held entry read => ?_
          obtain ⟨key, named, read⟩ := bind_eq_ok.mp read
          obtain ⟨value, valueRead, same⟩ := bind_eq_ok.mp read
          exact bind_eq_ok.mpr ⟨key, named, bind_eq_ok.mpr
            ⟨value, ih member held valueRead (Nat.le_of_succ_le_succ enough), same⟩⟩
  | _ => exact result

/-- The members of a record that was read stand in the order of their keys. -/
theorem value_entries {node : Node} {levels : Nat} {members : List (String × Value)}
    (result : node.value levels = .ok (.record members)) :
    ∃ dictionary : Dictionary Value, members = dictionary.entries := by
  cases node with
  | record entries ending =>
      cases levels with
      | zero => cases result
      | succ levels =>
          obtain ⟨values, -, last⟩ := bind_eq_ok.mp result
          obtain ⟨-, -, last⟩ := bind_eq_ok.mp last
          cases last
          exact ⟨.ofList values, rfl⟩
  | list items ending =>
      cases levels with
      | zero => cases result
      | succ levels =>
          obtain ⟨values, -, last⟩ := bind_eq_ok.mp result
          obtain ⟨-, -, last⟩ := bind_eq_ok.mp last
          cases last
  | number value =>
      obtain ⟨number, -, same⟩ := map_eq_ok.mp result
      cases same
  | text value =>
      obtain ⟨text, -, same⟩ := map_eq_ok.mp result
      cases same
  | _ => cases result

theorem rereads_value : Rereads 0 Decoder.value id where
  reread := by
    rintro levels content - ⟨node, inRange, result⟩
    exact (value_reread inRange result).1
  inRange := by
    rintro levels content - ⟨node, inRange, result⟩
    exact (value_reread inRange result).2

end PackageSearch.Json
