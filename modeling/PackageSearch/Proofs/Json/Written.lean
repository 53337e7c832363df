import Mathlib
import PackageSearch.Proofs.Json.Numeral
import PackageSearch.Proofs.Json.Quoted

/-!
# Reading what was written

The text of a value is read as the tree of that value: compact or indented, behind any blanks, and
whatever stands behind it, as long as that does not continue a number. The texts of the numbers in
the value are required to denote them; everything else is proved.
-/

set_option autoImplicit false

namespace PackageSearch.Json

/-! ## Values and their trees -/

/-- Induction over values: a list or record comes after its parts. -/
theorem Value.induction {motive : Value → Prop} (null : motive .null)
    (boolean : ∀ value, motive (.boolean value)) (number : ∀ value, motive (.number value))
    (text : ∀ value, motive (.text value))
    (list : ∀ items, (∀ item ∈ items, motive item) → motive (.list items))
    (record : ∀ members, (∀ entry ∈ members, motive entry.2) → motive (.record members)) :
    ∀ value, motive value
  | .null => null
  | .boolean value => boolean value
  | .number value => number value
  | .text value => text value
  | .list items => list items fun item member =>
      have smaller : sizeOf item < sizeOf (Value.list items) :=
        Nat.lt_of_lt_of_le (List.sizeOf_lt_of_mem member) (by simp)
      Value.induction null boolean number text list record item
  | .record members => record members fun entry member =>
      have smaller : sizeOf entry.2 < sizeOf (Value.record members) := by
        have held := List.sizeOf_lt_of_mem member
        have parts : sizeOf entry = 1 + sizeOf entry.1 + sizeOf entry.2 := rfl
        simp only [Value.record.sizeOf_spec]
        omega
      Value.induction null boolean number text list record entry.2
termination_by value => sizeOf value
decreasing_by
  · exact smaller
  · exact smaller

/-- Every number in a value has a property. -/
inductive Value.AllNumbers (property : Number → Prop) : Value → Prop where
  | null : AllNumbers property .null
  | boolean (value : Bool) : AllNumbers property (.boolean value)
  | number {value : Number} (holds : property value) : AllNumbers property (.number value)
  | text (value : String) : AllNumbers property (.text value)
  | list {items : List Value} (all : ∀ item ∈ items, AllNumbers property item) :
      AllNumbers property (.list items)
  | record {members : List (String × Value)}
      (all : ∀ entry ∈ members, AllNumbers property entry.2) : AllNumbers property (.record members)

namespace Value.AllNumbers

variable {property : Number → Prop}

attribute [simp] null boolean text

@[simp] theorem number_iff {value : Number} :
    (Value.number value).AllNumbers property ↔ property value :=
  ⟨fun | .number holds => holds, .number⟩

@[simp] theorem list_iff {items : List Value} :
    (Value.list items).AllNumbers property ↔ ∀ item ∈ items, item.AllNumbers property :=
  ⟨fun | .list all => all, .list⟩

@[simp] theorem record_iff {members : List (String × Value)} :
    (Value.record members).AllNumbers property ↔
      ∀ entry ∈ members, entry.2.AllNumbers property :=
  ⟨fun | .record all => all, .record⟩

end Value.AllNumbers

mutual

/-- The tree of a value's text. -/
def Value.tree : Value → Node
  | .null => .null
  | .boolean value => .boolean value
  | .number value => .number (.ok value)
  | .text value => .text (.ok value)
  | .list items => .list (treesOf items) none
  | .record members => .record (memberTrees members) none

def treesOf : List Value → List Node
  | [] => []
  | item :: rest => item.tree :: treesOf rest

def memberTrees : List (String × Value) → List (Except Fault String × Node)
  | [] => []
  | (key, value) :: rest => (.ok key, value.tree) :: memberTrees rest

end

theorem treesOf_eq_map (items : List Value) : treesOf items = items.map Value.tree := by
  induction items with
  | nil => rfl
  | cons item rest ih => rw [treesOf, ih, List.map_cons]

theorem memberTrees_eq_map (members : List (String × Value)) :
    memberTrees members = members.map fun entry => (.ok entry.1, entry.2.tree) := by
  induction members with
  | nil => rfl
  | cons entry rest ih => rw [memberTrees, ih, List.map_cons]

theorem Value.break?_tree (value : Value) : value.tree.break? = none := by
  cases value <;> rfl

/-! ## Layouts -/

/-- The blanks of a written text: before an item or the end of a list on some level, and behind a
colon. -/
structure Layout where
  line : Nat → Bytes
  colon : Bytes
  line_blank : ∀ level, ∀ byte ∈ line level, isSpace byte = true
  colon_blank : ∀ byte ∈ colon, isSpace byte = true

namespace Layout

def compact : Layout where
  line _ := []
  colon := []
  line_blank := by simp
  colon_blank := by simp

def indented : Layout where
  line level := 0x0a :: List.replicate (2 * level) 0x20
  colon := [0x20]
  line_blank level byte member := by
    rcases List.mem_cons.mp member with rfl | blank
    · rfl
    · rw [List.eq_of_mem_replicate blank]
      rfl
  colon_blank := by simp [isSpace]

/-- Entries up to a closing bracket; all but the first follow a comma. -/
def entries (layout : Layout) (level : Nat) (close : UInt8) (first : Bool) : List Bytes → Bytes
  | [] => (if first then [] else layout.line level) ++ [close]
  | entry :: rest =>
      (if first then [] else [0x2c]) ++ (layout.line (level + 1) ++
        (entry ++ layout.entries level close false rest))

end Layout

def quotedBytes (text : String) : Bytes :=
  0x22 :: (text.toList.flatMap escapedBytes ++ [0x22])

mutual

/-- The text of a value in a layout. -/
def Value.spelled (layout : Layout) (level : Nat) : Value → Bytes
  | .null => [0x6e, 0x75, 0x6c, 0x6c]
  | .boolean true => [0x74, 0x72, 0x75, 0x65]
  | .boolean false => [0x66, 0x61, 0x6c, 0x73, 0x65]
  | .number value => value.render.toUTF8.toList
  | .text value => quotedBytes value
  | .list items => 0x5b :: layout.entries level 0x5d true (itemTexts layout (level + 1) items)
  | .record members =>
      0x7b :: layout.entries level 0x7d true (memberTexts layout (level + 1) members)

def itemTexts (layout : Layout) (level : Nat) : List Value → List Bytes
  | [] => []
  | item :: rest => item.spelled layout level :: itemTexts layout level rest

def memberTexts (layout : Layout) (level : Nat) : List (String × Value) → List Bytes
  | [] => []
  | (key, value) :: rest =>
      (quotedBytes key ++ 0x3a :: (layout.colon ++ value.spelled layout level)) ::
        memberTexts layout level rest

end

/-! ## Blanks -/

theorem skipSpaces_append {blanks : Bytes} (blank : ∀ byte ∈ blanks, isSpace byte = true)
    (text : Bytes) : skipSpaces (blanks ++ text) = skipSpaces text := by
  unfold skipSpaces
  rw [List.dropWhile_append, List.dropWhile_eq_nil_iff.mpr blank]
  rfl

theorem skipSpaces_cons {byte : UInt8} (solid : isSpace byte = false) (text : Bytes) :
    skipSpaces (byte :: text) = byte :: text := by
  rw [skipSpaces, List.dropWhile_cons, solid]
  rfl

theorem skipSpaces_skipSpaces (text : Bytes) : skipSpaces (skipSpaces text) = skipSpaces text :=
  List.dropWhile_idempotent isSpace text

theorem readNode_congr {fuel : Nat} {text other : Bytes}
    (same : skipSpaces text = skipSpaces other) : readNode fuel text = readNode fuel other := by
  cases fuel with
  | zero => rfl
  | succ fuel => rw [readNode, readNode, same]

theorem readItems_congr {fuel : Nat} {first : Bool} {text other : Bytes}
    (same : skipSpaces text = skipSpaces other) :
    readItems fuel first text = readItems fuel first other := by
  cases fuel with
  | zero => rfl
  | succ fuel => rw [readItems, readItems, same]

theorem readMembers_congr {fuel : Nat} {first : Bool} {text other : Bytes}
    (same : skipSpaces text = skipSpaces other) :
    readMembers fuel first text = readMembers fuel first other := by
  cases fuel with
  | zero => rfl
  | succ fuel => rw [readMembers, readMembers, same]

/-! ## What the first byte decides -/

section Start

variable {fuel : Nat} {text rest : Bytes}

theorem readNode_list (start : skipSpaces text = 0x5b :: rest) {items : List Node}
    {ending : Option Break} {left : Bytes}
    (read : readItems fuel true rest = (items, ending, left)) :
    readNode (fuel + 1) text = (.list items ending, left) := by
  rw [readNode, start]
  simp only [read]
  rfl

theorem readNode_record (start : skipSpaces text = 0x7b :: rest)
    {members : List (Except Fault String × Node)} {ending : Option Break} {left : Bytes}
    (read : readMembers fuel true rest = (members, ending, left)) :
    readNode (fuel + 1) text = (.record members ending, left) := by
  rw [readNode, start]
  simp only [read]
  rfl

theorem readNode_text (start : skipSpaces text = 0x22 :: rest) {value : Except Fault String}
    {left : Bytes} (read : readText rest = .ok (value, left)) :
    readNode (fuel + 1) text = (.text value, left) := by
  rw [readNode, start]
  simp only [read]
  rfl

theorem readNode_numeral {byte : UInt8} (start : skipSpaces text = byte :: rest)
    (sign : byte = 0x2d ∨ isDigitByte byte = true) {numeral : Numeral} {left : Bytes}
    (read : readNumeral (byte :: rest) = .ok (numeral, left)) :
    readNode (fuel + 1) text = (.number numeral.value, left) := by
  have noWord : byte ≠ 0x6e ∧ byte ≠ 0x74 ∧ byte ≠ 0x66 := by
    refine ⟨?_, ?_, ?_⟩ <;> rintro rfl <;> revert sign <;> decide
  rw [readNode, start]
  simp only [if_neg noWord.1, if_neg noWord.2.1, if_neg noWord.2.2, if_pos sign, read]

theorem readItems_item {first : Bool} {byte : UInt8} (start : skipSpaces text = byte :: rest)
    (more : byte ≠ 0x5d) (separated : first = true ∨ byte = 0x2c) {item : Node}
    {items : List Node} {left behind : Bytes}
    (read : readNode fuel (if first then byte :: rest else rest) = (item, left))
    (unbroken : item.break? = none) (later : readItems fuel false left = (items, none, behind)) :
    readItems (fuel + 1) first text = (item :: items, none, behind) := by
  have entered : (first || decide (byte = 0x2c)) = true := by simpa using separated
  rw [readItems, start]
  simp only [if_neg more, if_pos entered, read, unbroken, later]

theorem readMembers_member {first : Bool} {byte : UInt8} (start : skipSpaces text = byte :: rest)
    (more : byte ≠ 0x7d) (separated : first = true ∨ byte = 0x2c)
    {key : Except Fault String} {inside behindKey valueText : Bytes}
    (quoted : skipSpaces (if first then byte :: rest else rest) = 0x22 :: inside)
    (keyRead : readText inside = .ok (key, behindKey))
    (colon : skipSpaces behindKey = 0x3a :: valueText) {value : Node}
    {members : List (Except Fault String × Node)} {left behind : Bytes}
    (read : readNode fuel valueText = (value, left)) (unbroken : value.break? = none)
    (later : readMembers fuel false left = (members, none, behind)) :
    readMembers (fuel + 1) first text = ((key, value) :: members, none, behind) := by
  have entered : (first || decide (byte = 0x2c)) = true := by simpa using separated
  rw [readMembers, start]
  simp only [if_neg more, if_pos entered, quoted, keyRead, colon, read, unbroken, later]

end Start

/-! ## Reading -/

/-- A node that is not broken begins with something else than a closing bracket. -/
theorem exists_start {fuel : Nat} {text : Bytes} (unbroken : (readNode fuel text).1.break? = none) :
    ∃ byte tail, skipSpaces text = byte :: tail ∧ byte ≠ 0x5d := by
  cases fuel with
  | zero => cases unbroken
  | succ fuel =>
      rw [readNode] at unbroken
      cases start : skipSpaces text with
      | nil =>
          rw [start] at unbroken
          cases unbroken
      | cons byte tail =>
          refine ⟨byte, tail, rfl, ?_⟩
          rintro rfl
          rw [start] at unbroken
          cases unbroken

theorem stops_of_blanks {blanks rest : Bytes} {mark : UInt8}
    (blank : ∀ byte ∈ blanks, isSpace byte = true)
    (stops : Stops (mark :: rest)) : Stops (blanks ++ mark :: rest) := by
  cases blanks with
  | nil => exact stops
  | cons space blanks =>
      intro byte first
      cases first
      have isBlank := blank space List.mem_cons_self
      simp only [isSpace, Bool.or_eq_true, decide_eq_true_eq] at isBlank
      rcases isBlank with ((rfl | rfl) | rfl) | rfl <;> decide

/-- Behind its separator, the first of several entries or a later one is found. -/
theorem exists_separated {first : Bool} {blanks content : Bytes} (close : UInt8)
    (blank : ∀ byte ∈ blanks, isSpace byte = true) (noComma : (0x2c : UInt8) ≠ close)
    (start : ∃ byte tail, skipSpaces content = byte :: tail ∧ byte ≠ close) :
    ∃ byte tail, skipSpaces ((if first then [] else [0x2c]) ++ (blanks ++ content)) = byte :: tail ∧
      byte ≠ close ∧ (first = true ∨ byte = 0x2c) ∧
      skipSpaces (if first then byte :: tail else tail) = skipSpaces content := by
  have behind := skipSpaces_append blank content
  cases first with
  | true =>
      obtain ⟨byte, tail, start, more⟩ := start
      refine ⟨byte, tail, behind.trans start, more, .inl rfl, ?_⟩
      rw [if_pos rfl, ← start, skipSpaces_skipSpaces]
  | false => exact ⟨0x2c, blanks ++ content, rfl, noComma, .inr rfl, behind⟩

/-- The text of a value is read as its tree, whatever stands behind it. -/
structure ReadsBack (layout : Layout) (value : Value) : Prop where
  nonempty : ∀ level, 0 < (value.spelled layout level).length
  read : ∀ level fuel rest, Stops rest → 2 * (value.spelled layout level).length ≤ fuel + 1 →
    ∃ left, readNode fuel (value.spelled layout level ++ rest) = (value.tree, left) ∧
      skipSpaces left = skipSpaces rest

section Layout

variable {layout : Layout} {level : Nat}

theorem stops_entries {close : UInt8} (entries : List Bytes) (rest : Bytes)
    (stops : ∀ text, Stops (close :: text)) :
    Stops (layout.entries level close false entries ++ rest) := by
  cases entries with
  | nil =>
      rw [Layout.entries, List.append_assoc]
      exact stops_of_blanks (layout.line_blank level) (stops rest)
  | cons entry entries => exact Stops.cons (by decide) _

theorem skipSpaces_close {first : Bool} {close : UInt8} (solid : isSpace close = false)
    (rest : Bytes) : skipSpaces (layout.entries level close first [] ++ rest) = close :: rest := by
  rw [Layout.entries, List.append_assoc]
  cases first
  · exact (skipSpaces_append (layout.line_blank level) _).trans (skipSpaces_cons solid rest)
  · exact skipSpaces_cons solid rest

theorem readItems_spelled {items : List Value} (all : ∀ item ∈ items, ReadsBack layout item)
    {first : Bool} {fuel : Nat} {rest : Bytes}
    (enough : 2 * (layout.entries level 0x5d first (itemTexts layout (level + 1) items)).length ≤
      fuel) :
    readItems fuel first
        (layout.entries level 0x5d first (itemTexts layout (level + 1) items) ++ rest) =
      (treesOf items, none, rest) := by
  induction items generalizing first fuel with
  | nil =>
      rw [itemTexts] at enough ⊢
      rw [Layout.entries, List.length_append, List.length_singleton] at enough
      obtain ⟨fuel, rfl⟩ : ∃ less, fuel = less + 1 := ⟨fuel - 1, by omega⟩
      rw [readItems, skipSpaces_close (by decide)]
      rfl
  | cons item items ih =>
      have itemBack := all item List.mem_cons_self
      have itemLength := itemBack.nonempty (level + 1)
      rw [itemTexts, Layout.entries] at enough ⊢
      simp only [List.length_append] at enough
      obtain ⟨fuel, rfl⟩ : ∃ less, fuel = less + 1 := ⟨fuel - 1, by omega⟩
      obtain ⟨left, read, ends⟩ := itemBack.read (level + 1) fuel
        (layout.entries level 0x5d false (itemTexts layout (level + 1) items) ++ rest)
        (stops_entries _ rest (Stops.cons (by decide))) (by omega)
      have unbroken := item.break?_tree
      have later : readItems fuel false left = (treesOf items, none, rest) := by
        rw [readItems_congr ends]
        exact ih (fun other member => all other (List.mem_cons_of_mem _ member)) (by omega)
      obtain ⟨byte, tail, start, more, separated, same⟩ := exists_separated 0x5d
        (layout.line_blank (level + 1)) (by decide) (exists_start (by rw [read]; exact unbroken))
      rw [treesOf, List.append_assoc, List.append_assoc, List.append_assoc]
      refine readItems_item start more separated ?_ unbroken later
      rw [readNode_congr same, read]

theorem readText_quotedBytes (text : String) (rest : Bytes) :
    ∃ inside, quotedBytes text ++ rest = 0x22 :: inside ∧
      readText inside = .ok (.ok text, rest) := by
  refine ⟨text.toList.flatMap escapedBytes ++ 0x22 :: rest, ?_, readText_quoted text rest⟩
  rw [quotedBytes, List.cons_append, List.append_assoc]
  rfl

theorem readMembers_spelled {members : List (String × Value)}
    (all : ∀ entry ∈ members, ReadsBack layout entry.2) {first : Bool} {fuel : Nat} {rest : Bytes}
    (enough : 2 * (layout.entries level 0x7d first
      (memberTexts layout (level + 1) members)).length ≤ fuel) :
    readMembers fuel first
        (layout.entries level 0x7d first (memberTexts layout (level + 1) members) ++ rest) =
      (memberTrees members, none, rest) := by
  induction members generalizing first fuel with
  | nil =>
      rw [memberTexts] at enough ⊢
      rw [Layout.entries, List.length_append, List.length_singleton] at enough
      obtain ⟨fuel, rfl⟩ : ∃ less, fuel = less + 1 := ⟨fuel - 1, by omega⟩
      rw [readMembers, skipSpaces_close (by decide)]
      rfl
  | cons entry members ih =>
      obtain ⟨key, value⟩ := entry
      have valueBack := all (key, value) List.mem_cons_self
      have valueLength := valueBack.nonempty (level + 1)
      simp only at valueBack valueLength
      rw [memberTexts, Layout.entries] at enough ⊢
      simp only [List.length_append, List.length_cons] at enough
      obtain ⟨fuel, rfl⟩ : ∃ less, fuel = less + 1 := ⟨fuel - 1, by omega⟩
      obtain ⟨left, read, ends⟩ := valueBack.read (level + 1) fuel
        (layout.entries level 0x7d false (memberTexts layout (level + 1) members) ++ rest)
        (stops_entries _ rest (Stops.cons (by decide))) (by omega)
      have later : readMembers fuel false left = (memberTrees members, none, rest) := by
        rw [readMembers_congr ends]
        exact ih (fun other member => all other (List.mem_cons_of_mem _ member)) (by omega)
      obtain ⟨inside, quoted, keyRead⟩ := readText_quotedBytes key
        (0x3a :: (layout.colon ++ (value.spelled layout (level + 1) ++
          (layout.entries level 0x7d false (memberTexts layout (level + 1) members) ++ rest))))
      have opening : skipSpaces (0x22 :: inside) = 0x22 :: inside := skipSpaces_cons (by decide) _
      obtain ⟨byte, tail, start, more, separated, same⟩ := exists_separated 0x7d
        (layout.line_blank (level + 1)) (by decide) ⟨0x22, inside, opening, by decide⟩
      rw [memberTrees]
      simp only [List.append_assoc, List.cons_append, quoted]
      refine readMembers_member start more separated (same.trans opening) keyRead
        (skipSpaces_cons (by decide) _) ?_ value.break?_tree later
      rw [readNode_congr (skipSpaces_append layout.colon_blank _), read]

end Layout

variable {layout : Layout}

theorem readsBack_list {items : List Value} (all : ∀ item ∈ items, ReadsBack layout item) :
    ReadsBack layout (.list items) where
  nonempty level := by simp [Value.spelled]
  read level fuel rest _ enough := by
    rw [Value.spelled, List.length_cons] at enough
    obtain ⟨fuel, rfl⟩ : ∃ less, fuel = less + 1 := ⟨fuel - 1, by omega⟩
    refine ⟨rest, ?_, rfl⟩
    rw [Value.spelled, List.cons_append, Value.tree]
    exact readNode_list (skipSpaces_cons (by decide) _) (readItems_spelled all (by omega))

theorem readsBack_record {members : List (String × Value)}
    (all : ∀ entry ∈ members, ReadsBack layout entry.2) : ReadsBack layout (.record members) where
  nonempty level := by simp [Value.spelled]
  read level fuel rest _ enough := by
    rw [Value.spelled, List.length_cons] at enough
    obtain ⟨fuel, rfl⟩ : ∃ less, fuel = less + 1 := ⟨fuel - 1, by omega⟩
    refine ⟨rest, ?_, rfl⟩
    rw [Value.spelled, List.cons_append, Value.tree]
    exact readNode_record (skipSpaces_cons (by decide) _) (readMembers_spelled all (by omega))

/-- A number in a value is denoted by its text. -/
def Number.Legible (number : Number) : Prop :=
  Denotes number.render.toUTF8.toList number

theorem readsBack_number {number : Number} (legible : number.Legible) :
    ReadsBack layout (.number number) := by
  obtain ⟨byte, tail, numeral, left, start, sign, read, denoted, ends⟩ := legible
  have nonempty : 0 < number.render.toUTF8.toList.length := by
    cases text : number.render.toUTF8.toList with
    | nil =>
        rw [text] at start
        cases start
    | cons byte tail => simp
  refine ⟨fun level => by rwa [Value.spelled], fun level fuel rest stops enough => ?_⟩
  rw [Value.spelled] at enough ⊢
  obtain ⟨fuel, rfl⟩ : ∃ less, fuel = less + 1 := ⟨fuel - 1, by omega⟩
  refine ⟨left ++ rest, ?_, ?_⟩
  · rw [Value.tree, ← denoted]
    refine readNode_numeral ?_ sign (readNumeral_append read stops)
    rw [skipSpaces, List.dropWhile_append, ← skipSpaces, start]
    rfl
  · exact skipSpaces_append (List.dropWhile_eq_nil_iff.mp ends) rest

/-- A word that is read as the tree of a value. -/
theorem readsBack_word {value : Value} {word : Bytes}
    (spelled : ∀ level, value.spelled layout level = word) (nonempty : 0 < word.length)
    (read : ∀ fuel rest, readNode (fuel + 1) (word ++ rest) = (value.tree, rest)) :
    ReadsBack layout value := by
  refine ⟨fun level => by rwa [spelled], fun level fuel rest _ enough => ?_⟩
  rw [spelled] at enough ⊢
  obtain ⟨fuel, rfl⟩ : ∃ less, fuel = less + 1 := ⟨fuel - 1, by omega⟩
  exact ⟨rest, read fuel rest, rfl⟩

theorem readsBack_text (text : String) : ReadsBack layout (.text text) where
  nonempty level := by simp [Value.spelled, quotedBytes]
  read level fuel rest _ enough := by
    rw [Value.spelled, quotedBytes, List.length_cons] at enough
    obtain ⟨fuel, rfl⟩ : ∃ less, fuel = less + 1 := ⟨fuel - 1, by omega⟩
    obtain ⟨inside, quoted, read⟩ := readText_quotedBytes text rest
    refine ⟨rest, ?_, rfl⟩
    rw [Value.spelled, quoted, Value.tree]
    exact readNode_text (skipSpaces_cons (by decide) _) read

theorem readsBack {value : Value} (legible : value.AllNumbers Number.Legible) :
    ReadsBack layout value := by
  induction legible with
  | null => exact readsBack_word (fun level => rfl) (by decide) fun fuel rest => rfl
  | boolean value =>
      cases value with
      | true => exact readsBack_word (fun level => rfl) (by decide) fun fuel rest => rfl
      | false => exact readsBack_word (fun level => rfl) (by decide) fun fuel rest => rfl
  | number holds => exact readsBack_number holds
  | text value => exact readsBack_text value
  | list all ih => exact readsBack_list ih
  | record all ih => exact readsBack_record ih

variable (layout) in
/-- Decoding the text of a value is decoding its tree. -/
theorem decode_spelled {α : Type} (decoder : Decoder α) {value : Value}
    (legible : value.AllNumbers Number.Legible) :
    decode decoder (value.spelled layout 0) = decoder maxLevels value.tree := by
  have back : ReadsBack layout value := readsBack legible
  obtain ⟨left, read, ends⟩ := back.read 0 (2 * (value.spelled layout 0).length + 2) [] Stops.nil
    (by omega)
  rw [List.append_nil] at read
  have document : Document.ofBytes (value.spelled layout 0) = ⟨value.tree, false⟩ := by
    have nothing : skipSpaces left = [] := ends
    rw [Document.ofBytes, read]
    simp only [nothing]
    rfl
  rw [decode, document]
  cases decoder maxLevels value.tree <;> rfl

/-! ## The two written forms -/

/-- Joined entries and what ends them, when the separator is a comma and a line. -/
theorem joinWith_bytes {layout : Layout} {level : Nat} {separator : String}
    (separated : separator.toUTF8.toList = 0x2c :: layout.line (level + 1)) (close : UInt8)
    (entry : String) (entries : List String) :
    (Text.joinWith separator (entry :: entries)).toUTF8.toList ++ (layout.line level ++ [close]) =
      entry.toUTF8.toList ++
        layout.entries level close false (entries.map fun entry => entry.toUTF8.toList) := by
  induction entries generalizing entry with
  | nil =>
      rw [Text.joinWith, String.intercalate_singleton]
      rfl
  | cons next entries ih =>
      have later := ih next
      rw [Text.joinWith] at later ⊢
      rw [String.intercalate_cons_cons, Text.bytes_append, Text.bytes_append, separated,
        List.append_assoc, later, List.map_cons, Layout.entries]
      simp

theorem joined_bytes {opening closing : String} {first close : UInt8}
    (opened : opening.toUTF8.toList = [first]) (closed : closing.toUTF8.toList = [close])
    (level : Nat) (entries : List String) :
    (opening ++ Text.joinWith "," entries ++ closing).toUTF8.toList =
      first :: Layout.compact.entries level close true
        (entries.map fun entry => entry.toUTF8.toList) := by
  have comma : ",".toUTF8.toList = 0x2c :: Layout.compact.line (level + 1) := by
    rw [Text.bytes_eq]
    rfl
  rw [Text.bytes_append, Text.bytes_append, opened, closed]
  cases entries with
  | nil =>
      rw [Text.joinWith, String.intercalate_nil, Text.bytes_eq]
      rfl
  | cons entry entries =>
      have joined := joinWith_bytes comma close entry entries
      rw [List.append_assoc]
      exact congrArg (first :: ·) joined

theorem block_bytes {opening closing : String} {first close : UInt8}
    (opened : opening.toUTF8.toList = [first]) (closed : closing.toUTF8.toList = [close])
    (level : Nat) (entries : List String) :
    (Value.block opening closing level entries).toUTF8.toList =
      first :: Layout.indented.entries level close true
        (entries.map fun entry => entry.toUTF8.toList) := by
  have line (level : Nat) : (Value.lineAt level).toUTF8.toList = Layout.indented.line level := by
    have newline : String.utf8EncodeChar '\n' = [0x0a] := rfl
    have blank : String.utf8EncodeChar ' ' = [0x20] := rfl
    rw [Value.lineAt, Text.bytes_ofList, List.flatMap_cons, newline, List.flatMap_replicate, blank]
    simp [Layout.indented]
  have comma (level : Nat) :
      ("," ++ Value.lineAt level).toUTF8.toList = 0x2c :: Layout.indented.line level := by
    rw [Text.bytes_append, line, Text.bytes_eq]
    rfl
  cases entries with
  | nil =>
      rw [Value.block, List.isEmpty_nil, if_pos rfl, Text.bytes_append, opened, closed]
      rfl
  | cons entry entries =>
      have joined := joinWith_bytes (comma (level + 1)) close entry entries
      rw [Value.block, if_neg (by simp)]
      simp only [Text.bytes_append, opened, closed, line, List.append_assoc]
      rw [joined]
      rfl

theorem bracket_bytes : "[".toUTF8.toList = [0x5b] ∧ "]".toUTF8.toList = [0x5d] ∧
    "\x7b".toUTF8.toList = [0x7b] ∧ "\x7d".toUTF8.toList = [0x7d] := by
  simp only [Text.bytes_eq]
  exact ⟨rfl, rfl, rfl, rfl⟩

theorem map_eq_itemTexts {layout : Layout} {level : Nat} {texts : List Value → List String}
    {text : Value → String} (none : texts [] = [])
    (some : ∀ item rest, texts (item :: rest) = text item :: texts rest) {items : List Value}
    (all : ∀ item ∈ items, (text item).toUTF8.toList = item.spelled layout level) :
    (texts items).map (fun text => text.toUTF8.toList) = itemTexts layout level items := by
  induction items with
  | nil =>
      rw [none]
      rfl
  | cons item rest ih =>
      rw [some, List.map_cons, all item List.mem_cons_self,
        ih fun other member => all other (List.mem_cons_of_mem _ member)]
      rfl

theorem map_eq_memberTexts {layout : Layout} {level : Nat} {colon : String}
    {texts : List (String × Value) → List String} {text : Value → String} (none : texts [] = [])
    (some : ∀ key value rest,
      texts ((key, value) :: rest) = (quoted key ++ colon ++ text value) :: texts rest)
    (separated : colon.toUTF8.toList = 0x3a :: layout.colon) {members : List (String × Value)}
    (all : ∀ entry ∈ members, (text entry.2).toUTF8.toList = entry.2.spelled layout level) :
    (texts members).map (fun text => text.toUTF8.toList) = memberTexts layout level members := by
  induction members with
  | nil =>
      rw [none]
      rfl
  | cons entry rest ih =>
      obtain ⟨key, value⟩ := entry
      rw [some, List.map_cons, Text.bytes_append, Text.bytes_append, quoted_bytes, separated,
        all (key, value) List.mem_cons_self,
        ih fun other member => all other (List.mem_cons_of_mem _ member), List.append_assoc]
      rfl

theorem render_bytes (value : Value) (level : Nat) :
    value.render.toUTF8.toList = value.spelled .compact level := by
  obtain ⟨openList, closeList, openRecord, closeRecord⟩ := bracket_bytes
  have colon : ":".toUTF8.toList = 0x3a :: Layout.compact.colon := by
    rw [Text.bytes_eq]
    rfl
  induction value using Value.induction generalizing level with
  | null =>
      rw [Value.render, Text.bytes_eq]
      rfl
  | boolean value =>
      rw [Value.render, Text.bytes_eq]
      cases value <;> rfl
  | number value => rfl
  | text value => exact quoted_bytes value
  | list items ih =>
      rw [Value.render, joined_bytes openList closeList level, Value.spelled,
        map_eq_itemTexts rfl (fun _ _ => rfl) fun item member => ih item member (level + 1)]
  | record members ih =>
      rw [Value.render, joined_bytes openRecord closeRecord level, Value.spelled,
        map_eq_memberTexts rfl (fun _ _ _ => rfl) colon
          fun entry member => ih entry member (level + 1)]

theorem renderAt_bytes (value : Value) (level : Nat) :
    (value.renderAt level).toUTF8.toList = value.spelled .indented level := by
  obtain ⟨openList, closeList, openRecord, closeRecord⟩ := bracket_bytes
  have colon : ": ".toUTF8.toList = 0x3a :: Layout.indented.colon := by
    rw [Text.bytes_eq]
    rfl
  induction value using Value.induction generalizing level with
  | null =>
      rw [Value.renderAt, Text.bytes_eq]
      rfl
  | boolean value =>
      rw [Value.renderAt, Text.bytes_eq]
      cases value <;> rfl
  | number value => rfl
  | text value => exact quoted_bytes value
  | list items ih =>
      rw [Value.renderAt, block_bytes openList closeList level, Value.spelled,
        map_eq_itemTexts rfl (fun _ _ => rfl) fun item member => ih item member (level + 1)]
  | record members ih =>
      rw [Value.renderAt, block_bytes openRecord closeRecord level, Value.spelled,
        map_eq_memberTexts rfl (fun _ _ _ => rfl) colon
          fun entry member => ih entry member (level + 1)]

end PackageSearch.Json
