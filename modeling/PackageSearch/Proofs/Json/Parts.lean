import Mathlib
import PackageSearch.Proofs.Json.Rereading

/-!
# Structures read again

A structure is described by its parts: of each field its decoder, where its content is held and how
it is written. When every part is faithful, that is, its content is read again from what is written
for it, and left out only when it is what an absent field has, the structure is read again from the
record of its parts. It does not matter whether it was first read from a record, with its members in
any order, or from a list: only that each content came from the part's decoder or was there at the
start.
-/

set_option autoImplicit false

namespace PackageSearch.Json

/-- A field of a structure, as it is read, held and written; nothing is written for a content that
is left out. -/
structure Part (ρ : Type) where
  Content : Type
  key : String
  required : Bool
  decoder : Decoder Content
  get : ρ → Content
  set : ρ → Content → ρ
  write : Content → Option Value

namespace Part

variable {ρ : Type}

def field (part : Part ρ) : Field ρ :=
  ⟨part.key, part.required, fun levels held node => (part.decoder levels node).map (part.set held)⟩

def members (part : Part ρ) (held : ρ) : List (String × Value) :=
  ((part.write (part.get held)).map fun value => (part.key, value)).toList

/-- Setting one of two parts leaves the other as it is. -/
def Apart (first second : Part ρ) : Prop :=
  ∀ held, (∀ content, second.get (first.set held content) = second.get held) ∧
    ∀ content, first.get (second.set held content) = first.get held

theorem Apart.symm {first second : Part ρ} (apart : first.Apart second) : second.Apart first :=
  fun held => (apart held).symm

instance : Std.Symm (Apart (ρ := ρ)) := ⟨fun _ _ => Apart.symm⟩

/-- A part that is read again from what is written for it. -/
structure Faithful (blank : ρ) (need : Nat) (part : Part ρ) : Prop where
  get_set : ∀ held content, part.get (part.set held content) = content
  initial : ∀ levels, need ≤ levels → Reads part.decoder levels (part.get blank)
  reread : ∀ {levels content value}, need ≤ levels → Reads part.decoder levels content →
    part.write content = some value → part.decoder levels value.tree = .ok content
  inRange : ∀ {levels content value}, need ≤ levels → Reads part.decoder levels content →
    part.write content = some value → value.AllNumbers Number.InRange
  absent : ∀ {content}, part.write content = none →
    content = part.get blank ∧ part.required = false

/-- Take over what is written of a part. -/
def copy (source : ρ) (held : ρ) (part : Part ρ) : ρ :=
  match part.write (part.get source) with
  | some _ => part.set held (part.get source)
  | none => held

/-- A part that is always written. -/
def always {α : Type} (key : String) (required : Bool) (decoder : Decoder α) (get : ρ → α)
    (set : ρ → α → ρ) (write : α → Value) : Part ρ :=
  ⟨α, key, required, decoder, get, set, fun content => some (write content)⟩

/-- A part that is written when there is something in it. -/
def given {α : Type} (key : String) (decoder : Decoder α) (get : ρ → Option α)
    (set : ρ → Option α → ρ) (write : α → Value) : Part ρ :=
  ⟨Option α, key, false, Decoder.option decoder, get, set, Option.map write⟩

section Faithful

variable {α : Type} {blank : ρ} {key : String} {need more : Nat} {decoder : Decoder α}
  {write : α → Value}

theorem Faithful.always {required : Bool} {get : ρ → α} {set : ρ → α → ρ}
    (rereads : Rereads need decoder write) (enough : need ≤ more)
    (get_set : ∀ held content, get (set held content) = content)
    (initial : ∀ levels, more ≤ levels → Reads decoder levels (get blank)) :
    (Part.always key required decoder get set write).Faithful blank more where
  get_set := get_set
  initial := initial
  reread room reads written := by
    cases written
    exact rereads.reread (Nat.le_trans enough room) reads
  inRange room reads written := by
    cases written
    exact rereads.inRange (Nat.le_trans enough room) reads
  absent written := by cases written

theorem option_tree {levels : Nat} {value : Value} (some : value ≠ .null) :
    Decoder.option decoder levels value.tree = (decoder levels value.tree).map Option.some := by
  cases value with
  | null => exact absurd rfl some
  | _ => rfl

theorem reads_of_option {levels : Nat} {content : α}
    (reads : Reads (Decoder.option decoder) levels (some content)) :
    Reads decoder levels content := by
  obtain ⟨node, inRange, result⟩ := reads
  refine ⟨node, inRange, ?_⟩
  cases node with
  | null => cases result
  | _ =>
      obtain ⟨found, read, same⟩ := map_eq_ok.mp result
      cases same
      exact read

theorem Faithful.given {get : ρ → Option α} {set : ρ → Option α → ρ}
    (rereads : Rereads need decoder write) (enough : need ≤ more)
    (solid : ∀ content, write content ≠ .null)
    (get_set : ∀ held content, get (set held content) = content) (initial : get blank = none) :
    (Part.given key decoder get set write).Faithful blank more where
  get_set := get_set
  initial levels _ := ⟨.null, .null, by
    show Except.ok none = Except.ok (get blank)
    rw [initial]⟩
  reread := by
    intro levels content value room reads written
    obtain ⟨found, rfl, rfl⟩ := Option.map_eq_some_iff.mp written
    show Decoder.option decoder levels (write found).tree = .ok (some found)
    rw [option_tree (solid found),
      rereads.reread (Nat.le_trans enough room) (reads_of_option reads)]
    rfl
  inRange := by
    intro levels content value room reads written
    obtain ⟨found, rfl, rfl⟩ := Option.map_eq_some_iff.mp written
    exact rereads.inRange (Nat.le_trans enough room) (reads_of_option reads)
  absent written := by
    rw [Option.map_eq_none_iff.mp written]
    exact ⟨initial.symm, rfl⟩

theorem Faithful.text {required : Bool} {get : ρ → String} {set : ρ → String → ρ}
    (get_set : ∀ held content, get (set held content) = content) (initial : get blank = "") :
    (Part.always key required Decoder.text get set .text).Faithful blank more :=
  .always rereads_text (Nat.zero_le more) get_set fun levels _ => by
    rw [initial]
    exact ⟨.text (.ok ""), .text _, rfl⟩

theorem Faithful.givenText {get : ρ → Option String} {set : ρ → Option String → ρ}
    (get_set : ∀ held content, get (set held content) = content) (initial : get blank = none) :
    (Part.given key Decoder.text get set .text).Faithful blank more :=
  .given rereads_text (Nat.zero_le more) (fun _ => nofun) get_set initial

end Faithful

section Members

variable {α : Type} {key : String} {decoder : Decoder α} {write : α → Value}

@[simp] theorem members_always {required : Bool} {get : ρ → α} {set : ρ → α → ρ} (held : ρ) :
    (always key required decoder get set write).members held = [(key, write (get held))] :=
  rfl

@[simp] theorem members_given {get : ρ → Option α} {set : ρ → Option α → ρ} (held : ρ) :
    (given key decoder get set write).members held = optionalMember key write (get held) := by
  cases given : get held with
  | none => simp [members, Part.given, optionalMember, given]
  | some content => simp [members, Part.given, optionalMember, given]

end Members

end Part

/-! ## Contents before anything is read -/

section Initial

variable {α : Type} {levels : Nat}

theorem reads_zero (levels : Nat) : Reads Decoder.real levels Binary64.zero :=
  ⟨.number (.ok (.real .zero)), .number (by rintro found ⟨rfl⟩; rfl), rfl⟩

theorem reads_natural {value : Nat} (small : value < 2 ^ 64) (levels : Nat) :
    Reads Decoder.natural levels value := by
  have inRange : (Number.integer value).InRange := ⟨by omega, by omega⟩
  refine ⟨.number (.ok (.integer value)), .number (by rintro found ⟨rfl⟩; exact inRange), ?_⟩
  have notNegative : ¬ (value : Int) < 0 := by omega
  simp [Decoder.natural, bind, Except.bind, notNegative]

theorem reads_noItems (decoder : Decoder α) (enough : 1 ≤ levels) :
    Reads (Decoder.list decoder) levels [] := by
  obtain ⟨inner, rfl⟩ := Nat.exists_eq_add_of_le' enough
  exact ⟨.list [] none, .list _ (List.forall_mem_nil _), rfl⟩

theorem reads_noEntries (decoder : Decoder α) (enough : 1 ≤ levels) :
    Reads (Decoder.dictionary decoder) levels .empty := by
  obtain ⟨inner, rfl⟩ := Nat.exists_eq_add_of_le' enough
  exact ⟨.record [] none, .record _ (List.forall_mem_nil _), rfl⟩

end Initial

/-- The parts of a structure: each under a key of its own, apart from the others, and faithful. -/
structure Parts {ρ : Type} (blank : ρ) (need : Nat) (parts : List (Part ρ)) : Prop where
  keys : (parts.map Part.key).Nodup
  apart : parts.Pairwise Part.Apart
  faithful : ∀ part ∈ parts, part.Faithful blank need

/-- There is nothing in a structure beside the parts. -/
def Determine {ρ : Type} (parts : List (Part ρ)) : Prop :=
  ∀ first second : ρ, (∀ part ∈ parts, part.get first = part.get second) → first = second

/-- The content of every part comes from its decoder. -/
def Held {ρ : Type} (parts : List (Part ρ)) (levels : Nat) (held : ρ) : Prop :=
  ∀ part ∈ parts, Reads part.decoder levels (part.get held)

namespace Parts

variable {ρ : Type} {blank : ρ} {need levels : Nat} {parts : List (Part ρ)}

theorem apart_of_ne (lawful : Parts blank need parts) {first second : Part ρ}
    (firstHeld : first ∈ parts) (secondHeld : second ∈ parts) (other : first ≠ second) :
    first.Apart second :=
  lawful.apart.forall firstHeld secondHeld other

theorem held_blank (lawful : Parts blank need parts) (enough : need ≤ levels) :
    Held parts levels blank :=
  fun part member => (lawful.faithful part member).initial levels enough

theorem held_set (lawful : Parts blank need parts) {part : Part ρ} (member : part ∈ parts)
    {held : ρ} (already : Held parts levels held) {content : part.Content}
    (reads : Reads part.decoder levels content) : Held parts levels (part.set held content) := by
  intro other otherMember
  by_cases same : other = part
  · subst same
    rw [(lawful.faithful other member).get_set]
    exact reads
  · rw [((lawful.apart_of_ne member otherMember (Ne.symm same)) held).1]
    exact already other otherMember

/-- Storing a field keeps every content one that was read. -/
theorem held_store (lawful : Parts blank need parts) {field : Field ρ}
    (member : field ∈ parts.map Part.field) {held after : ρ} (already : Held parts levels held)
    {node : Node} (inRange : node.InRange) (stored : field.store levels held node = .ok after) :
    Held parts levels after := by
  obtain ⟨part, partMember, rfl⟩ := List.mem_map.mp member
  obtain ⟨content, read, rfl⟩ := map_eq_ok.mp stored
  exact lawful.held_set partMember already ⟨node, inRange, read⟩

/-! ## Copying what is written -/

/-- What was copied over parts that are apart from another does not reach that one. -/
theorem get_foldl_copy_of_apart {part : Part ρ} {others : List (Part ρ)} (source held : ρ)
    (apart : ∀ other ∈ others, other.Apart part) :
    part.get (others.foldl (Part.copy source) held) = part.get held := by
  induction others generalizing held with
  | nil => rfl
  | cons other rest ih =>
      rw [List.foldl_cons, ih _ fun later member => apart later (List.mem_cons_of_mem _ member)]
      unfold Part.copy
      split
      · exact (apart other List.mem_cons_self held).1 _
      · rfl

theorem get_foldl_copy {others : List (Part ρ)} {source held : ρ}
    (apart : others.Pairwise Part.Apart)
    (get_set : ∀ part ∈ others, ∀ held content, part.get (part.set held content) = content)
    (absent : ∀ part ∈ others, part.write (part.get source) = none →
      part.get held = part.get source) :
    ∀ part ∈ others, part.get (others.foldl (Part.copy source) held) = part.get source := by
  induction others generalizing held with
  | nil => exact fun part member => nomatch member
  | cons first rest ih =>
      obtain ⟨firstApart, restApart⟩ := List.pairwise_cons.mp apart
      intro part member
      rw [List.foldl_cons]
      rcases List.mem_cons.mp member with rfl | later
      · rw [get_foldl_copy_of_apart source _ fun other held => (firstApart other held).symm]
        unfold Part.copy
        split
        · exact get_set part List.mem_cons_self _ _
        · rename_i left
          exact absent part List.mem_cons_self left
      · apply ih restApart (fun other held => get_set other (List.mem_cons_of_mem _ held)) _ part
          later
        intro other otherMember left
        unfold Part.copy
        split
        · rw [(firstApart other otherMember held).1]
          exact absent other (List.mem_cons_of_mem _ otherMember) left
        · exact absent other (List.mem_cons_of_mem _ otherMember) left

/-- Copying all parts over the initial value gives every content of the source. -/
theorem get_copyAll (lawful : Parts blank need parts) (source : ρ) :
    ∀ part ∈ parts, part.get (parts.foldl (Part.copy source) blank) = part.get source := by
  apply get_foldl_copy lawful.apart
  · exact fun part member => (lawful.faithful part member).get_set
  · exact fun part member left => ((lawful.faithful part member).absent left).1.symm

end Parts

/-! ## Reading members and items -/

namespace Shape

variable {ρ : Type} {shape : Shape ρ} {levels : Nat} {keeps : ρ → Prop}

/-- What every step of reading members keeps is kept by all of them. -/
theorem readMembers_keeps
    (stored : ∀ field ∈ shape.fields, ∀ {held after node}, keeps held → node.InRange →
      field.store levels held node = .ok after → keeps after)
    (others : ∀ {key held after node},
      (shape.fields.find? fun field => field.key == key) = none → keeps held → node.InRange →
      shape.other levels held key node = .ok after → keeps after)
    {members : List (Except Fault String × Node)} (inRange : ∀ member ∈ members, member.2.InRange)
    {seen after : List String} {held result : ρ} (start : keeps held)
    (read : shape.readMembers levels members seen held = .ok (result, after)) : keeps result := by
  induction members generalizing seen held with
  | nil =>
      cases read
      exact start
  | cons member rest ih =>
      obtain ⟨name, node⟩ := member
      have nodeInRange := inRange (name, node) List.mem_cons_self
      have restInRange : ∀ member ∈ rest, member.2.InRange := fun member later =>
        inRange member (List.mem_cons_of_mem _ later)
      obtain ⟨key, -, read⟩ := bind_eq_ok.mp read
      split at read
      · rename_i unknown
        obtain ⟨next, stepped, read⟩ := bind_eq_ok.mp read
        exact ih restInRange (others unknown start nodeInRange stepped) read
      · rename_i field found
        split at read
        · cases read
        · obtain ⟨next, stepped, read⟩ := bind_eq_ok.mp read
          exact ih restInRange
            (stored field (List.mem_of_find?_eq_some found) start nodeInRange stepped) read

theorem readItems_keeps {fields : List (Field ρ)}
    (stored : ∀ field ∈ fields, ∀ {held after node}, keeps held → node.InRange →
      field.store levels held node = .ok after → keeps after)
    {items : List Node} (inRange : ∀ item ∈ items, item.InRange) {ending : Option Break}
    {held result : ρ} (start : keeps held)
    (read : readItems levels ending fields items held = .ok result) : keeps result := by
  induction fields generalizing items held with
  | nil =>
      cases items with
      | nil =>
          obtain ⟨-, -, rfl⟩ := map_eq_ok.mp read
          exact start
      | cons item rest => cases read
  | cons field fields ih =>
      have later : ∀ other ∈ fields, ∀ {held after node}, keeps held → node.InRange →
          other.store levels held node = .ok after → keeps after :=
        fun other member => stored other (List.mem_cons_of_mem _ member)
      cases items with
      | nil =>
          obtain ⟨-, -, read⟩ := bind_eq_ok.mp read
          split at read
          · cases read
          · exact ih later inRange start read
      | cons item rest =>
          obtain ⟨next, stepped, read⟩ := bind_eq_ok.mp read
          exact ih later (fun other member => inRange other (List.mem_cons_of_mem _ member))
            (stored field List.mem_cons_self start (inRange item List.mem_cons_self) stepped) read

theorem exists_inner {node : Node} {result : ρ} (read : shape.decoder levels node = .ok result) :
    ∃ inner, levels = inner + 1 := by
  cases levels with
  | succ inner => exact ⟨inner, rfl⟩
  | zero => cases node <;> cases read

theorem ofRecord_keeps
    (stored : ∀ field ∈ shape.fields, ∀ {held after node}, keeps held → node.InRange →
      field.store levels held node = .ok after → keeps after)
    (others : ∀ {key held after node},
      (shape.fields.find? fun field => field.key == key) = none → keeps held → node.InRange →
      shape.other levels held key node = .ok after → keeps after)
    (start : keeps shape.blank) {node : Node} (inRange : node.InRange) {result : ρ}
    (read : shape.ofRecord (levels + 1) node = .ok result) : keeps result := by
  cases inRange with
  | record ending all =>
      obtain ⟨⟨held, seen⟩, membersRead, read⟩ := bind_eq_ok.mp read
      obtain ⟨-, -, read⟩ := bind_eq_ok.mp read
      split at read
      · cases read
        exact readMembers_keeps stored others all start membersRead
      · cases read
  | _ => cases read

/-- What every field and every other member keeps holds of all that a structure is read to. -/
theorem decoder_keeps
    (stored : ∀ field ∈ shape.fields, ∀ {held after node}, keeps held → node.InRange →
      field.store levels held node = .ok after → keeps after)
    (others : ∀ {key held after node},
      (shape.fields.find? fun field => field.key == key) = none → keeps held → node.InRange →
      shape.other levels held key node = .ok after → keeps after)
    (start : keeps shape.blank) {node : Node} (inRange : node.InRange) {result : ρ}
    (read : shape.decoder (levels + 1) node = .ok result) : keeps result := by
  cases inRange with
  | list ending all => exact readItems_keeps stored all start read
  | record ending all => exact ofRecord_keeps stored others start (.record ending all) read
  | _ => cases read

end Shape

/-! ## Reading what was written -/

namespace Parts

variable {ρ : Type} {blank : ρ} {need levels : Nat} {parts : List (Part ρ)} {shape : Shape ρ}

theorem find?_key (lawful : Parts blank need parts) {part : Part ρ} (member : part ∈ parts) :
    (parts.map Part.field).find? (fun field => field.key == part.key) = some part.field := by
  have keys := lawful.keys
  clear lawful
  induction parts with
  | nil => cases member
  | cons first rest ih =>
      rw [List.map_cons, List.nodup_cons] at keys
      rw [List.map_cons, List.find?_cons]
      rcases List.mem_cons.mp member with rfl | later
      · simp [Part.field]
      · have other : first.key ≠ part.key := fun same =>
          keys.1 (same ▸ List.mem_map_of_mem later)
        have differs : (first.field.key == part.key) = false := by simpa [Part.field] using other
        rw [differs]
        exact ih later keys.2

/-- The keys of the parts that are written. -/
def writtenKeys (todo : List (Part ρ)) (source : ρ) : List String :=
  (todo.flatMap fun part => part.members source).map Prod.fst

theorem readMembers_known {key : String} {node : Node} {field : Field ρ}
    (found : (shape.fields.find? fun field => field.key == key) = some field) {seen : List String}
    (fresh : key ∉ seen) {held next : ρ} (stored : field.store levels held node = .ok next)
    (rest : List (Except Fault String × Node)) :
    shape.readMembers levels ((.ok key, node) :: rest) seen held =
      shape.readMembers levels rest (key :: seen) next := by
  have unseen : seen.contains key = false := by simpa using fresh
  simp [Shape.readMembers, bind, Except.bind, found, fresh, stored]

/-- The members written for some parts are read by copying these parts. -/
theorem readMembers_written (lawful : Parts blank need parts)
    (fields : shape.fields = parts.map Part.field) (enough : need ≤ levels) {source : ρ}
    {todo : List (Part ρ)} (known : todo ⊆ parts) (distinct : (todo.map Part.key).Nodup)
    (reads : Held todo levels source) {seen : List String}
    (fresh : ∀ part ∈ todo, part.key ∉ seen) (held : ρ)
    (rest : List (Except Fault String × Node)) :
    shape.readMembers levels
        (memberTrees (todo.flatMap fun part => part.members source) ++ rest) seen held =
      shape.readMembers levels rest ((writtenKeys todo source).reverse ++ seen)
        (todo.foldl (Part.copy source) held) := by
  -- The keys of the parts still to come were not seen, since no two parts share one.
  induction todo generalizing seen held with
  | nil => rfl
  | cons part todo ih =>
      rw [List.map_cons, List.nodup_cons] at distinct
      have restReads : Held todo levels source := fun other member =>
        reads other (List.mem_cons_of_mem _ member)
      have restKnown : todo ⊆ parts := fun other member => known (List.mem_cons_of_mem _ member)
      have restFresh : ∀ other ∈ todo, other.key ∉ seen := fun other member =>
        fresh other (List.mem_cons_of_mem _ member)
      rw [writtenKeys, List.flatMap_cons, List.foldl_cons]
      cases written : part.write (part.get source) with
      | none =>
          have members : part.members source = [] := by simp [Part.members, written]
          have copied : Part.copy source held part = held := by simp [Part.copy, written]
          rw [members, copied, List.nil_append]
          exact ih restKnown distinct.2 restReads restFresh held
      | some value =>
          have partKnown := known List.mem_cons_self
          have members : part.members source = [(part.key, value)] := by
            simp [Part.members, written]
          have copied : Part.copy source held part = part.set held (part.get source) := by
            simp [Part.copy, written]
          have stored : part.field.store levels held value.tree =
              .ok (part.set held (part.get source)) := by
            have read := (lawful.faithful part partKnown).reread enough
              (reads part List.mem_cons_self) written
            simp [Part.field, read, Except.map]
          have freshBehind : ∀ other ∈ todo, other.key ∉ part.key :: seen := by
            intro other member again
            rcases List.mem_cons.mp again with same | earlier
            · exact distinct.1 (same ▸ List.mem_map_of_mem member)
            · exact restFresh other member earlier
          rw [members, copied, List.singleton_append, memberTrees, List.cons_append,
            readMembers_known (fields ▸ lawful.find?_key partKnown)
              (fresh part List.mem_cons_self) stored,
            ih restKnown distinct.2 restReads freshBehind]
          simp [writtenKeys]

/-- A structure is read again from the record of its parts, when what stands behind them is. -/
theorem ofRecord_written (lawful : Parts blank need parts)
    (fields : shape.fields = parts.map Part.field) (initial : shape.blank = blank)
    (enough : need ≤ levels) {source : ρ} (reads : Held parts levels source)
    {rest : List (Except Fault String × Node)} {result : ρ}
    (behind : shape.readMembers levels rest (writtenKeys parts source).reverse
      (parts.foldl (Part.copy source) blank) =
        .ok (result, (writtenKeys parts source).reverse)) :
    shape.ofRecord (levels + 1) (.record
      (memberTrees (parts.flatMap fun part => part.members source) ++ rest) none) = .ok result := by
  have membersRead : shape.readMembers levels
      (memberTrees (parts.flatMap fun part => part.members source) ++ rest) [] shape.blank =
      .ok (result, (writtenKeys parts source).reverse) := by
    rw [lawful.readMembers_written fields enough (List.Subset.refl parts) lawful.keys reads
      (fun part _ => List.not_mem_nil), List.append_nil, initial]
    exact behind
  have given : (shape.fields.all fun field =>
      ! field.required || (writtenKeys parts source).reverse.contains field.key) = true := by
    rw [fields, List.all_eq_true]
    intro field member
    obtain ⟨part, partMember, rfl⟩ := List.mem_map.mp member
    cases written : part.write (part.get source) with
    | none =>
        have optional := ((lawful.faithful part partMember).absent written).2
        simp [Part.field, optional]
    | some value =>
        have member : (part.key, value) ∈ parts.flatMap fun part => part.members source :=
          List.mem_flatMap.mpr ⟨part, partMember, by simp [Part.members, written]⟩
        have key : part.key ∈ writtenKeys parts source := List.mem_map_of_mem member
        simp [Part.field, key]
  refine bind_eq_ok.mpr ⟨_, membersRead, bind_eq_ok.mpr ⟨(), rfl, ?_⟩⟩
  exact if_pos given

/-- All numbers in what is written for the parts fit. -/
theorem inRange_written (lawful : Parts blank need parts) (enough : need ≤ levels) {source : ρ}
    (reads : Held parts levels source) :
    ∀ entry ∈ parts.flatMap fun part => part.members source,
      entry.2.AllNumbers Number.InRange := by
  intro entry member
  obtain ⟨part, partMember, held⟩ := List.mem_flatMap.mp member
  obtain ⟨value, written, rfl⟩ := Option.map_eq_some_iff.mp (Option.mem_toList.mp held)
  exact (lawful.faithful part partMember).inRange enough (reads part partMember) written

/-- What a structure that skips all other members is read to, in whatever form it was given. -/
theorem held_of_read (lawful : Parts blank need parts) (enough : need + 1 ≤ levels) {content : ρ}
    (reads : Reads (Shape.skipping blank (parts.map Part.field)).decoder levels content) :
    ∃ inner, levels = inner + 1 ∧ need ≤ inner ∧ Held parts inner content := by
  obtain ⟨node, inRange, read⟩ := reads
  obtain ⟨inner, rfl⟩ := Shape.exists_inner read
  have room := Nat.le_of_succ_le_succ enough
  refine ⟨inner, rfl, room, Shape.decoder_keeps ?_ ?_ (lawful.held_blank room) inRange read⟩
  · intro field member held after node already inRange stored
    exact lawful.held_store member already inRange stored
  · intro key held after node _ already _ skipped
    obtain ⟨-, -, rfl⟩ := map_eq_ok.mp skipped
    exact already

/-- A structure that skips all other members is read again from the record of its parts. -/
theorem rereads (lawful : Parts blank need parts) (determine : Determine parts) :
    Rereads (need + 1) (Shape.skipping blank (parts.map Part.field)).decoder fun content =>
      .record (parts.flatMap fun part => part.members content) := by
  constructor
  · intro levels content enough reads
    obtain ⟨inner, rfl, room, contents⟩ := lawful.held_of_read enough reads
    -- A part that is not written has its initial content, so copying the others is enough.
    have same : parts.foldl (Part.copy content) blank = content := by
      apply determine
      exact lawful.get_copyAll content
    have nothing : (Shape.skipping blank (parts.map Part.field)).readMembers inner []
        (writtenKeys parts content).reverse (parts.foldl (Part.copy content) blank) =
        .ok (content, (writtenKeys parts content).reverse) := by
      rw [same]
      rfl
    have again := lawful.ofRecord_written rfl rfl room contents nothing
    rw [List.append_nil] at again
    exact again
  · intro levels content enough reads
    obtain ⟨inner, rfl, room, contents⟩ := lawful.held_of_read enough reads
    exact .record (lawful.inRange_written room contents)

/-! ## Reading the initial contents -/

theorem set_blank (lawful : Parts blank need parts) (determine : Determine parts) {part : Part ρ}
    (member : part ∈ parts) : part.set blank (part.get blank) = blank := by
  apply determine
  intro other otherMember
  by_cases same : other = part
  · subst same
    exact (lawful.faithful other member).get_set _ _
  · exact (lawful.apart_of_ne member otherMember (Ne.symm same) blank).1 _

theorem readItems_blank (lawful : Parts blank need parts) (determine : Determine parts)
    (enough : need ≤ levels) {todo : List (Part ρ)} (known : todo ⊆ parts) :
    ∃ items : List Node, (∀ item ∈ items, item.InRange) ∧
      Shape.readItems levels none (todo.map Part.field) items blank = .ok blank := by
  induction todo with
  | nil => exact ⟨[], List.forall_mem_nil _, rfl⟩
  | cons part rest ih =>
      have member := known List.mem_cons_self
      obtain ⟨items, restInRange, read⟩ := ih fun other later =>
        known (List.mem_cons_of_mem _ later)
      obtain ⟨node, inRange, content⟩ := (lawful.faithful part member).initial levels enough
      have stored : part.field.store levels blank node = .ok blank :=
        map_eq_ok.mpr ⟨_, content, lawful.set_blank determine member⟩
      exact ⟨node :: items, List.forall_mem_cons.mpr ⟨inRange, restInRange⟩,
        bind_eq_ok.mpr ⟨blank, stored, read⟩⟩

/-- The initial value of a structure is read from a list of what its parts are read from. -/
theorem reads_blank (lawful : Parts blank need parts) (determine : Determine parts)
    (enough : need + 1 ≤ levels) :
    Reads (Shape.skipping blank (parts.map Part.field)).decoder levels blank := by
  obtain ⟨inner, rfl⟩ : ∃ inner, levels = inner + 1 := ⟨levels - 1, by omega⟩
  obtain ⟨items, inRange, read⟩ := lawful.readItems_blank determine
    (Nat.le_of_succ_le_succ enough) (List.Subset.refl parts)
  exact ⟨.list items none, .list _ inRange, read⟩

end Parts

end PackageSearch.Json
