import Mathlib
import PackageSearch.Proofs.Json.Parts

/-!
# The member a content comes from

A structure takes the content of a part from the one member under its key, and from a list it takes
the content of its first part from the first item.
-/

set_option autoImplicit false

namespace PackageSearch.Json

open Package.Location (membersNamed)

theorem membersNamed_cons_self (key : String) (node : Node)
    (rest : List (Except Fault String × Node)) :
    membersNamed key ((.ok key, node) :: rest) = node :: membersNamed key rest := by
  simp [membersNamed]

theorem membersNamed_cons_of_ne {key other : String} (differs : other ≠ key) (node : Node)
    (rest : List (Except Fault String × Node)) :
    membersNamed key ((.ok other, node) :: rest) = membersNamed key rest := by
  simp [membersNamed, differs]

theorem mem_membersNamed {key : String} {node : Node}
    {members : List (Except Fault String × Node)} :
    node ∈ membersNamed key members ↔ (.ok key, node) ∈ members := by
  constructor
  · intro named
    obtain ⟨⟨name, found⟩, member, picked⟩ := List.mem_filterMap.mp named
    cases name with
    | error fault => cases picked
    | ok other =>
        simp only [Option.ite_none_right_eq_some, Option.some.injEq] at picked
        obtain ⟨rfl, rfl⟩ := picked
        exact member
  · intro member
    exact List.mem_filterMap.mpr ⟨(.ok key, node), member, if_pos rfl⟩

namespace Parts

variable {ρ : Type} {blank : ρ} {need levels : Nat} {parts : List (Part ρ)} {shape : Shape ρ}
  {part : Part ρ}

/-- Storing a field under another key leaves a part as it is. -/
theorem get_store_of_ne (lawful : Parts blank need parts) (member : part ∈ parts)
    {field : Field ρ} (fieldMember : field ∈ parts.map Part.field) (other : field.key ≠ part.key)
    {held next : ρ} {node : Node} (stored : field.store levels held node = .ok next) :
    part.get next = part.get held := by
  obtain ⟨stranger, strangerMember, rfl⟩ := List.mem_map.mp fieldMember
  obtain ⟨content, -, rfl⟩ := map_eq_ok.mp stored
  have different : stranger ≠ part := fun same => other (congrArg Part.key same)
  exact (lawful.apart_of_ne strangerMember member different held).1 content

/-- Members that are not known leave a part as it is. -/
def Untouched (shape : Shape ρ) (levels : Nat) (part : Part ρ) : Prop :=
  ∀ {key held after node}, shape.other levels held key node = .ok after →
    part.get after = part.get held

section Record

variable (lawful : Parts blank need parts) (fields : shape.fields = parts.map Part.field)
  (member : part ∈ parts) (untouched : Untouched shape levels part)
include lawful fields member untouched

/-- A key that was seen is not given again. -/
theorem readMembers_seen {members : List (Except Fault String × Node)} {seen after : List String}
    {held result : ρ} (given : part.key ∈ seen)
    (read : shape.readMembers levels members seen held = .ok (result, after)) :
    membersNamed part.key members = [] ∧ part.get result = part.get held := by
  induction members generalizing seen held with
  | nil =>
      cases read
      exact ⟨rfl, rfl⟩
  | cons entry rest ih =>
      obtain ⟨name, node⟩ := entry
      obtain ⟨key, rfl, stepped⟩ := bind_eq_ok.mp read
      split at stepped
      · rename_i unknown
        have differs : key ≠ part.key := by
          rintro rfl
          rw [fields, lawful.find?_key member] at unknown
          cases unknown
        obtain ⟨next, skipped, read⟩ := bind_eq_ok.mp stepped
        obtain ⟨none, kept⟩ := ih given read
        rw [membersNamed_cons_of_ne differs, kept, untouched skipped]
        exact ⟨none, rfl⟩
      · rename_i field found
        split at stepped
        · cases stepped
        · rename_i fresh
          have differs : key ≠ part.key := by
            rintro rfl
            exact fresh (List.contains_iff_mem.mpr given)
          obtain ⟨next, stored, read⟩ := bind_eq_ok.mp stepped
          obtain ⟨none, kept⟩ := ih (List.mem_cons_of_mem _ given) read
          have fieldMember := List.mem_of_find?_eq_some found
          have matching := List.find?_some found
          have fieldKey : field.key = key := eq_of_beq matching
          rw [fields] at fieldMember
          rw [membersNamed_cons_of_ne differs, kept,
            lawful.get_store_of_ne member fieldMember (fieldKey.trans_ne differs) stored]
          exact ⟨none, rfl⟩

/-- A part has the content of the only member under its key, or is left as it was. -/
theorem readMembers_part {members : List (Except Fault String × Node)} {seen after : List String}
    {held result : ρ} (fresh : part.key ∉ seen)
    (read : shape.readMembers levels members seen held = .ok (result, after)) :
    (part.key ∉ after ∧ membersNamed part.key members = [] ∧ part.get result = part.get held) ∨
      ∃ node, membersNamed part.key members = [node] ∧
        part.decoder levels node = .ok (part.get result) := by
  induction members generalizing seen held with
  | nil =>
      cases read
      exact .inl ⟨fresh, rfl, rfl⟩
  | cons entry rest ih =>
      obtain ⟨name, node⟩ := entry
      obtain ⟨key, rfl, stepped⟩ := bind_eq_ok.mp read
      by_cases same : key = part.key
      · subst same
        rw [fields, lawful.find?_key member] at stepped
        simp only at stepped
        split at stepped
        · cases stepped
        · obtain ⟨next, stored, read⟩ := bind_eq_ok.mp stepped
          obtain ⟨content, contentRead, rfl⟩ := map_eq_ok.mp stored
          obtain ⟨none, kept⟩ :=
            readMembers_seen lawful fields member untouched List.mem_cons_self read
          refine .inr ⟨node, by rw [membersNamed_cons_self, none], ?_⟩
          rw [kept, (lawful.faithful part member).get_set]
          exact contentRead
      · rw [membersNamed_cons_of_ne same]
        split at stepped
        · obtain ⟨next, skipped, read⟩ := bind_eq_ok.mp stepped
          rw [← untouched skipped]
          exact ih fresh read
        · rename_i field found
          split at stepped
          · cases stepped
          · obtain ⟨next, stored, read⟩ := bind_eq_ok.mp stepped
            have stillFresh : part.key ∉ key :: seen := by
              simpa [Ne.symm same] using fresh
            have fieldMember := List.mem_of_find?_eq_some found
            have matching := List.find?_some found
            have fieldKey : field.key = key := eq_of_beq matching
            rw [fields] at fieldMember
            rw [← lawful.get_store_of_ne member fieldMember (fieldKey.trans_ne same) stored]
            exact ih stillFresh read

/-- A part whose key was given has the content of the only member under that key. -/
theorem readMembers_given {members : List (Except Fault String × Node)} {seen after : List String}
    {held result : ρ} (fresh : part.key ∉ seen) (given : part.key ∈ after)
    (read : shape.readMembers levels members seen held = .ok (result, after)) :
    ∃ node, membersNamed part.key members = [node] ∧
      part.decoder levels node = .ok (part.get result) := by
  rcases readMembers_part lawful fields member untouched fresh read with ⟨absent, -⟩ | found
  · exact absurd given absent
  · exact found

theorem ofRecord_given (required : part.required = true)
    {members : List (Except Fault String × Node)} {ending : Option Break} {result : ρ}
    (read : shape.ofRecord (levels + 1) (.record members ending) = .ok result) :
    ∃ node, membersNamed part.key members = [node] ∧
      part.decoder levels node = .ok (part.get result) := by
  obtain ⟨⟨held, seen⟩, membersRead, read⟩ := bind_eq_ok.mp read
  obtain ⟨-, -, read⟩ := bind_eq_ok.mp read
  split at read
  · rename_i all
    cases read
    rw [fields, List.all_eq_true] at all
    have given := all part.field (List.mem_map_of_mem member)
    have keySeen : part.key ∈ seen := by simpa [Part.field, required] using given
    exact readMembers_given lawful fields member untouched List.not_mem_nil keySeen membersRead
  · cases read

theorem ofRecord_part {members : List (Except Fault String × Node)} {ending : Option Break}
    {result : ρ} (read : shape.ofRecord (levels + 1) (.record members ending) = .ok result) :
    (membersNamed part.key members = [] ∧ part.get result = part.get shape.blank) ∨
      ∃ node, membersNamed part.key members = [node] ∧
        part.decoder levels node = .ok (part.get result) := by
  obtain ⟨⟨held, seen⟩, membersRead, read⟩ := bind_eq_ok.mp read
  obtain ⟨-, -, read⟩ := bind_eq_ok.mp read
  split at read
  · cases read
    exact (readMembers_part lawful fields member untouched List.not_mem_nil membersRead).imp_left
      And.right
  · cases read

end Record

section Items

variable {before others : List (Part ρ)} {items : List Node} {ending : Option Break}
  {held result : ρ}

/-- Reading other parts leaves a part as it is. -/
theorem get_readItems_of_apart (apart : ∀ other ∈ others, other.Apart part)
    (inRange : ∀ item ∈ items, item.InRange)
    (read : Shape.readItems levels ending (others.map Part.field) items held = .ok result) :
    part.get result = part.get held := by
  refine @Shape.readItems_keeps ρ levels (fun other => part.get other = part.get held) _ ?_ _
    inRange _ _ _ rfl read
  intro field fieldMember held after node already _ stored
  obtain ⟨stranger, strangerMember, rfl⟩ := List.mem_map.mp fieldMember
  obtain ⟨content, -, rfl⟩ := map_eq_ok.mp stored
  exact ((apart stranger strangerMember held).1 content).trans already

/-- A part has the content of the item at its place, or is left as it was where the list is too
short. -/
theorem readItems_part (get_set : ∀ held content, part.get (part.set held content) = content)
    (front : ∀ other ∈ before, other.Apart part) (back : ∀ other ∈ others, other.Apart part)
    (inRange : ∀ item ∈ items, item.InRange)
    (read : Shape.readItems levels ending ((before ++ part :: others).map Part.field) items held =
      .ok result) :
    (items[before.length]? = none ∧ part.get result = part.get held) ∨
      ∃ node, items[before.length]? = some node ∧
        part.decoder levels node = .ok (part.get result) := by
  induction before generalizing items held with
  | nil =>
      cases items with
      | nil =>
          obtain ⟨-, -, read⟩ := bind_eq_ok.mp read
          split at read
          · cases read
          · exact .inl ⟨rfl, get_readItems_of_apart back inRange read⟩
      | cons node rest =>
          obtain ⟨next, stored, read⟩ := bind_eq_ok.mp read
          obtain ⟨content, contentRead, rfl⟩ := map_eq_ok.mp stored
          have later : ∀ item ∈ rest, item.InRange := fun item member =>
            inRange item (List.mem_cons_of_mem _ member)
          have kept : part.get result = content :=
            (get_readItems_of_apart back later read).trans (get_set held content)
          exact .inr ⟨node, rfl, kept ▸ contentRead⟩
  | cons first before ih =>
      obtain ⟨apart, front⟩ := List.forall_mem_cons.1 front
      cases items with
      | nil =>
          obtain ⟨-, -, read⟩ := bind_eq_ok.mp read
          split at read
          · cases read
          · rcases ih front inRange read with ⟨-, kept⟩ | ⟨node, absent, -⟩
            · exact .inl ⟨rfl, kept⟩
            · cases absent
      | cons node rest =>
          obtain ⟨next, stored, read⟩ := bind_eq_ok.mp read
          obtain ⟨content, -, rfl⟩ := map_eq_ok.mp stored
          have later : ∀ item ∈ rest, item.InRange := fun item member =>
            inRange item (List.mem_cons_of_mem _ member)
          rw [← (apart held).1 content]
          exact ih front later read

end Items

/-- The first part of a structure has the content of the first item of a list. -/
theorem readItems_first {others : List (Part ρ)} (lawful : Parts blank need (part :: others))
    (required : part.required = true) {items : List Node} (inRange : ∀ item ∈ items, item.InRange)
    {ending : Option Break} {held result : ρ}
    (read : Shape.readItems levels ending ((part :: others).map Part.field) items held =
      .ok result) :
    ∃ node rest, items = node :: rest ∧ part.decoder levels node = .ok (part.get result) := by
  cases items with
  | nil =>
      obtain ⟨-, -, read⟩ := bind_eq_ok.mp read
      rw [if_pos (show part.field.required = true from required)] at read
      cases read
  | cons node rest =>
      have back : ∀ other ∈ others, other.Apart part := fun other member =>
        ((List.pairwise_cons.mp lawful.apart).1 other member).symm
      have get_set := (lawful.faithful part List.mem_cons_self).get_set
      rcases readItems_part get_set (List.forall_mem_nil _) back inRange read with
        ⟨absent, -⟩ | ⟨found, place, contentRead⟩
      · cases absent
      · cases place
        exact ⟨node, rest, rfl, contentRead⟩

end Parts

end PackageSearch.Json
