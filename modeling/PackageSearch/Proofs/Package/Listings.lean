import Mathlib
import PackageSearch.Proofs.Json.Members
import PackageSearch.Proofs.Package.People
import PackageSearch.Package.Listing

/-!
# Listings read again

What is read as a listing or as a page of listings is read again from what is written for it. A
summary keeps the members that it does not know. They are written behind the known ones in the order
of their keys, so that they are taken for unknown members again and are put in the same order.
-/

set_option autoImplicit false

namespace PackageSearch.Package

open Json (Value Node Fault Decoder Parts Held Reads Rereads)
open Json (bind_eq_ok map_eq_ok memberTrees rereads_real rereads_boolean rereads_natural
  reads_zero reads_natural membersNamed_cons_self membersNamed_cons_of_ne)
open Location (membersNamed)

namespace Links

def parts : List (Json.Part Links) :=
  [.always "npm" false Decoder.text npm (fun held npm => { held with npm }) .text,
    .given "homepage" Decoder.text homepage (fun held homepage => { held with homepage }) .text,
    .given "repository" Decoder.text repository
      (fun held repository => { held with repository }) .text,
    .given "bugs" Decoder.text bugs (fun held bugs => { held with bugs }) .text]

theorem parts_lawful : Parts blank 0 parts where
  keys := by decide
  apart := by simp [parts, Json.Part.Apart, Json.Part.always, Json.Part.given]
  faithful := by
    simp only [parts, List.forall_mem_cons]
    exact ⟨.text (fun _ _ => rfl) rfl, .givenText (fun _ _ => rfl) rfl,
      .givenText (fun _ _ => rfl) rfl, .givenText (fun _ _ => rfl) rfl, List.forall_mem_nil _⟩

theorem toValue_eq_parts :
    toValue = fun links => .record (parts.flatMap fun part => part.members links) := by
  funext links
  simp [toValue, parts]

theorem parts_determine : Json.Determine parts := by
  intro first second same
  cases first
  cases second
  simpa [parts, Json.Part.always, Json.Part.given] using same

theorem rereads : Rereads 1 shape.decoder toValue := by
  rw [toValue_eq_parts]
  exact parts_lawful.rereads parts_determine

end Links

namespace Flags

def parts : List (Json.Part Flags) :=
  [.given "unstable" Decoder.boolean unstable (fun _ unstable => { unstable }) .boolean]

theorem parts_lawful : Parts shape.blank 0 parts where
  keys := by decide
  apart := List.pairwise_singleton _ _
  faithful := by
    simp only [parts, List.forall_mem_cons]
    exact ⟨.given rereads_boolean (Nat.zero_le _) (fun _ => by simp) (fun _ _ => rfl) rfl,
      List.forall_mem_nil _⟩

theorem toValue_eq_parts :
    toValue = fun flags => .record (parts.flatMap fun part => part.members flags) := by
  funext flags
  simp [toValue, parts]

theorem parts_determine : Json.Determine parts := by
  intro first second same
  cases first
  cases second
  simpa [parts, Json.Part.given] using same

theorem rereads : Rereads 1 shape.decoder toValue := by
  rw [toValue_eq_parts]
  exact parts_lawful.rereads parts_determine

end Flags

namespace ScoreDetail

def parts : List (Json.Part ScoreDetail) :=
  [.always "quality" true Decoder.real quality (fun held quality => { held with quality })
      realValue,
    .always "popularity" true Decoder.real popularity
      (fun held popularity => { held with popularity }) realValue,
    .always "maintenance" true Decoder.real maintenance
      (fun held maintenance => { held with maintenance }) realValue]

theorem parts_lawful : Parts blank 0 parts where
  keys := by decide
  apart := by simp [parts, Json.Part.Apart, Json.Part.always]
  faithful := by
    have real {get : ScoreDetail → Binary64} {set : ScoreDetail → Binary64 → ScoreDetail}
        (key : String) (get_set : ∀ held content, get (set held content) = content)
        (initial : get blank = .zero) :
        (Json.Part.always key true Decoder.real get set realValue).Faithful blank 0 :=
      .always rereads_real (Nat.le_refl 0) get_set fun levels _ => initial ▸ reads_zero levels
    simp only [parts, List.forall_mem_cons]
    exact ⟨real _ (fun _ _ => rfl) rfl, real _ (fun _ _ => rfl) rfl, real _ (fun _ _ => rfl) rfl,
      List.forall_mem_nil _⟩

theorem parts_determine : Json.Determine parts := by
  intro first second same
  cases first
  cases second
  simpa [parts, Json.Part.always] using same

theorem rereads : Rereads 1 shape.decoder toValue :=
  parts_lawful.rereads parts_determine

end ScoreDetail

namespace Score

def parts : List (Json.Part Score) :=
  [.always "final" true Decoder.real total (fun held total => { held with total }) realValue,
    .always "detail" true ScoreDetail.shape.decoder detail
      (fun held detail => { held with detail }) ScoreDetail.toValue]

theorem parts_lawful : Parts blank 1 parts where
  keys := by decide
  apart := by simp [parts, Json.Part.Apart, Json.Part.always]
  faithful := by
    simp only [parts, List.forall_mem_cons]
    exact ⟨.always rereads_real (Nat.zero_le _) (fun _ _ => rfl) fun levels _ => reads_zero levels,
      .always ScoreDetail.rereads (Nat.le_refl _) (fun _ _ => rfl)
        fun _ enough => ScoreDetail.parts_lawful.reads_blank ScoreDetail.parts_determine enough,
      List.forall_mem_nil _⟩

theorem parts_determine : Json.Determine parts := by
  intro first second same
  cases first
  cases second
  simpa [parts, Json.Part.always] using same

theorem rereads : Rereads 2 shape.decoder toValue :=
  parts_lawful.rereads parts_determine

end Score

/-! ## Summaries -/

namespace Summary

def parts : List (Json.Part Summary) :=
  [.always "name" true Decoder.text name (fun held name => { held with name }) .text,
    .always "scope" false Decoder.text scope (fun held scope => { held with scope }) .text,
    .always "version" false Decoder.text version (fun held version => { held with version }) .text,
    .given "description" Decoder.text description
      (fun held description => { held with description }) .text,
    .given "displayName" Decoder.text displayName
      (fun held displayName => { held with displayName }) .text,
    .always "date" false Decoder.text date (fun held date => { held with date }) .text,
    .always "links" false Links.shape.decoder links (fun held links => { held with links })
      Links.toValue,
    .given "author" Person.decoder author (fun held author => { held with author })
      Person.toValue,
    .given "publisher" Contact.shape.decoder publisher
      (fun held publisher => { held with publisher }) Contact.toValue,
    .given "maintainer" Contact.shape.decoder maintainer
      (fun held maintainer => { held with maintainer }) Contact.toValue]

theorem parts_lawful : Parts blank 1 parts where
  keys := by decide
  apart := by simp [parts, Json.Part.Apart, Json.Part.always, Json.Part.given]
  faithful := by
    have contact {get : Summary → Option Contact} {set : Summary → Option Contact → Summary}
        (key : String) (get_set : ∀ held content, get (set held content) = content)
        (initial : get blank = none) :
        (Json.Part.given key Contact.shape.decoder get set Contact.toValue).Faithful blank 1 :=
      .given Contact.rereads (Nat.le_refl 1) (fun _ => by simp [Contact.toValue]) get_set initial
    simp only [parts, List.forall_mem_cons]
    exact ⟨.text (fun _ _ => rfl) rfl, .text (fun _ _ => rfl) rfl, .text (fun _ _ => rfl) rfl,
      .givenText (fun _ _ => rfl) rfl, .givenText (fun _ _ => rfl) rfl,
      .text (fun _ _ => rfl) rfl,
      .always Links.rereads (Nat.le_refl _) (fun _ _ => rfl)
        fun _ enough => Links.parts_lawful.reads_blank Links.parts_determine enough,
      .given Person.rereads (Nat.zero_le _) Person.toValue_ne_null (fun _ _ => rfl) rfl,
      contact _ (fun _ _ => rfl) rfl, contact _ (fun _ _ => rfl) rfl, List.forall_mem_nil _⟩

theorem fields_eq_parts : shape.fields = parts.map Json.Part.field := rfl

theorem toValue_eq_parts (summary : Summary) :
    summary.toValue =
      .record ((parts.flatMap fun part => part.members summary) ++ summary.extra.entries) := by
  simp [toValue, parts]

theorem ext_parts {first second : Summary}
    (same : ∀ part ∈ parts, part.get first = part.get second)
    (extra : first.extra = second.extra) : first = second := by
  cases first
  cases second
  simp only [parts, Json.Part.always, Json.Part.given, List.forall_mem_cons] at same
  simp_all

/-- No part reaches the members that are not known. -/
theorem extra_set : ∀ part ∈ parts, ∀ held content, (part.set held content).extra = held.extra := by
  simp [parts, Json.Part.always, Json.Part.given]

theorem get_extra : ∀ part ∈ parts, ∀ (held : Summary) extra,
    part.get { held with extra } = part.get held := by
  simp [parts, Json.Part.always, Json.Part.given]

def Unknown (key : String) : Prop :=
  (shape.fields.find? fun field => field.key == key) = none

/-- A summary that was read: each field from its decoder, and values under keys that no field
has. -/
structure Kept (levels : Nat) (held : Summary) : Prop where
  contents : Held parts levels held
  unknown : ∀ entry ∈ held.extra.entries, Unknown entry.1 ∧ Reads Decoder.value levels entry.2

theorem kept_of_read {levels : Nat} (enough : 1 ≤ levels) {node : Node} (inRange : node.InRange)
    {summary : Summary} (read : decoder (levels + 1) node = .ok summary) : Kept levels summary := by
  have start : Kept levels shape.blank :=
    ⟨parts_lawful.held_blank enough, fun entry none => nomatch none⟩
  refine Json.Shape.ofRecord_keeps ?_ ?_ start inRange read
  · intro field member held after node kept inRange stored
    rw [fields_eq_parts] at member
    refine ⟨parts_lawful.held_store member kept.contents inRange stored, ?_⟩
    obtain ⟨part, partMember, rfl⟩ := List.mem_map.mp member
    obtain ⟨content, -, rfl⟩ := map_eq_ok.mp stored
    rw [extra_set part partMember]
    exact kept.unknown
  · intro key held after node other kept inRange inserted
    obtain ⟨value, read, rfl⟩ := map_eq_ok.mp inserted
    refine ⟨fun part member => ?_, fun entry later => ?_⟩
    · rw [get_extra part member]
      exact kept.contents part member
    · rcases mem_insertEntry later with same | earlier
      · subst same
        exact ⟨other, node, inRange, read⟩
      · exact kept.unknown entry earlier

/-- Members that are not known are kept one after the other. -/
theorem readMembers_unknown {levels : Nat} {entries : List (String × Value)}
    (all : ∀ entry ∈ entries, Unknown entry.1 ∧ Reads Decoder.value levels entry.2)
    (seen : List String) (held : Summary) :
    shape.readMembers levels (memberTrees entries) seen held =
      .ok ({ held with
        extra := entries.foldl (fun extra entry => extra.insert entry.1 entry.2) held.extra },
        seen) := by
  induction entries generalizing held with
  | nil => rfl
  | cons entry rest ih =>
      obtain ⟨key, value⟩ := entry
      obtain ⟨unknown, reads⟩ := all (key, value) List.mem_cons_self
      have read : value.tree.value levels = .ok value :=
        Json.rereads_value.reread (Nat.zero_le _) reads
      have kept : shape.other levels held key value.tree =
          .ok { held with extra := held.extra.insert key value } :=
        map_eq_ok.mpr ⟨value, read, rfl⟩
      rw [Unknown] at unknown
      simp only [memberTrees, Json.Shape.readMembers, bind, Except.bind, unknown, kept]
      exact ih (fun other member => all other (List.mem_cons_of_mem _ member)) _

/-- What is kept under a key stays when no further member has that key. -/
theorem mem_extra_of_absent {levels : Nat} {members : List (Except Fault String × Node)}
    {seen after : List String} {held result : Summary} {entry : String × Value}
    (kept : entry ∈ held.extra.entries) (absent : membersNamed entry.1 members = [])
    (read : shape.readMembers levels members seen held = .ok (result, after)) :
    entry ∈ result.extra.entries := by
  induction members generalizing seen held with
  | nil =>
      cases read
      exact kept
  | cons member rest ih =>
      obtain ⟨name, node⟩ := member
      obtain ⟨key, rfl, stepped⟩ := bind_eq_ok.mp read
      have other : key ≠ entry.1 := by
        rintro rfl
        rw [membersNamed_cons_self] at absent
        cases absent
      rw [membersNamed_cons_of_ne other] at absent
      split at stepped
      · obtain ⟨next, inserted, read⟩ := bind_eq_ok.mp stepped
        obtain ⟨value, -, rfl⟩ := map_eq_ok.mp inserted
        exact ih (Dictionary.mem_insert_of_ne value kept (Ne.symm other)) absent read
      · rename_i field found
        split at stepped
        · cases stepped
        · obtain ⟨next, stored, read⟩ := bind_eq_ok.mp stepped
          have fieldMember := List.mem_of_find?_eq_some found
          rw [fields_eq_parts] at fieldMember
          obtain ⟨part, partMember, rfl⟩ := List.mem_map.mp fieldMember
          obtain ⟨content, -, rfl⟩ := map_eq_ok.mp stored
          exact ih (by rwa [extra_set part partMember]) absent read

/-- The last member under a key that no field has is read as a value and kept. -/
theorem mem_extra_of_last {levels : Nat} {members : List (Except Fault String × Node)}
    {seen after : List String} {held result : Summary} {key : String} {node : Node}
    (unknown : Unknown key) (last : (membersNamed key members).getLast? = some node)
    (read : shape.readMembers levels members seen held = .ok (result, after)) :
    ∃ value, node.value levels = .ok value ∧ (key, value) ∈ result.extra.entries := by
  induction members generalizing seen held with
  | nil => cases last
  | cons member rest ih =>
      obtain ⟨name, first⟩ := member
      obtain ⟨given, rfl, stepped⟩ := bind_eq_ok.mp read
      by_cases same : given = key
      · subst same
        rw [Unknown] at unknown
        rw [unknown] at stepped
        obtain ⟨next, inserted, read⟩ := bind_eq_ok.mp stepped
        rw [membersNamed_cons_self] at last
        cases further : membersNamed given rest with
        | cons second others =>
            rw [further, List.getLast?_cons_cons, ← further] at last
            exact ih last read
        | nil =>
            rw [further] at last
            cases last
            obtain ⟨value, valueRead, rfl⟩ := map_eq_ok.mp inserted
            exact ⟨value, valueRead,
              mem_extra_of_absent (Dictionary.mem_insert_self _ given value) further read⟩
      · rw [membersNamed_cons_of_ne same] at last
        split at stepped
        · obtain ⟨next, -, read⟩ := bind_eq_ok.mp stepped
          exact ih last read
        · split at stepped
          · cases stepped
          · obtain ⟨next, -, read⟩ := bind_eq_ok.mp stepped
            exact ih last read

theorem extra_copyAll (source : Summary) {others : List (Json.Part Summary)}
    (known : others ⊆ parts)
    (held : Summary) : (others.foldl (Json.Part.copy source) held).extra = held.extra := by
  induction others generalizing held with
  | nil => rfl
  | cons part rest ih =>
      rw [List.foldl_cons, ih fun other member => known (List.mem_cons_of_mem _ member)]
      unfold Json.Part.copy
      split
      · exact extra_set part (known List.mem_cons_self) held _
      · rfl

theorem rereads : Rereads 2 decoder toValue := by
  constructor
  · rintro levels summary enough ⟨node, inRange, read⟩
    obtain ⟨inner, rfl⟩ := Nat.exists_eq_add_of_le' (Nat.le_of_succ_le enough)
    have room := Nat.le_of_succ_le_succ enough
    obtain ⟨contents, unknown⟩ := kept_of_read room inRange read
    -- The other members stand in ascending order, so inserting them gives the dictionary back.
    have behind := readMembers_unknown unknown (Parts.writtenKeys parts summary).reverse
      (parts.foldl (Json.Part.copy summary) blank)
    have same : { parts.foldl (Json.Part.copy summary) blank with
        extra := summary.extra.entries.foldl (fun extra entry => extra.insert entry.1 entry.2)
          (parts.foldl (Json.Part.copy summary) blank).extra } = summary := by
      apply ext_parts
      · intro part member
        rw [get_extra part member]
        exact parts_lawful.get_copyAll summary part member
      · rw [extra_copyAll summary (List.Subset.refl parts)]
        exact summary.extra.ofList_entries
    rw [same] at behind
    have again := parts_lawful.ofRecord_written fields_eq_parts rfl room contents behind
    rw [Json.memberTrees_eq_map, Json.memberTrees_eq_map, ← List.map_append] at again
    rw [toValue_eq_parts, Value.tree, Json.memberTrees_eq_map]
    exact again
  · rintro levels summary enough ⟨node, inRange, read⟩
    obtain ⟨inner, rfl⟩ := Nat.exists_eq_add_of_le' (Nat.le_of_succ_le enough)
    have room := Nat.le_of_succ_le_succ enough
    obtain ⟨contents, unknown⟩ := kept_of_read room inRange read
    rw [toValue_eq_parts]
    refine .record fun entry member => ?_
    rcases List.mem_append.mp member with known | other
    · exact parts_lawful.inRange_written room contents entry known
    · exact Json.rereads_value.inRange (Nat.zero_le _) (unknown entry other).2

theorem reads_blank {levels : Nat} (enough : 2 ≤ levels) : Reads decoder levels blank := by
  obtain ⟨inner, rfl⟩ := Nat.exists_eq_add_of_le' (Nat.le_of_succ_le enough)
  refine ⟨.record [(.ok "name", .text (.ok ""))] none, .record _ ?_, rfl⟩
  simpa using .text _

end Summary

namespace Listing

def parts : List (Json.Part Listing) :=
  [.always "package" true Summary.decoder package (fun held package => { held with package })
      Summary.toValue,
    .given "flags" Flags.shape.decoder flags (fun held flags => { held with flags }) Flags.toValue,
    .always "local" false Decoder.boolean isLocal (fun held isLocal => { held with isLocal })
      .boolean,
    .always "score" false Score.shape.decoder score (fun held score => { held with score })
      Score.toValue,
    .always "searchScore" false Decoder.real searchScore
      (fun held searchScore => { held with searchScore }) realValue]

theorem parts_lawful : Parts blank 2 parts where
  keys := by decide
  apart := by simp [parts, Json.Part.Apart, Json.Part.always, Json.Part.given]
  faithful := by
    simp only [parts, List.forall_mem_cons]
    exact ⟨.always Summary.rereads (Nat.le_refl _) (fun _ _ => rfl)
        fun _ enough => Summary.reads_blank enough,
      .given Flags.rereads (by decide) (fun _ => by simp [Flags.toValue]) (fun _ _ => rfl) rfl,
      .always rereads_boolean (Nat.zero_le _) (fun _ _ => rfl)
        fun _ _ => ⟨.boolean false, .boolean _, rfl⟩,
      .always Score.rereads (Nat.le_refl _) (fun _ _ => rfl)
        fun _ enough => Score.parts_lawful.reads_blank Score.parts_determine enough,
      .always rereads_real (Nat.zero_le _) (fun _ _ => rfl) fun levels _ => reads_zero levels,
      List.forall_mem_nil _⟩

theorem toValue_eq_parts :
    toValue = fun listing => .record (parts.flatMap fun part => part.members listing) := by
  funext listing
  simp [toValue, parts]

theorem parts_determine : Json.Determine parts := by
  intro first second same
  cases first
  cases second
  simpa [parts, Json.Part.always, Json.Part.given] using same

theorem rereads : Rereads 3 shape.decoder toValue := by
  rw [toValue_eq_parts]
  exact parts_lawful.rereads parts_determine

end Listing

namespace ResultPage

def parts : List (Json.Part ResultPage) :=
  [.always "objects" true (Decoder.list Listing.shape.decoder) objects
      (fun held objects => { held with objects })
      (fun objects => .list (objects.map Listing.toValue)),
    .always "total" true Decoder.natural total (fun held total => { held with total })
      (fun total => .number (.integer total)),
    .always "time" true Decoder.text time (fun held time => { held with time }) .text]

theorem parts_lawful : Parts blank 4 parts where
  keys := by decide
  apart := by simp [parts, Json.Part.Apart, Json.Part.always]
  faithful := by
    simp only [parts, List.forall_mem_cons]
    exact ⟨.always Listing.rereads.list (Nat.le_refl _) (fun _ _ => rfl)
        fun _ enough => Json.reads_noItems _ (by omega),
      .always rereads_natural (Nat.zero_le _) (fun _ _ => rfl)
        fun levels _ => reads_natural (by decide) levels,
      .text (fun _ _ => rfl) rfl, List.forall_mem_nil _⟩

theorem parts_determine : Json.Determine parts := by
  intro first second same
  cases first
  cases second
  simpa [parts, Json.Part.always] using same

theorem rereads : Rereads 5 shape.decoder toValue :=
  parts_lawful.rereads parts_determine

end ResultPage

end PackageSearch.Package
