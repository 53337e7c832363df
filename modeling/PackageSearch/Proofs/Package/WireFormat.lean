import Mathlib
import PackageSearch.Proofs.Package.Listings
import PackageSearch.Proofs.Package.Manifests
import PackageSearch.Query

/-!
# Documents read, written and read again

Queries, listings, pages of listings and manifests are read from documents and written back, compact
or indented. What is written is read again to the same value, and the package of a listing keeps the
members that have no field. The doubles in it are required to survive being written and read; all
other numbers are proved to.
-/

set_option autoImplicit false

namespace PackageSearch

open Json (Value Node Number Fault Decoder Parts Reads Rereads Layout)
open Json (decode bind_eq_ok map_eq_ok reads_natural)

namespace Query

def parts : List (Json.Part Query) :=
  let weight (number : Binary64) : Value := .number (.real number)
  [.always "text" true Decoder.text text (fun held text => { held with text }) .text,
    .always "size" true Decoder.natural size (fun held size => { held with size })
      (fun size => .number (.integer size)),
    .always "from" true Decoder.natural start (fun held start => { held with start })
      (fun start => .number (.integer start)),
    .given "quality" Decoder.real quality (fun held quality => { held with quality }) weight,
    .given "popularity" Decoder.real popularity (fun held popularity => { held with popularity })
      weight,
    .given "maintenance" Decoder.real maintenance
      (fun held maintenance => { held with maintenance }) weight]

theorem parts_lawful : Parts (ofText "") 0 parts where
  keys := by decide
  apart := by simp [parts, Json.Part.Apart, Json.Part.always, Json.Part.given]
  faithful := by
    have weight {get : Query → Option Binary64} {set : Query → Option Binary64 → Query}
        (key : String) (get_set : ∀ held content, get (set held content) = content)
        (initial : get (ofText "") = none) :
        (Json.Part.given key Decoder.real get set fun number => .number (.real number)).Faithful
          (ofText "") 0 :=
      .given Json.rereads_real (Nat.le_refl 0) (fun _ => by simp) get_set initial
    simp only [parts, List.forall_mem_cons]
    exact ⟨.text (fun _ _ => rfl) rfl,
      .always Json.rereads_natural (Nat.le_refl 0) (fun _ _ => rfl)
        fun levels _ => reads_natural (by decide) levels,
      .always Json.rereads_natural (Nat.le_refl 0) (fun _ _ => rfl)
        fun levels _ => reads_natural (by decide) levels,
      weight _ (fun _ _ => rfl) rfl, weight _ (fun _ _ => rfl) rfl, weight _ (fun _ _ => rfl) rfl,
      List.forall_mem_nil _⟩

theorem toValue_eq_parts :
    toValue = fun query => .record (parts.flatMap fun part => part.members query) := by
  funext query
  simp [toValue, parts]

theorem parts_determine : Json.Determine parts := by
  intro first second same
  cases first
  cases second
  simpa [parts, Json.Part.always, Json.Part.given] using same

theorem rereads : Rereads 1 shape.decoder toValue := by
  rw [toValue_eq_parts]
  exact parts_lawful.rereads parts_determine

end Query

/-! ## The types of documents -/

/-- What is read from documents and written to them. -/
inductive Wire where
  | query
  | listing
  | page
  | manifest

namespace Wire

abbrev Content : Wire → Type
  | query => Query
  | listing => Package.Listing
  | page => Package.ResultPage
  | manifest => Package.Manifest

def decoder : (wire : Wire) → Decoder wire.Content
  | query => Query.shape.decoder
  | listing => Package.Listing.shape.decoder
  | page => Package.ResultPage.shape.decoder
  | manifest => Package.Manifest.shape.decoder

def toValue : (wire : Wire) → wire.Content → Value
  | query => Query.toValue
  | listing => Package.Listing.toValue
  | page => Package.ResultPage.toValue
  | manifest => Package.Manifest.toValue

/-- Read a document and write what was read. -/
def rewrite (wire : Wire) (write : Value → String) (text : Bytes) : Except Fault Bytes :=
  (decode wire.decoder text).map fun content => (write (wire.toValue content)).toUTF8.toList

theorem rereads (wire : Wire) :
    ∃ need ≤ Json.maxLevels, Rereads need wire.decoder wire.toValue := by
  cases wire with
  | query => exact ⟨1, by decide, Query.rereads⟩
  | listing => exact ⟨3, by decide, Package.Listing.rereads⟩
  | page => exact ⟨5, by decide, Package.ResultPage.rereads⟩
  | manifest => exact ⟨5, by decide, Package.Manifest.rereads⟩

end Wire

/-! ## Texts that are read as what they were written for -/

/-- A double in a value survives being written and read; nothing is required of integers. -/
def Json.Number.Survives : Number → Prop
  | .integer _ => True
  | .real value => Json.Survives value

theorem Json.Number.Survives.legible {number : Number} (survives : number.Survives)
    (inRange : number.InRange) : number.Legible := by
  cases number with
  | integer value => exact Json.denotes_integer inRange
  | real value => exact Json.Survives.denotes survives

theorem Json.Value.AllNumbers.legible {value : Value} (survives : value.AllNumbers Number.Survives)
    (inRange : value.AllNumbers Number.InRange) : value.AllNumbers Number.Legible := by
  induction survives with
  | null => exact .null
  | boolean value => exact .boolean value
  | number holds => exact .number (holds.legible (number_iff.mp inRange))
  | text value => exact .text value
  | list all ih => exact .list fun item member => ih item member (list_iff.mp inRange item member)
  | record all ih =>
      exact .record fun entry member => ih entry member (record_iff.mp inRange entry member)

/-- Both written forms are the text of the value in some layout. -/
theorem written_bytes {write : Value → String}
    (form : write ∈ [Value.render, Value.renderIndented]) :
    ∃ layout : Layout, ∀ value : Value, (write value).toUTF8.toList = value.spelled layout 0 := by
  simp only [List.mem_cons, List.not_mem_nil, or_false] at form
  rcases form with rfl | rfl
  · exact ⟨.compact, fun value => Json.render_bytes value 0⟩
  · exact ⟨.indented, fun value => Json.renderAt_bytes value 0⟩

theorem reads_of_decode {α : Type} {decoder : Decoder α} {text : Bytes} {content : α}
    (read : decode decoder text = .ok content) :
    decoder Json.maxLevels (Json.Document.ofBytes text).root = .ok content := by
  obtain ⟨value, valueRead, ends⟩ := bind_eq_ok.mp read
  split at ends
  · cases ends
  · cases ends
    exact valueRead

theorem root_spelled (layout : Layout) {value : Value}
    (legible : value.AllNumbers Number.Legible) :
    (Json.Document.ofBytes (value.spelled layout 0)).root = value.tree :=
  Except.ok.inj
    (reads_of_decode (Json.decode_spelled layout (fun _ node => .ok node) legible))

/-! ## Members that a listing's summary does not know -/

/-- The package in the document of a listing: its member, or the first of its items. -/
def packageNode? : Node → Option Node
  | .record members _ => (Package.Location.membersNamed "package" members).head?
  | .list items _ => items.head?
  | _ => none

/-- The value of the last member under a key. -/
def lastValue? (key : String) (members : List (Except Fault String × Node)) :
    Option (Except Fault Value) :=
  (Package.Location.membersNamed key members).getLast?.map (Node.value Json.maxLevels)

/-- The keys that a summary has fields for. -/
def Package.Summary.knownKeys : List String :=
  fields.map Json.Field.key

example : Package.Summary.knownKeys = ["name", "scope", "version", "description", "displayName",
    "date", "links", "author", "publisher", "maintainer"] :=
  rfl

/-- A dictionary has one entry under a key. -/
theorem Dictionary.eq_of_mem {α : Type} {dictionary : Dictionary α} {first second : String × α}
    (firstMember : first ∈ dictionary.entries) (secondMember : second ∈ dictionary.entries)
    (same : first.1 = second.1) : first = second := by
  have distinct : (dictionary.entries.map Prod.fst).Nodup :=
    List.pairwise_map.mpr (dictionary.ascending.imp String.ne_of_lt)
  exact List.inj_on_of_nodup_map distinct firstMember secondMember same

namespace Package

open Json (membersNamed_cons_self mem_membersNamed)

namespace Listing

/-- The summary of a listing is read from the package in its document. -/
theorem exists_packageNode {levels : Nat} {node : Node} (inRange : node.InRange)
    {listing : Listing} (read : shape.decoder levels node = .ok listing) :
    ∃ inner package, levels = inner + 1 ∧ packageNode? node = some package ∧ package.InRange ∧
      Summary.decoder inner package = .ok listing.package := by
  obtain ⟨inner, rfl⟩ := Json.Shape.exists_inner read
  let first := Json.Part.always "package" true Summary.decoder Listing.package
    (fun held package => { held with package }) Summary.toValue
  have member : first ∈ parts := List.mem_cons_self
  have untouched : Parts.Untouched shape inner first := by
    intro key held after node skipped
    obtain ⟨-, -, rfl⟩ := map_eq_ok.mp skipped
    rfl
  cases inRange with
  | record ending all =>
      obtain ⟨package, only, packageRead⟩ :=
        Parts.ofRecord_given parts_lawful rfl member untouched rfl read
      have held := mem_membersNamed.mp (only ▸ List.mem_singleton_self package)
      exact ⟨inner, package, rfl, congrArg List.head? only, all _ held, packageRead⟩
  | list ending all =>
      obtain ⟨package, rest, rfl, packageRead⟩ := Parts.readItems_first parts_lawful rfl all read
      exact ⟨inner, package, rfl, rfl, all package List.mem_cons_self, packageRead⟩
  | _ => cases read

theorem packageNode?_tree (listing : Listing) :
    packageNode? listing.toValue.tree = some listing.package.toValue.tree := by
  simp [packageNode?, toValue, Value.tree, Json.memberTrees, membersNamed_cons_self]

end Listing

namespace Summary

theorem unknown_of_not_mem {key : String} (other : key ∉ knownKeys) : Unknown key := by
  refine List.find?_eq_none.mpr fun field member same => other ?_
  exact eq_of_beq same ▸ List.mem_map_of_mem member

/-- A summary is read from the members of a record. -/
theorem exists_members {levels : Nat} {node : Node} {summary : Summary}
    (read : decoder levels node = .ok summary) :
    ∃ inner members seen, levels = inner + 1 ∧ node = .record members none ∧
      shape.readMembers inner members [] blank = .ok (summary, seen) := by
  cases node with
  | record members ending =>
      cases levels with
      | zero => cases read
      | succ inner =>
          obtain ⟨⟨held, seen⟩, membersRead, ended⟩ := bind_eq_ok.mp read
          obtain ⟨closing, whole, last⟩ := bind_eq_ok.mp ended
          cases ending with
          | some place => cases whole
          | none =>
              split at last
              · cases last
                exact ⟨inner, members, seen, rfl, rfl, membersRead⟩
              · cases last
  | number value => cases value <;> cases read
  | text value => cases value <;> cases read
  | _ => cases read

theorem key_ne_of_unknown {key : String} (unknown : Unknown key) {summary : Summary}
    {entry : String × Value} (written : entry ∈ parts.flatMap fun part => part.members summary) :
    entry.1 ≠ key := by
  rintro rfl
  obtain ⟨part, member, held⟩ := List.mem_flatMap.mp written
  obtain ⟨value, -, rfl⟩ := Option.map_eq_some_iff.mp (Option.mem_toList.mp held)
  rw [Unknown, fields_eq_parts, parts_lawful.find?_key member] at unknown
  cases unknown

/-- What is kept is the only member under its key in what is written. -/
theorem getLast?_written {summary : Summary} {key : String} {value : Value}
    (unknown : Unknown key) (kept : (key, value) ∈ summary.extra.entries) :
    (Location.membersNamed key (Json.memberTrees
      ((parts.flatMap fun part => part.members summary) ++ summary.extra.entries))).getLast? =
        some value.tree := by
  generalize written : (parts.flatMap fun part => part.members summary) ++
    summary.extra.entries = entries
  have present : (key, value) ∈ entries := written ▸ List.mem_append_right _ kept
  have only : ∀ other, (key, other) ∈ entries → other = value := by
    intro other member
    rw [← written] at member
    rcases List.mem_append.mp member with known | extra
    · exact absurd rfl (key_ne_of_unknown unknown known)
    · cases Dictionary.eq_of_mem extra kept rfl
      rfl
  rw [Json.memberTrees_eq_map]
  cases last : (Location.membersNamed key
      (entries.map fun entry => (.ok entry.1, entry.2.tree))).getLast? with
  | none =>
      have presentTree : (.ok key, value.tree) ∈
          entries.map fun entry => ((.ok entry.1 : Except Fault String), entry.2.tree) :=
        List.mem_map.mpr ⟨(key, value), present, rfl⟩
      have named := mem_membersNamed.mpr presentTree
      rw [List.getLast?_eq_none_iff.mp last] at named
      cases named
  | some node =>
      have named := mem_membersNamed.mp (List.mem_of_getLast? last)
      obtain ⟨⟨name, other⟩, member, same⟩ := List.mem_map.mp named
      cases same
      rw [only other member]

end Summary

/-- The package of a written listing keeps the members without a field, with their values. -/
theorem Listing.keeps_unknown {text written : Bytes} {listing : Listing}
    (read : shape.decoder Json.maxLevels (Json.Document.ofBytes text).root = .ok listing)
    (tree : (Json.Document.ofBytes written).root = listing.toValue.tree) :
    ∃ members kept, packageNode? (Json.Document.ofBytes text).root = some (.record members none) ∧
      packageNode? (Json.Document.ofBytes written).root = some (.record kept none) ∧
      ∀ key ∉ Summary.knownKeys, ∀ found, lastValue? key members = some found →
        ∃ value, found = .ok value ∧ lastValue? key kept = some (.ok value) := by
  obtain ⟨inner, package, levels, packageNode, packageInRange, packageRead⟩ :=
    exists_packageNode (Json.Document.inRange text) read
  obtain ⟨below, members, seen, less, rfl, membersRead⟩ := Summary.exists_members packageRead
  have packageAgain := (congrArg packageNode? tree).trans (packageNode?_tree listing)
  rw [Summary.toValue_eq_parts, Value.tree] at packageAgain
  refine ⟨members, _, packageNode, packageAgain, ?_⟩
  intro key other found last
  obtain ⟨node, lastNode, rfl⟩ := Option.map_eq_some_iff.mp last
  have unknown := Summary.unknown_of_not_mem other
  obtain ⟨value, valueRead, kept⟩ := Summary.mem_extra_of_last unknown lastNode membersRead
  have inRange : node.InRange := by
    cases packageInRange with
    | record ending all => exact all _ (mem_membersNamed.mp (List.mem_of_getLast? lastNode))
  have readAnywhere : node.value Json.maxLevels = .ok value :=
    Json.value_of_le inRange valueRead (by omega)
  refine ⟨value, readAnywhere, ?_⟩
  rw [lastValue?, Summary.getLast?_written unknown kept, Option.map_some,
    (Json.value_reread inRange readAnywhere).1]

end Package

/-! ## Reading after writing -/

/-- A document that is read is written to one that is read the same, and rewriting that changes
nothing. Of a listing's package, whatever has no field is kept: the last member under such a key has
a value, and in what is written that value stands under the key. -/
theorem Wire.rewriting (wire : Wire) {text : Bytes} {content : wire.Content}
    (read : decode wire.decoder text = .ok content)
    (survives : (wire.toValue content).AllNumbers Number.Survives) {write : Value → String}
    (form : write ∈ [Value.render, Value.renderIndented]) :
    let written := (write (wire.toValue content)).toUTF8.toList
    decode wire.decoder written = .ok content ∧ wire.rewrite write written = .ok written ∧
      (wire = .listing → ∃ members kept,
        packageNode? (Json.Document.ofBytes text).root = some (.record members none) ∧
        packageNode? (Json.Document.ofBytes written).root = some (.record kept none) ∧
        ∀ key ∉ Package.Summary.knownKeys, ∀ found, lastValue? key members = some found →
          ∃ value, found = .ok value ∧ lastValue? key kept = some (.ok value)) := by
  obtain ⟨need, enough, again⟩ := wire.rereads
  obtain ⟨layout, bytes⟩ := written_bytes form
  have root := reads_of_decode read
  have inRange := Json.Document.inRange text
  have reads : Reads wire.decoder Json.maxLevels content := ⟨_, inRange, root⟩
  have legible := survives.legible (again.inRange enough reads)
  have back : decode wire.decoder (write (wire.toValue content)).toUTF8.toList = .ok content := by
    rw [bytes, Json.decode_spelled layout wire.decoder legible]
    exact again.reread enough reads
  refine ⟨back, map_eq_ok.mpr ⟨content, back, rfl⟩, ?_⟩
  rintro rfl
  have tree : (Json.Document.ofBytes (write content.toValue).toUTF8.toList).root =
      content.toValue.tree := by
    rw [bytes]
    exact root_spelled layout legible
  exact Package.Listing.keeps_unknown root tree

/-- A listing whose package has a member without a field, twice. -/
def Package.repeatedMember : Value :=
  .record [("searchScore", .number (.real Binary64.zero)),
    ("package", .record [("name", .text "left-pad"), ("stars", .number (.integer 1)),
      ("author", .null), ("stars", .list [.number (.real ⟨0x3fe0000000000000⟩), .null])])]

theorem Wire.rewriting_repeatedMember :
    let text := Package.repeatedMember.render.toUTF8.toList
    let stars : Value := .list [.number (.real ⟨0x3fe0000000000000⟩), .null]
    let listing := { Package.Listing.blank with
      package := { Package.Summary.blank with
        name := "left-pad"
        extra := Dictionary.empty.insert "stars" stars } }
    let written := listing.toValue.renderIndented.toUTF8.toList
    decode Wire.listing.decoder text = .ok listing ∧
      listing.toValue.AllNumbers Number.Survives ∧
      Value.renderIndented ∈ [Value.render, Value.renderIndented] ∧
      decode Wire.listing.decoder written = .ok listing ∧
      Wire.listing.rewrite Value.renderIndented written = .ok written ∧
      ∃ members kept,
        packageNode? (Json.Document.ofBytes text).root = some (.record members none) ∧
        packageNode? (Json.Document.ofBytes written).root = some (.record kept none) ∧
        lastValue? "stars" members = some (.ok stars) ∧
        lastValue? "stars" kept = some (.ok stars) := by
  intro text stars listing written
  have zero : Json.Survives Binary64.zero := by decide +kernel
  have half : Json.Survives ⟨0x3fe0000000000000⟩ := by decide +kernel
  have legible : Package.repeatedMember.AllNumbers Number.Legible := by
    have zeroText : (Number.real .zero).Legible := zero.denotes
    have halfText : (Number.real ⟨0x3fe0000000000000⟩).Legible := half.denotes
    have oneText : (Number.integer 1).Legible := Json.denotes_integer ⟨by decide, by decide⟩
    simp [Package.repeatedMember, zeroText, halfText, oneText]
  have bytes : text = Package.repeatedMember.spelled .compact 0 := Json.render_bytes _ 0
  have read : decode Wire.listing.decoder text = .ok listing := by
    rw [bytes, Json.decode_spelled .compact Wire.listing.decoder legible]
    rfl
  have survives : listing.toValue.AllNumbers Number.Survives := by
    have zeroSurvives : (Number.real .zero).Survives := zero
    have halfSurvives : (Number.real ⟨0x3fe0000000000000⟩).Survives := half
    simp [listing, stars, Package.Listing.toValue, Package.Listing.blank, Package.Summary.toValue,
      Package.Summary.blank, Package.Links.toValue, Package.Links.blank, Package.Score.toValue,
      Package.Score.blank, Package.ScoreDetail.toValue, Package.ScoreDetail.blank,
      Package.realValue, Json.optionalMember, Dictionary.insert, Dictionary.empty, insertEntry,
      zeroSurvives, halfSurvives]
  have form : Value.renderIndented ∈ [Value.render, Value.renderIndented] := by simp
  obtain ⟨again, rewritten, keeps⟩ := Wire.rewriting .listing read survives form
  obtain ⟨members, kept, package, packageAgain, values⟩ := keeps rfl
  refine ⟨read, survives, form, again, rewritten, members, kept, package, packageAgain, ?_⟩
  have found : lastValue? "stars" members = some (.ok stars) := by
    rw [bytes, root_spelled .compact legible] at package
    cases package
    rfl
  obtain ⟨value, same, keptValue⟩ := values "stars" (by decide) _ found
  cases same
  exact ⟨found, keptValue⟩

end PackageSearch
