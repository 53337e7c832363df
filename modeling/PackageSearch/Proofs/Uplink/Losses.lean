import Mathlib.Data.List.Basic
import PackageSearch.Proofs.Uplink.Batches
import PackageSearch.Proofs.Uplink.Objects

/-!
# Items that are lost

A body that ends well hands on what the scanner finds in it. The scanner passes over items that are
neither lists nor records, and compares the bytes of a key and not the text that they spell. So a
stream can end well without an item of the results, and then nothing tells of it.
-/

set_option autoImplicit false

namespace PackageSearch

/-! ## The list under a key -/

namespace Json.Syntax

/-- The text that parts spell, unless they hold half of a surrogate pair or are not UTF-8. -/
def text? (parts : List Part) : Option String :=
  match readText (spelling parts ++ [0x22]) with
  | .ok (.ok text, []) => some text
  | _ => none

def Items.nodes : Items → List Node
  | .nil => []
  | .cons _ item _ rest => item :: rest.nodes

/-- The members whose key is a given text, however it is spelled. -/
def Members.under (name : String) : Members → List (List Part × Node)
  | .nil => []
  | .cons _ key _ _ value _ rest =>
      if text? key = some name then (key, value) :: rest.under name else rest.under name

theorem Items.composites_eq (items : Items) :
    items.composites = items.nodes.filterMap Node.composite? := by
  match items with
  | .nil => rfl
  | .cons _ item _ rest =>
      rw [Items.composites, Items.nodes, rest.composites_eq, List.filterMap_cons]
      cases item.composite? with
      | none => rfl
      | some bytes => rfl

theorem Node.composite?_eq_some {node : Node} {bytes : Bytes}
    (composite : node.composite? = some bytes) : bytes = node.source := by
  cases node <;> cases composite <;> rfl

theorem Items.composites_of_forall {items : Items}
    (all : ∀ item ∈ items.nodes, item.composite?.isSome = true) :
    items.composites = items.nodes.map Node.source := by
  rw [composites_eq, List.filterMap_eq_map_iff_forall_eq_some]
  intro item member
  obtain ⟨bytes, composite⟩ := Option.isSome_iff_exists.1 (all item member)
  rw [composite, Node.composite?_eq_some composite]

theorem Items.forall_of_length_composites {items : Items}
    (same : items.composites.length = items.nodes.length) :
    ∀ item ∈ items.nodes, item.composite?.isSome = true := by
  intro item member
  rw [composites_eq] at same
  cases composite : item.composite? with
  | some bytes => rfl
  | none =>
      have fewer := List.length_filterMap_lt_length_iff_exists.2 ⟨item, member, composite⟩
      rw [same] at fewer
      exact absurd fewer (Nat.lt_irrefl _)

/-- The list of results is found exactly under the plain spelling of its key. -/
theorem Members.composites_of_under {members : Members} {wanted : Bytes} {name : String}
    (reads : ∀ key, spelling key = wanted → text? key = some name) :
    members.composites wanted = (members.under name).flatMap fun entry =>
      if spelling entry.1 = wanted then entry.2.composites else [] := by
  match members with
  | .nil => rfl
  | .cons _ key _ _ value _ rest =>
      rw [Members.composites, Members.under, rest.composites_of_under reads]
      by_cases named : text? key = some name
      · rw [if_pos named, List.flatMap_cons]
      · have differs : spelling key ≠ wanted := by
          intro same
          exact named (reads key same)
        rw [if_neg named, if_neg differs, List.nil_append]

end Json.Syntax

namespace Uplink

open Json.Syntax
open Package (Listing)

theorem text?_of_spelling_eq_objectsKey (key : List Part)
    (plain : spelling key = Scanner.objectsKey) : text? key = some "objects" := by
  rw [text?, plain]
  decide +kernel

theorem composites_objectsKey {members : Members} {key : List Part} {blanks : Blanks}
    {items : Items} (only : members.under "objects" = [(key, .list blanks items)]) :
    members.composites Scanner.objectsKey =
      if spelling key = Scanner.objectsKey then items.composites else [] := by
  rw [Members.composites_of_under text?_of_spelling_eq_objectsKey, only, List.flatMap_singleton]
  rfl

/-! ## Streams that lose nothing -/

theorem length_of_decodeElements? {elements : List Bytes} {listings : List Listing}
    (decoded : decodeElements? elements = some listings) : listings.length = elements.length := by
  induction elements generalizing listings with
  | nil =>
      cases decoded
      rfl
  | cons element rest ih =>
      rw [decodeElements?_cons] at decoded
      cases single : decodeElement element with
      | error fault => simp [single] at decoded
      | ok listing =>
          simp only [single, Option.map_eq_some_iff] at decoded
          obtain ⟨later, decoded, rfl⟩ := decoded
          rw [List.length_cons, List.length_cons, ih decoded]

theorem Delivery.stream_eq_ok {delivery : Delivery} {batches : List (List Listing)} :
    delivery.stream = batches.map .ok ↔ delivery.failure = none ∧ delivery.batches = batches := by
  obtain ⟨delivered, failure⟩ := delivery
  cases failure with
  | none =>
      let hand : List Listing → Except BatchFailure (List Listing) := .ok
      have same : Function.Injective (List.map hand) :=
        List.map_injective_iff.2 fun _ _ => Except.ok.inj
      rw [Delivery.stream, Option.toList_none, List.map_nil, List.append_nil]
      simpa using same.eq_iff
  | some failure =>
      constructor
      · intro clean
        have failed : .error failure ∈ (Delivery.mk delivered (some failure)).stream := by
          simp [Delivery.stream]
        rw [clean] at failed
        obtain ⟨batch, -, wrong⟩ := List.mem_map.1 failed
        cases wrong
      · rintro ⟨wrong, -⟩
        cases wrong

/-- A stream that ends well gives the elements, all of them and in order, and an element that does
not decode makes it end badly. -/
structure LosesNothing (body : BodyBatches) (elements : List Bytes) : Prop where
  whole : ∀ batches : List (List Listing), body.Streams (batches.map .ok) →
    decodeElements? elements = some batches.flatten
  noticed : decodeElements? elements = none →
    ∃ (batches : List (List Listing)) (place : DecodePlace),
      body.Streams (batches.map .ok ++ [.error (.decode place)])

/-- Nothing of a complete body is lost if what is found in it stands for the elements. -/
theorem losesNothing_iff {maxBatch : Nat} {chunks elements : List Bytes}
    (complete : (Scanner.start.feedChunks chunks).1.isComplete = true) :
    LosesNothing (BodyBatches.start maxBatch (bodyOf chunks false)) elements ↔
      ∀ listings, decodeElements? (Scanner.start.feedChunks chunks).2 = some listings →
        decodeElements? elements = some listings := by
  let delivery := deliver maxBatch (bodyOf chunks false)
  let found := (Scanner.start.feedChunks chunks).2
  have clean_iff : delivery.failure = none ↔ (decodeElements? found).isSome = true :=
    deliverFrom_failure_eq_none.trans (by simp [complete, found])
  have delivered {listings : List Listing} (decoded : decodeElements? found = some listings) :
      delivery.failure = none ∧ delivery.batches.flatten = listings := by
    have clean : delivery.failure = none := clean_iff.2 (Option.isSome_of_eq_some decoded)
    have hands := deliver_hands maxBatch chunks false
    exact ⟨clean, (hands.flatten_eq clean).trans (decodedUpToFault_eq decoded)⟩
  constructor
  · intro loses listings decoded
    obtain ⟨clean, rfl⟩ := delivered decoded
    apply loses.whole
    rw [BodyBatches.streams_iff, eq_comm, Delivery.stream_eq_ok]
    exact ⟨clean, rfl⟩
  · intro stands
    constructor
    · intro batches pulled
      rw [BodyBatches.streams_iff, eq_comm, Delivery.stream_eq_ok] at pulled
      obtain ⟨clean, rfl⟩ := pulled
      obtain ⟨listings, decoded⟩ := Option.isSome_iff_exists.1 (clean_iff.1 clean)
      rw [(delivered decoded).2]
      exact stands listings decoded
    · intro fault
      have failed : delivery.failure ≠ none := by
        intro clean
        obtain ⟨listings, decoded⟩ := Option.isSome_iff_exists.1 (clean_iff.1 clean)
        rw [stands listings decoded] at fault
        cases fault
      obtain ⟨place, failure⟩ := deliverFrom_failure_eq_decode failed
      have failure : delivery.failure = some (.decode place) := failure
      refine ⟨delivery.batches, place, ?_⟩
      rw [BodyBatches.streams_iff, Delivery.stream, failure]
      rfl

/-- Of a document with one list of results, in whatever chunks it comes, nothing is lost exactly if
the list is empty, or its key is spelled without escapes and no item is passed over, or such an item
does not matter because another one does not decode. -/
theorem losesNothing_document {document : Document} {key : List Part} {blanks : Blanks}
    {items : Items} (only : document.members.under "objects" = [(key, .list blanks items)])
    {chunks : List Bytes} (cut : chunks.flatten = document.source) (maxBatch : Nat) :
    LosesNothing (BodyBatches.start maxBatch (bodyOf chunks false))
        (items.nodes.map Node.source) ↔
      items.nodes = [] ∨
        (spelling key = Scanner.objectsKey ∧
          ((∀ item ∈ items.nodes, item.composite?.isSome = true) ∨
            decodeElements? items.composites = none)) := by
  obtain ⟨lastKey, reads⟩ := Scanner.reads_document document
  rw [← cut, composites_objectsKey only] at reads
  have fed := (Scanner.feedChunks_eq Scanner.start chunks).trans reads.feed_eq
  have complete : (Scanner.start.feedChunks chunks).1.isComplete = true := by
    rw [fed]
    rfl
  rw [losesNothing_iff complete, fed]
  constructor
  · intro stands
    by_cases plain : spelling key = Scanner.objectsKey
    · rw [if_pos plain] at stands
      refine .inr ⟨plain, ?_⟩
      cases decoded : decodeElements? items.composites with
      | none => exact .inr rfl
      | some listings =>
          -- As many listings come out as there are items, so none of these was passed over.
          refine .inl (Items.forall_of_length_composites ?_)
          have all := length_of_decodeElements? (stands listings decoded)
          rw [List.length_map] at all
          rw [← length_of_decodeElements? decoded, all]
    · rw [if_neg plain] at stands
      have all := length_of_decodeElements? (stands [] rfl)
      rw [List.length_map] at all
      exact .inl (List.eq_nil_of_length_eq_zero all.symm)
  · rintro (empty | ⟨plain, all | fault⟩) listings decoded
    · have none : items.composites = [] := by rw [Items.composites_eq, empty, List.filterMap_nil]
      rw [none, ite_self] at decoded
      rw [empty]
      exact decoded
    · rw [if_pos plain, Items.composites_of_forall all] at decoded
      exact decoded
    · rw [if_pos plain, fault] at decoded
      cases decoded

/-! ## Answers with one result -/

theorem isPlain_objectsKey : Scanner.objectsKey.all isPlain = true := by
  decide +kernel

def sampleKey : List Part :=
  Scanner.plainParts Scanner.objectsKey isPlain_objectsKey

theorem spelling_sampleKey : spelling sampleKey = Scanner.objectsKey := by
  decide +kernel

/-- The key `objects` with an escape for its first letter. -/
def escapedKey : List Part :=
  .unit ⟨0x30, rfl⟩ ⟨0x30, rfl⟩ ⟨0x36, rfl⟩ ⟨0x66, rfl⟩ ::
    Scanner.plainParts [0x62, 0x6a, 0x65, 0x63, 0x74, 0x73] rfl

def noBlanks : Blanks := ⟨[], List.all_nil⟩

/-- The number one, which is no result. -/
def sampleNumber : Node :=
  .number ⟨false, ⟨[0x31], rfl, List.cons_ne_nil _ _⟩, nofun, none, none⟩

/-- The result `{"package":{"name":"pad"}}`. -/
def sampleResult : Node :=
  let member (key : List Part) (value : Node) : Node :=
    .record noBlanks (.cons noBlanks key noBlanks noBlanks value noBlanks .nil)
  member (Scanner.plainParts [0x70, 0x61, 0x63, 0x6b, 0x61, 0x67, 0x65] rfl)
    (member (Scanner.plainParts [0x6e, 0x61, 0x6d, 0x65] rfl)
      (.text (Scanner.plainParts [0x70, 0x61, 0x64] rfl)))

def answerWith (key : List Part) (item : Node) : Document :=
  { before := noBlanks
    blanks := noBlanks
    members := .cons noBlanks key noBlanks noBlanks
      (.list noBlanks (.cons noBlanks item noBlanks .nil)) noBlanks .nil
    after := noBlanks }

theorem losesNothing_sampleResult :
    let document := answerWith sampleKey sampleResult
    let chunks := document.source.map fun byte => [byte]
    document.members.under "objects" =
        [(sampleKey, .list noBlanks (.cons noBlanks sampleResult noBlanks .nil))] ∧
      chunks.flatten = document.source ∧
      LosesNothing (BodyBatches.start 20 (bodyOf chunks false)) [sampleResult.source] := by
  intro document chunks
  have only : document.members.under "objects" =
      [(sampleKey, .list noBlanks (.cons noBlanks sampleResult noBlanks .nil))] := by
    have named := text?_of_spelling_eq_objectsKey sampleKey spelling_sampleKey
    simp [document, answerWith, Members.under, named]
  have cut : chunks.flatten = document.source := by decide +kernel
  refine ⟨only, cut, (losesNothing_document only cut 20).2 (.inr ⟨spelling_sampleKey, .inl ?_⟩)⟩
  intro item member
  rw [Items.nodes, Items.nodes, List.mem_singleton] at member
  rw [member]
  rfl

/-- A number under the plain key, and a result under the escaped one: the stream ends well and is
empty, and an item is lost. -/
theorem losesItems_silently :
    let body (document : Document) := BodyBatches.start 20 (bodyOf [document.source] false)
    let scalar := answerWith sampleKey sampleNumber
    let escaped := answerWith escapedKey sampleResult
    (text? sampleKey = some "objects" ∧ (body scalar).Streams [] ∧
        decodeElements? [sampleNumber.source] = none ∧
        ¬ LosesNothing (body scalar) [sampleNumber.source]) ∧
      text? escapedKey = some "objects" ∧ (body escaped).Streams [] ∧
        (decodeElements? [sampleResult.source]).isSome = true ∧
        ¬ LosesNothing (body escaped) [sampleResult.source] := by
  intro body scalar escaped
  have silent {document : Document}
      (nothing : (deliver 20 (bodyOf [document.source] false)).stream.isEmpty = true) :
      (body document).Streams [] :=
    BodyBatches.streams_iff.2 (List.isEmpty_iff.1 nothing).symm
  have lost {document : Document} {element : Bytes} (streams : (body document).Streams []) :
      ¬ LosesNothing (body document) [element] := by
    intro loses
    have none := length_of_decodeElements? (loses.whole [] streams)
    cases none
  have scalarSilent : (body scalar).Streams [] := silent (by decide +kernel)
  have escapedSilent : (body escaped).Streams [] := silent (by decide +kernel)
  refine ⟨⟨?_, scalarSilent, ?_, lost scalarSilent⟩, ?_, escapedSilent, ?_, lost escapedSilent⟩
  · exact text?_of_spelling_eq_objectsKey sampleKey spelling_sampleKey
  · have fails : (decodeElements? [sampleNumber.source]).isNone = true := by decide +kernel
    exact Option.isNone_iff_eq_none.1 fails
  · decide +kernel
  · decide +kernel

end Uplink

end PackageSearch
