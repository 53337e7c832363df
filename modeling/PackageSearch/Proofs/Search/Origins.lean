import PackageSearch.Proofs.Search.Answer
import PackageSearch.Proofs.Uplink.Elements

/-!
# Where the objects of an answer come from

What arrives in a search carries its source. Selecting the objects of the answer keeps the sources,
so each object is a record of the local store, lifted, or is decoded from an element that an uplink
sent. Records are marked as local. Elements say of themselves whether they are, and nothing takes
the mark away.
-/

set_option autoImplicit false

namespace PackageSearch

open Access (Identity Oracle)
open Merge
open Package (Listing)
open Uplink (Exchange decodeElement)

/-! ## Objects and their sources -/

/-- What a message brings, each listing with its source. -/
def Merge.Message.traced (message : Message) : List (SourceId × Listing) :=
  (message.item?.elim [] Item.listings).map fun listing => (message.source, listing)

def tracedListings (arrivals : List Message) : List (SourceId × Listing) :=
  arrivals.flatMap Message.traced

/-- The objects of the answer, selected as in `answerTo`, each with its source. -/
def tracedAnswer (query : Query) (oracle : Oracle) (identity : Identity)
    (delivered : List (SourceId × Listing)) : List (SourceId × Listing) :=
  (((delivered.filter fun entry => (Matcher.compile query.text).accepts entry.2.package).eraseDupsBy
      fun left right => sameName left.2 right.2).filter
    fun entry => oracle.grants identity entry.2.name).extract query.start query.size

theorem map_snd_tracedListings (arrivals : List Message) :
    (tracedListings arrivals).map Prod.snd = deliveredListings arrivals := by
  induction arrivals with
  | nil => rfl
  | cons message rest ih =>
      rw [tracedListings, List.flatMap_cons, List.map_append, ← tracedListings, ih]
      cases message with
      | item source item => simp [Message.traced, Message.item?, deliveredListings]
      | failed source failure => rfl
      | done source => rfl

section Selection

variable (query : Query) (oracle : Oracle) (identity : Identity)
  (delivered : List (SourceId × Listing))

theorem map_snd_tracedAnswer :
    (tracedAnswer query oracle identity delivered).map Prod.snd =
      answerTo query oracle identity (delivered.map Prod.snd) := by
  rw [answerTo, candidates, List.filter_map,
    ← map_eraseDupsBy Prod.snd sameName, List.filter_map, tracedAnswer,
    List.extract_eq_take_drop, List.extract_eq_take_drop, List.map_take, List.map_drop]
  rfl

theorem tracedAnswer_sublist :
    List.Sublist (tracedAnswer query oracle identity delivered) delivered := by
  rw [tracedAnswer, List.extract_eq_take_drop]
  exact (List.take_sublist _ _).trans <| (List.drop_sublist _ _).trans <|
    List.filter_sublist.trans <| (eraseDupsBy_sublist _ _).trans List.filter_sublist

end Selection

/-! ## Origins -/

/-- A search of a local store and of uplinks whose answers are handed on. -/
def scriptsOf (localStore : Script StoreError LocalRecord) (exchanges : List Exchange) :
    SourceScripts :=
  ⟨localStore, exchanges.map Exchange.entry⟩

/-- How a listing can come from a source: it is a record of the local store, lifted, or an element
of what an uplink answered, decoded. -/
inductive Origin (localStore : Script StoreError LocalRecord) (exchanges : List Exchange) :
    SourceId → Listing → Prop where
  | stored {record : LocalRecord} : record ∈ localStore.items →
      Origin localStore exchanges .localStore
        (Listing.ofManifest record.manifest (some record.modified))
  | sent {exchange : Exchange} {element : Bytes} {listing : Listing} : exchange ∈ exchanges →
      element ∈ exchange.answer.elements → decodeElement element = .ok listing →
      Origin localStore exchanges (.uplink exchange.client.name) listing

variable {localStore : Script StoreError LocalRecord} {exchanges : List Exchange}

theorem origin_of_mem_transcripts {part : List Message} {message : Message}
    (member : part ∈ (scriptsOf localStore exchanges).transcripts) (held : message ∈ part)
    {entry : SourceId × Listing} (traced : entry ∈ message.traced) :
    Origin localStore exchanges entry.1 entry.2 := by
  rcases List.mem_cons.1 member with rfl | member
  · rcases mem_messagesOf_work.1 held with ⟨record, stored, rfl⟩ | ⟨error, -, -, rfl⟩ | rfl
    · obtain ⟨listing, single, rfl⟩ := List.mem_map.1 traced
      rw [List.mem_singleton.1 single]
      exact .stored stored
    · cases traced
    · cases traced
  · obtain ⟨uplink, inside, rfl⟩ := List.mem_map.1 member
    obtain ⟨exchange, asked, rfl⟩ := List.mem_map.1 inside
    rcases mem_messagesOf_work.1 held with ⟨batch, handed, rfl⟩ | ⟨error, -, -, rfl⟩ | rfl
    · obtain ⟨listing, among, rfl⟩ := List.mem_map.1 traced
      obtain ⟨element, found, decoded⟩ := exchange.exists_element handed among
      exact .sent asked found decoded
    · cases traced
    · cases traced

theorem SearchCourse.origin {settings : SearchSettings} {query : Query} {abortAt : Option Nat}
    {actions : List Action} {arrivals : List Message} {pipeline : Pipeline Consumer}
    (course : SearchCourse settings query (scriptsOf localStore exchanges) abortAt actions arrivals
      pipeline) {entry : SourceId × Listing} (arrived : entry ∈ tracedListings arrivals) :
    Origin localStore exchanges entry.1 entry.2 := by
  obtain ⟨shares, own⟩ := course.exists_shares
  obtain ⟨message, member, traced⟩ := List.mem_flatMap.1 arrived
  obtain ⟨part, inside, held⟩ :=
    own.interleaving.exists_of_mem (List.mem_append_left pipeline.queue member)
  obtain ⟨share, shared, rfl⟩ := List.mem_map.1 inside
  have part : share.first.remaining ∈ (scriptsOf localStore exchanges).transcripts := by
    rw [← own.map_remaining]
    exact List.mem_map_of_mem shared
  exact origin_of_mem_transcripts part (own.sent_subset shared held) traced

/-! ## Marks -/

/-- A listing is marked as local exactly if it comes from the local store. -/
def RightlyMarked (source : SourceId) (listing : Listing) : Prop :=
  listing.isLocal = true ↔ source = .localStore

/-- No element that an uplink sent says that the listing is local. -/
def Unmarked (exchanges : List Exchange) (source : SourceId) (listing : Listing) : Prop :=
  ∀ exchange ∈ exchanges, source = .uplink exchange.client.name →
    ∀ element ∈ exchange.answer.elements, decodeElement element = .ok listing →
      Listing.marked (Json.Document.ofBytes element).root = false

theorem Origin.rightlyMarked_iff {source : SourceId} {listing : Listing}
    (origin : Origin localStore exchanges source listing) :
    RightlyMarked source listing ↔ Unmarked exchanges source listing := by
  cases origin with
  | stored => simp [RightlyMarked, Unmarked, Listing.ofManifest]
  | @sent exchange element _ asked found decoded =>
      constructor
      · intro right other _ _ again _ decodedAgain
        rw [← Uplink.isLocal_of_decodeElement decodedAgain]
        exact Bool.eq_false_iff.2 fun mark => nomatch right.1 mark
      · intro unmarked
        have mark := unmarked exchange asked rfl element found decoded
        rw [← Uplink.isLocal_of_decodeElement decoded] at mark
        simp [RightlyMarked, mark]

/-- Each object of an answer has its origin at its source, and the answer is rightly marked exactly
if no object is decoded from an element that marks it: what an uplink says of itself is passed
on. -/
theorem SearchCourse.objects_rightlyMarked_iff {settings : SearchSettings} {query : Query}
    {abortAt : Option Nat} {actions : List Action} {arrivals : List Message}
    {pipeline : Pipeline Consumer}
    (course : SearchCourse settings query (scriptsOf localStore exchanges) abortAt actions arrivals
      pipeline) (returned : hasReturned pipeline = true) {oracle : Oracle} {identity : Identity}
    {objects : List Listing}
    (answered : conclude settings query oracle identity pipeline.state = .ok objects) :
    let traced := tracedAnswer query oracle identity (tracedListings arrivals)
    traced.map Prod.snd = objects ∧
      (∀ entry ∈ traced, Origin localStore exchanges entry.1 entry.2) ∧
      ((∀ entry ∈ traced, RightlyMarked entry.1 entry.2) ↔
        ∀ entry ∈ traced, Unmarked exchanges entry.1 entry.2) := by
  intro traced
  have origins (entry : SourceId × Listing) (member : entry ∈ traced) :
      Origin localStore exchanges entry.1 entry.2 :=
    course.origin ((tracedAnswer_sublist _ _ _ _).mem member)
  refine ⟨?_, origins, ?_⟩
  · rw [map_snd_tracedAnswer, map_snd_tracedListings]
    rw [course.conclude_eq returned] at answered
    split at answered
    · cases answered
    · split at answered
      · cases answered
      · exact Except.ok.inj answered
  · exact forall₂_congr fun entry member => (origins entry member).rightlyMarked_iff

/-! ## An uplink with one result -/

def sampleExchange (body : String) : Exchange :=
  .prompt ⟨"npmjs", "http://localhost", 20⟩ (.status 200 [.bytes body.toUTF8.toList])

def unmarkedBody : String :=
  "\x7b\"objects\":[\x7b\"package\":\x7b\"name\":\"pad-a\"\x7d\x7d]\x7d"

def markedBody : String :=
  "\x7b\"objects\":[\x7b\"package\":\x7b\"name\":\"pad-a\"\x7d,\"local\":true\x7d]\x7d"

/-- A package of the local store beside one of an uplink that does not mark it. -/
theorem objects_rightlyMarked_sample :
    let record : LocalRecord := ⟨{ Package.Manifest.blank with name := "pad-c" }, .epoch⟩
    let localStore : Script StoreError LocalRecord := [⟨0, .value (some record)⟩]
    let exchanges := [sampleExchange unmarkedBody]
    let query := Query.ofText "pad"
    ∃ actions arrivals pipeline objects,
      SearchCourse ⟨0, 0⟩ query (scriptsOf localStore exchanges) none actions arrivals pipeline ∧
      hasReturned pipeline = true ∧
      conclude ⟨0, 0⟩ query sampleOracle .anonymous pipeline.state = .ok objects ∧
      objects.map Listing.isLocal = [true, false] ∧
      ∀ entry ∈ tracedAnswer query sampleOracle .anonymous (tracedListings arrivals),
        RightlyMarked entry.1 entry.2 := by
  intro record localStore exchanges query
  obtain ⟨actions, arrivals, pipeline, run, outcome, -, returns⟩ :=
    exists_searchRun ⟨0, 0⟩ query sampleOracle .anonymous (scriptsOf localStore exchanges)
  have returned : hasReturned pipeline = true := returns (by decide +kernel)
  have marks : ((search ⟨0, 0⟩ query sampleOracle .anonymous
      (scriptsOf localStore exchanges).sources none).outcome.map
        (List.map Listing.isLocal)).toOption = some [true, false] := by
    decide +kernel
  have unmarked : ∀ exchange ∈ exchanges, ∀ element ∈ exchange.answer.elements,
      Listing.marked (Json.Document.ofBytes element).root = false := by
    decide +kernel
  rw [outcome] at marks
  cases answered : conclude ⟨0, 0⟩ query sampleOracle .anonymous pipeline.state with
  | error failure => simp [answered, Except.map, Except.toOption] at marks
  | ok objects =>
      have course := run.searchCourse
      refine ⟨actions, arrivals, pipeline, objects, course, returned, answered, ?_, ?_⟩
      · simpa [answered, Except.map, Except.toOption] using marks
      · refine (course.objects_rightlyMarked_iff returned answered).2.2.2 ?_
        intro entry _ exchange asked _ element found _
        exact unmarked exchange asked element found

/-- The local store is empty, and still the only object is marked as local. -/
theorem foreign_object_marked :
    let localStore : Script StoreError LocalRecord := [⟨0, .value none⟩]
    let scripts := scriptsOf localStore [sampleExchange markedBody]
    let query := Query.ofText "pad"
    localStore.items = [] ∧ ∃ actions arrivals pipeline objects,
      SearchRun ⟨0, 0⟩ query scripts actions arrivals pipeline ∧ hasReturned pipeline = true ∧
      conclude ⟨0, 0⟩ query sampleOracle .anonymous pipeline.state = .ok objects ∧
      objects.map Listing.isLocal = [true] := by
  intro localStore scripts query
  obtain ⟨actions, arrivals, pipeline, run, outcome, -, returns⟩ :=
    exists_searchRun ⟨0, 0⟩ query sampleOracle .anonymous scripts
  have returned : hasReturned pipeline = true := returns (by decide +kernel)
  have marks : ((search ⟨0, 0⟩ query sampleOracle .anonymous scripts.sources none).outcome.map
      (List.map Listing.isLocal)).toOption = some [true] := by
    decide +kernel
  rw [outcome] at marks
  cases answered : conclude ⟨0, 0⟩ query sampleOracle .anonymous pipeline.state with
  | error failure => simp [answered, Except.map, Except.toOption] at marks
  | ok objects =>
      refine ⟨rfl, actions, arrivals, pipeline, objects, run, returned, answered, ?_⟩
      simpa [answered, Except.map, Except.toOption] using marks

end PackageSearch
