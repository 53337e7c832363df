import Mathlib.Data.Finset.Card
import PackageSearch.Proofs.Search.Abort

/-!
# What the order of arrival decides

The messages of each source come in the order in which it sends them, and those of different sources
in any order. `search_names_unordered` says that neither the package names left after authorization
nor the length of the page depends on this order. What it does decide is the order of the names, and
which listing stands for a name that several deliver.
-/

set_option autoImplicit false

namespace PackageSearch

open Access (CheckError Identity Oracle)
open Merge
open Package (Listing)

/-- The listings left after deduplication and authorization, in the order of arrival. -/
def grantedListings (query : Query) (oracle : Oracle) (identity : Identity)
    (delivered : List Listing) : List Listing :=
  (candidates query delivered).filter fun listing => oracle.grants identity listing.name

/-- The granted names that the matching listings of any source carry. -/
def grantedNames (query : Query) (oracle : Oracle) (identity : Identity)
    (parts : List (List Message)) : Finset String :=
  (((parts.flatMap deliveredListings).filter fun listing =>
    (Matcher.compile query.text).accepts listing.package &&
      oracle.grants identity listing.name).map Listing.name).toFinset

variable {query : Query} {oracle : Oracle} {identity : Identity}

theorem mem_grantedNames {parts : List (List Message)} {name : String} :
    name ∈ grantedNames query oracle identity parts ↔
      oracle.grants identity name = true ∧ ∃ part ∈ parts, ∃ listing ∈ deliveredListings part,
        (Matcher.compile query.text).accepts listing.package = true ∧ listing.name = name := by
  simp only [grantedNames, List.mem_toFinset, List.mem_map, List.mem_filter, List.mem_flatMap,
    Bool.and_eq_true]
  constructor
  · rintro ⟨listing, ⟨⟨part, member, held⟩, matching, granted⟩, rfl⟩
    exact ⟨granted, part, member, listing, held, matching, rfl⟩
  · rintro ⟨granted, part, member, listing, held, matching, rfl⟩
    exact ⟨listing, ⟨⟨part, member, held⟩, matching, granted⟩, rfl⟩

/-! ## What an interleaving delivers -/

theorem Interleaving.mem_deliveredListings {parts : List (List Message)} {arrivals : List Message}
    (interleaving : Interleaving parts arrivals) {listing : Listing} :
    listing ∈ deliveredListings arrivals ↔ ∃ part ∈ parts, listing ∈ deliveredListings part := by
  simp only [deliveredListings, List.mem_flatMap, List.mem_filterMap]
  constructor
  · rintro ⟨item, ⟨message, arrived, held⟩, inside⟩
    obtain ⟨part, member, sent⟩ := interleaving.exists_of_mem arrived
    exact ⟨part, member, item, ⟨message, sent, held⟩, inside⟩
  · rintro ⟨part, member, item, ⟨message, sent, held⟩, inside⟩
    exact ⟨item, ⟨message, interleaving.mem_of_mem member sent, held⟩, inside⟩

theorem candidates_sublist (query : Query) (delivered : List Listing) :
    List.Sublist (candidates query delivered) (delivered.filter fun listing =>
      (Matcher.compile query.text).accepts listing.package) := by
  rw [candidates]
  exact eraseDupsBy_sublist sameName _

theorem mem_of_mem_candidates {delivered : List Listing} {listing : Listing}
    (member : listing ∈ candidates query delivered) :
    listing ∈ delivered ∧ (Matcher.compile query.text).accepts listing.package = true :=
  List.mem_filter.1 ((candidates_sublist query delivered).mem member)

theorem nodup_names_grantedListings (query : Query) (oracle : Oracle) (identity : Identity)
    (delivered : List Listing) :
    ((grantedListings query oracle identity delivered).map Listing.name).Nodup :=
  (nodup_names_candidates query delivered).sublist (List.filter_sublist.map _)

namespace Interleaving

variable {parts : List (List Message)} {arrivals : List Message}

/-- Whatever the order of arrival, the names left are those that some source delivers. -/
theorem toFinset_names (interleaving : Interleaving parts arrivals) :
    ((grantedListings query oracle identity (deliveredListings arrivals)).map
      Listing.name).toFinset = grantedNames query oracle identity parts := by
  ext name
  rw [List.mem_toFinset, mem_grantedNames]
  constructor
  · intro left
    obtain ⟨listing, kept, rfl⟩ := List.mem_map.1 left
    obtain ⟨candidate, granted⟩ := List.mem_filter.1 kept
    obtain ⟨delivered, matching⟩ := mem_of_mem_candidates candidate
    obtain ⟨part, member, held⟩ := interleaving.mem_deliveredListings.1 delivered
    exact ⟨granted, part, member, listing, held, matching, rfl⟩
  · rintro ⟨granted, part, member, listing, held, matching, rfl⟩
    exact name_mem_granted (interleaving.mem_deliveredListings.2 ⟨part, member, held⟩) matching
      granted

theorem length_grantedListings (query : Query) (oracle : Oracle) (identity : Identity)
    (interleaving : Interleaving parts arrivals) :
    (grantedListings query oracle identity (deliveredListings arrivals)).length =
      (grantedNames query oracle identity parts).card := by
  rw [← interleaving.toFinset_names, List.toFinset_card_of_nodup, List.length_map]
  exact nodup_names_grantedListings ..

theorem length_answerTo (interleaving : Interleaving parts arrivals) :
    (answerTo query oracle identity (deliveredListings arrivals)).length =
      min query.size (grantedNames query oracle identity parts).card - query.start := by
  have length := interleaving.length_grantedListings query oracle identity
  rw [grantedListings] at length
  rw [answerTo, List.extract_eq_take_drop, List.length_take, List.length_drop, length]
  omega

theorem perm_names {first second : List Message} (early : Interleaving parts first)
    (late : Interleaving parts second) :
    ((grantedListings query oracle identity (deliveredListings first)).map Listing.name).Perm
      ((grantedListings query oracle identity (deliveredListings second)).map Listing.name) := by
  refine List.perm_of_nodup_nodup_toFinset_eq (nodup_names_grantedListings ..)
    (nodup_names_grantedListings ..) ?_
  rw [early.toFinset_names, late.toFinset_names]

end Interleaving

/-! ## Searches with the same messages -/

/-- What searches have in common in which each source sends the same messages. -/
structure AnswersAlike (settings : SearchSettings) (query : Query) (oracle : Oracle)
    (identity : Identity) (parts : List (List Message)) (arrivals : List Message)
    (pipeline : Pipeline Consumer) : Prop where
  interleaving : Interleaving parts arrivals
  once : ((grantedListings query oracle identity (deliveredListings arrivals)).map
    Listing.name).Nodup
  names : ((grantedListings query oracle identity (deliveredListings arrivals)).map
    Listing.name).toFinset = grantedNames query oracle identity parts
  stands : ∀ listing ∈ grantedListings query oracle identity (deliveredListings arrivals),
    ∃ part ∈ parts, listing ∈ deliveredListings part ∧
      (Matcher.compile query.text).accepts listing.package = true
  answered : ∃ objects, conclude settings query oracle identity pipeline.state = .ok objects ∧
    objects = (grantedListings query oracle identity (deliveredListings arrivals)).extract
      query.start query.size ∧
    objects.length = min query.size (grantedNames query oracle identity parts).card - query.start

theorem SearchShares.answersAlike {settings : SearchSettings} {scripts : SourceScripts}
    {abortAt : Option Nat} {actions : List Action} {arrivals : List Message}
    {pipeline : Pipeline Consumer} {shares : List Share}
    (own : SearchShares query scripts arrivals pipeline shares)
    (course : SearchCourse settings query scripts abortAt actions arrivals pipeline)
    (sound : scripts.localFailure? = none) (returned : hasReturned pipeline = true)
    (mild : ∀ part ∈ shares.map Share.sent, ∀ listing ∈ deliveredListings part,
      (Matcher.compile query.text).accepts listing.package = true →
        oracle.fatal? identity listing.name = none) :
    AnswersAlike settings query oracle identity (shares.map Share.sent) arrivals pipeline := by
  have interleaving := (own.settled_of_sound returned sound).interleaving
  have brought (listing : Listing)
      (candidate : listing ∈ candidates query (deliveredListings arrivals)) :
      ∃ part ∈ shares.map Share.sent, listing ∈ deliveredListings part ∧
        (Matcher.compile query.text).accepts listing.package = true := by
    obtain ⟨delivered, matching⟩ := mem_of_mem_candidates candidate
    obtain ⟨part, member, held⟩ := interleaving.mem_deliveredListings.1 delivered
    exact ⟨part, member, held, matching⟩
  have harmless : ((candidates query (deliveredListings arrivals)).findSome? fun listing =>
      oracle.fatal? identity listing.name) = none := by
    refine List.findSome?_eq_none_iff.2 fun listing candidate => ?_
    obtain ⟨part, member, held, matching⟩ := brought listing candidate
    exact mild part member listing held matching
  refine ⟨interleaving, nodup_names_grantedListings .., interleaving.toFinset_names, ?_, _, ?_,
    rfl, interleaving.length_answerTo⟩
  · intro listing kept
    exact brought listing (List.mem_filter.1 kept).1
  · rw [course.conclude_eq returned, sound]
    simp only [harmless]
    rfl

/-- Without an abort, each source of a search that comes back sends all that its script gives. -/
theorem SearchRun.exists_shares {settings : SearchSettings} {scripts : SourceScripts}
    {actions : List Action} {arrivals : List Message} {pipeline : Pipeline Consumer}
    (run : SearchRun settings query scripts actions arrivals pipeline)
    (sound : scripts.localFailure? = none) (returned : hasReturned pipeline = true) :
    ∃ shares, SearchShares query scripts arrivals pipeline shares ∧
      shares.map Share.sent = scripts.transcripts := by
  obtain ⟨shares, own⟩ := run.searchCourse.exists_shares
  exact ⟨shares, own, own.map_sent_eq (own.settled_of_sound returned sound) run.aborted_eq⟩

/-- However the messages of the sources interleave, the same names are left after deduplication and
authorization, and the page is as long. -/
theorem search_names_unordered (query : Query) (oracle : Oracle) (identity : Identity)
    (parts : List (List Message))
    (mild : ∀ part ∈ parts, ∀ listing ∈ deliveredListings part,
      (Matcher.compile query.text).accepts listing.package = true →
        oracle.fatal? identity listing.name = none) :
    (∀ name, name ∈ grantedNames query oracle identity parts ↔
      oracle.grants identity name = true ∧ ∃ part ∈ parts, ∃ listing ∈ deliveredListings part,
        (Matcher.compile query.text).accepts listing.package = true ∧ listing.name = name) ∧
    (∀ {first second}, Interleaving parts first → Interleaving parts second →
      ((grantedListings query oracle identity (deliveredListings first)).map Listing.name).Perm
        ((grantedListings query oracle identity (deliveredListings second)).map Listing.name)) ∧
    (∀ {settings scripts actions arrivals pipeline},
      SearchRun settings query scripts actions arrivals pipeline → scripts.transcripts = parts →
      scripts.localFailure? = none → hasReturned pipeline = true →
        AnswersAlike settings query oracle identity parts arrivals pipeline) ∧
    ∀ {settings scripts abortAt actions arrivals pipeline shares},
      SearchCourse settings query scripts abortAt actions arrivals pipeline →
      SearchShares query scripts arrivals pipeline shares → shares.map Share.sent = parts →
      scripts.localFailure? = none → hasReturned pipeline = true →
        AnswersAlike settings query oracle identity parts arrivals pipeline := by
  refine ⟨fun _ => mem_grantedNames, Interleaving.perm_names, ?_, ?_⟩
  · rintro settings scripts actions arrivals pipeline run rfl sound returned
    obtain ⟨shares, own, all⟩ := run.exists_shares sound returned
    rw [← all] at mild ⊢
    exact own.answersAlike run.searchCourse sound returned mild
  · rintro settings scripts abortAt actions arrivals pipeline shares course own rfl sound returned
    exact own.answersAlike course sound returned mild

theorem sampleOracle_fatal? (package : String) :
    sampleOracle.fatal? .anonymous package = none := by
  by_cases denied : package = "pad-b" <;> simp [Oracle.fatal?, sampleOracle, denied]

/-- Two uplinks share a name; whichever comes first has its listing shown, and the page of one holds
another name. -/
theorem search_names_unordered_sample :
    let scripts := sampleScripts [⟨0, .value none⟩] [⟨0, .value none⟩,
      ⟨1, .value (some [sampleListing "pad-c",
        { sampleListing "pad-a" with searchScore := .ofNat 7 }])⟩]
    let early := sampleEnd scripts
      [.produce 2, .produce 2, .produce 2, .produce 2, .receive, .produce 1, .produce 0, .produce 0,
        .produce 1, .produce 1, .produce 1, .receive, .produce 0, .receive, .produce 2, .produce 2,
        .receive, .produce 2, .receive, .produce 1, .produce 1, .receive]
    let late := sampleEnd scripts
      [.produce 1, .produce 1, .produce 1, .produce 1, .receive, .produce 1, .produce 1, .receive,
        .produce 0, .produce 0, .produce 0, .receive, .produce 2, .produce 2, .produce 2,
        .produce 2, .receive, .produce 2, .produce 2, .receive, .produce 2, .receive]
    let query := (Query.ofText "pad").withStart 1
    let left (arrivals : List Message) :=
      (grantedListings query sampleOracle .anonymous (deliveredListings arrivals)).map
        fun listing => (listing.name, listing.searchScore)
    left early.1 = [("pad-a", .zero), ("pad-c", .zero)] ∧
      left late.1 = [("pad-c", .zero), ("pad-a", .ofNat 7)] ∧
      ∃ parts, AnswersAlike ⟨0, 0⟩ query sampleOracle .anonymous parts early.1 early.2 ∧
        AnswersAlike ⟨0, 0⟩ query sampleOracle .anonymous parts late.1 late.2 := by
  intro scripts early late query left
  obtain ⟨-, -, alike, -⟩ := search_names_unordered query sampleOracle .anonymous
    scripts.transcripts fun _ _ listing _ _ => sampleOracle_fatal? listing.name
  have first : SearchRun ⟨0, 0⟩ query scripts _ early.1 early.2 :=
    .of_sampleEnd rfl (by decide) (by decide +kernel)
  have second : SearchRun ⟨0, 0⟩ query scripts _ late.1 late.2 :=
    .of_sampleEnd rfl (by decide) (by decide +kernel)
  refine ⟨by decide +kernel, by decide +kernel, scripts.transcripts, ?_, ?_⟩
  · exact alike first rfl rfl (by decide +kernel)
  · exact alike second rfl rfl (by decide +kernel)

end PackageSearch
