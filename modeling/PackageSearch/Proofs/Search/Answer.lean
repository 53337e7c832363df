import PackageSearch.Proofs.Access.Decisions
import PackageSearch.Proofs.Search.Return

/-!
# What a search answers

A search that comes back has one of three outcomes: the failure of the local store, the first fatal
failure of an access check, or the page cut out of what was delivered. `conclude_eq` says which.
-/

set_option autoImplicit false

namespace PackageSearch

open Access (CheckError Identity Oracle)
open Merge (Action Consumer Message Pipeline deliveredListings)
open Package (Listing ResultPage)

/-! ## The first listing of each name -/

theorem eraseDupsBy_sublist {α : Type} (same : α → α → Bool) (entries : List α) :
    List.Sublist (entries.eraseDupsBy same) entries := by
  match entries with
  | [] => exact .slnil
  | first :: rest =>
      rw [List.eraseDupsBy_cons]
      exact ((eraseDupsBy_sublist same _).trans List.filter_sublist).cons_cons first
termination_by entries.length
decreasing_by exact Nat.lt_succ_of_le (List.length_filter_le _ _)

theorem map_eraseDupsBy {α β : Type} (view : α → β) (same : β → β → Bool) (entries : List α) :
    (entries.eraseDupsBy fun left right => same (view left) (view right)).map view =
      (entries.map view).eraseDupsBy same := by
  match entries with
  | [] => rfl
  | first :: rest =>
      rw [List.eraseDupsBy_cons, List.map_cons, List.map_cons, List.eraseDupsBy_cons,
        List.filter_map, map_eraseDupsBy view same _]
      rfl
termination_by entries.length
decreasing_by exact Nat.lt_succ_of_le (List.length_filter_le _ _)

def sameName (left right : Listing) : Bool := left.name == right.name

theorem dropSeen_eq (seen : List String) (listings : List Listing) :
    dropSeen seen listings =
      (listings.filter fun listing => ! seen.contains listing.name).eraseDupsBy sameName := by
  induction listings generalizing seen with
  | nil => rfl
  | cons listing rest ih =>
      cases known : seen.contains listing.name with
      | true => simp only [dropSeen, known, ↓reduceIte, ih, List.filter_cons, Bool.not_true,
          Bool.false_eq_true]
      | false =>
          have others : (rest.filter fun other => ! (listing.name :: seen).contains other.name) =
              (rest.filter fun other => ! seen.contains other.name).filter
                fun other => sameName other listing = false := by
            rw [List.filter_filter]
            refine List.filter_congr fun other _ => ?_
            by_cases same : other.name = listing.name <;>
              simp [sameName, same]
          simp only [dropSeen, known, Bool.false_eq_true, ↓reduceIte, ih, List.filter_cons,
            Bool.not_false, List.eraseDupsBy_cons, others]

theorem firstOfEachName_eq (listings : List Listing) :
    firstOfEachName listings = listings.eraseDupsBy sameName := by
  rw [firstOfEachName, dropSeen_eq, List.filter_eq_self.2]
  simp

theorem name_not_mem_of_mem_dropSeen {seen : List String} {listings : List Listing}
    {listing : Listing} (member : listing ∈ dropSeen seen listings) : listing.name ∉ seen := by
  induction listings generalizing seen with
  | nil => cases member
  | cons first rest ih =>
      simp only [dropSeen] at member
      split at member
      · exact ih member
      · rename_i fresh
        rcases List.mem_cons.1 member with rfl | later
        · simpa using fresh
        · exact fun known => ih later (List.mem_cons_of_mem _ known)

theorem nodup_names_dropSeen (seen : List String) (listings : List Listing) :
    ((dropSeen seen listings).map Listing.name).Nodup := by
  induction listings generalizing seen with
  | nil => exact List.nodup_nil
  | cons first rest ih =>
      simp only [dropSeen]
      split
      · exact ih seen
      · rw [List.map_cons, List.nodup_cons]
        refine ⟨fun known => ?_, ih _⟩
        obtain ⟨listing, member, same⟩ := List.mem_map.1 known
        exact name_not_mem_of_mem_dropSeen member (same ▸ List.mem_cons_self)

/-! ## The answer -/

/-- The matching listings among those delivered, each name once, in the order of arrival. -/
def candidates (query : Query) (delivered : List Listing) : List Listing :=
  (delivered.filter fun listing =>
    (Matcher.compile query.text).accepts listing.package).eraseDupsBy sameName

/-- The listings that a search answers with: the positions from `start` to `size` of the candidates
that the oracle grants. -/
def answerTo (query : Query) (oracle : Oracle) (identity : Identity) (delivered : List Listing) :
    List Listing :=
  ((candidates query delivered).filter fun listing =>
    oracle.grants identity listing.name).extract query.start query.size

theorem nodup_names_candidates (query : Query) (delivered : List Listing) :
    ((candidates query delivered).map Listing.name).Nodup := by
  rw [candidates, ← firstOfEachName_eq]
  exact nodup_names_dropSeen [] _

theorem answerTo_sublist (query : Query) (oracle : Oracle) (identity : Identity)
    (delivered : List Listing) :
    List.Sublist (answerTo query oracle identity delivered)
      ((candidates query delivered).filter fun listing => oracle.grants identity listing.name) := by
  rw [answerTo, List.extract_eq_take_drop]
  exact (List.take_sublist _ _).trans (List.drop_sublist _ _)

theorem refine_eq (settings : SearchSettings) (query : Query) (oracle : Oracle)
    (identity : Identity) (merged : List Listing) :
    refine settings query oracle identity merged =
      match (merged.eraseDupsBy sameName).findSome? fun listing =>
          oracle.fatal? identity listing.name with
      | some error => .error (.authorization error)
      | none => .ok (((merged.eraseDupsBy sameName).filter fun listing =>
          oracle.grants identity listing.name).extract query.start query.size) := by
  simp only [refine, Access.authorize_eq, firstOfEachName_eq]
  cases (merged.eraseDupsBy sameName).findSome? fun listing =>
      oracle.fatal? identity listing.name with
  | some error => rfl
  | none => rfl

/-- The outcome of a search that comes back. -/
theorem SearchCourse.conclude_eq {settings : SearchSettings} {query : Query}
    {scripts : SourceScripts} {abortAt : Option Nat} {actions : List Action}
    {arrivals : List Message} {pipeline : Pipeline Consumer}
    (course : SearchCourse settings query scripts abortAt actions arrivals pipeline)
    (returned : hasReturned pipeline = true) (oracle : Oracle) (identity : Identity) :
    conclude settings query oracle identity pipeline.state =
      match scripts.localFailure? with
      | some error => .error (.localDiscovery error)
      | none =>
          match (candidates query (deliveredListings arrivals)).findSome? fun listing =>
              oracle.fatal? identity listing.name with
          | some error => .error (.authorization error)
          | none => .ok (answerTo query oracle identity (deliveredListings arrivals)) := by
  obtain ⟨shares, own⟩ := course.exists_shares
  rw [conclude, own.outcome_eq returned]
  cases scripts.localFailure? with
  | some error => rfl
  | none => exact refine_eq settings query oracle identity _

namespace SearchRun

variable {settings : SearchSettings} {query : Query} {scripts : SourceScripts}
  {actions : List Action} {arrivals : List Message} {pipeline : Pipeline Consumer}

theorem conclude_eq (run : SearchRun settings query scripts actions arrivals pipeline)
    (returned : hasReturned pipeline = true) (oracle : Oracle) (identity : Identity) :
    conclude settings query oracle identity pipeline.state =
      match scripts.localFailure? with
      | some error => .error (.localDiscovery error)
      | none =>
          match (candidates query (deliveredListings arrivals)).findSome? fun listing =>
              oracle.fatal? identity listing.name with
          | some error => .error (.authorization error)
          | none => .ok (answerTo query oracle identity (deliveredListings arrivals)) :=
  run.searchCourse.conclude_eq returned oracle identity

theorem interleaving_deliveries
    (run : SearchRun settings query scripts actions arrivals pipeline)
    (returned : hasReturned pipeline = true) (sound : scripts.localFailure? = none) :
    Interleaving scripts.deliveries (arrivals.filterMap Message.item?) := by
  rw [← scripts.filterMap_item?_transcripts]
  exact (run.interleaving_arrivals returned ((run.failure_eq returned).trans sound)).filterMap _

end SearchRun

theorem Access.Oracle.fatal?_eq_none {oracle : Oracle} {identity : Identity} {package : String}
    (mild : ∀ error, oracle.answer package identity = .error error →
      ∃ status, error.status = some status ∧ 400 ≤ status ∧ status ≤ 499) :
    oracle.fatal? identity package = none := by
  unfold Oracle.fatal?
  cases answered : oracle.answer package identity with
  | ok allowed => rfl
  | error error =>
      obtain ⟨status, same, client⟩ := mild error answered
      simp only [same, client, and_self, ↓reduceIte]

/-! ## Sample searches -/

def sampleListing (name : String) : Listing :=
  { Listing.blank with package := { Package.Summary.blank with name } }

/-- A search beside an uplink that fails behind its listings. -/
def sampleScripts (localStore : Merge.Script StoreError Merge.LocalRecord)
    (uplink : Merge.Script UplinkError (List Listing)) : SourceScripts :=
  { localStore
    uplinks := [("second", uplink),
      ("first", [⟨0, .value none⟩,
        ⟨2, .value (some [sampleListing "pad-b", sampleListing "other", sampleListing "pad-a"])⟩,
        ⟨0, .error (.status "first" 502)⟩])] }

/-- Denies one package by a failure of the 4xx range. -/
def sampleOracle : Oracle :=
  { answer := fun package _ =>
      if package = "pad-b" then .error ⟨some 403, "denied"⟩ else .ok true
    delay := fun package => package.length }

/-- What arrives, and the state reached, by given actions of a search with the smallest channel. -/
def sampleEnd (scripts : SourceScripts) (actions : List Action) :
    List Message × Pipeline Consumer :=
  let first := searchPipeline ⟨0, 0⟩ scripts.sources none
  (first.perform? (mergeReceiver (Matcher.compile "pad")) actions).getD ([], first)

theorem run_sampleEnd {query : Query} {scripts : SourceScripts} {actions : List Action}
    (text : query.text = "pad")
    (enabled : ((searchPipeline ⟨0, 0⟩ scripts.sources none).perform?
      (mergeReceiver (Matcher.compile "pad")) actions).isSome = true) :
    Pipeline.Run (mergeReceiver (Matcher.compile query.text)) (fun _ => True)
      (searchPipeline ⟨0, 0⟩ scripts.sources none) actions (sampleEnd scripts actions).1
      (sampleEnd scripts actions).2 := by
  obtain ⟨last, performed⟩ := Option.isSome_iff_exists.1 enabled
  refine .of_perform? ?_
  rw [text, sampleEnd, performed]
  rfl

theorem SearchRun.of_sampleEnd {query : Query} {scripts : SourceScripts} {actions : List Action}
    (text : query.text = "pad") (unaborted : Action.abort ∉ actions)
    (enabled : ((searchPipeline ⟨0, 0⟩ scripts.sources none).perform?
      (mergeReceiver (Matcher.compile "pad")) actions).isSome = true) :
    SearchRun ⟨0, 0⟩ query scripts actions (sampleEnd scripts actions).1
      (sampleEnd scripts actions).2 :=
  ⟨run_sampleEnd text enabled, unaborted⟩

theorem SearchCourse.of_sampleEnd {query : Query} {scripts : SourceScripts} {actions : List Action}
    (text : query.text = "pad")
    (enabled : ((searchPipeline ⟨0, 0⟩ scripts.sources none).perform?
      (mergeReceiver (Matcher.compile "pad")) actions).isSome = true) :
    SearchCourse ⟨0, 0⟩ query scripts none actions (sampleEnd scripts actions).1
      (sampleEnd scripts actions).2 :=
  ⟨(run_sampleEnd text enabled).course⟩

/-! ## What a search answers -/

/-- In whatever order the deliveries of the sources arrive, a search comes back; and when local
production and the access checks do not fail, it answers the page of the granted candidates. -/
theorem search_answers (settings : SearchSettings) (query : Query) (oracle : Oracle)
    (identity : Identity) (scripts : SourceScripts)
    (sound : scripts.localFailure? = none) (ended : scripts.allEnd = true)
    (mild : ∀ package error, oracle.answer package identity = .error error →
      ∃ status, error.status = some status ∧ 400 ≤ status ∧ status ≤ 499) :
    (∀ {actions arrivals pipeline}, SearchRun settings query scripts actions arrivals pipeline →
      actions.length ≤ (searchPipeline settings scripts.sources none).effort ∧
      (hasReturned pipeline = false → ∃ action, action ≠ .abort ∧
        (pipeline.act? (mergeReceiver (Matcher.compile query.text)) action).isSome = true) ∧
      (hasReturned pipeline = true →
        Interleaving scripts.deliveries (arrivals.filterMap Message.item?) ∧
        ∃ objects, conclude settings query oracle identity pipeline.state = .ok objects ∧
          objects = answerTo query oracle identity (deliveredListings arrivals) ∧
          (objects.map Listing.name).Nodup ∧
          (∀ listing ∈ objects, oracle.grants identity listing.name = true) ∧
          ∀ made, (ResultPage.ofListings objects made).total = objects.length)) ∧
    ∃ actions arrivals pipeline, SearchRun settings query scripts actions arrivals pipeline ∧
      hasReturned pipeline = true ∧
      (search settings query oracle identity scripts.sources none).outcome =
        conclude settings query oracle identity pipeline.state := by
  constructor
  · intro actions arrivals pipeline run
    refine ⟨Nat.le_of_add_right_le run.run.length_add_effort_le, run.exists_action ended,
      fun returned => ⟨run.interleaving_deliveries returned sound, _, ?_, rfl, ?_, ?_,
        fun _ => rfl⟩⟩
    · have harmless : ((candidates query (deliveredListings arrivals)).findSome? fun listing =>
          oracle.fatal? identity listing.name) = none :=
        List.findSome?_eq_none_iff.2 fun listing _ => Oracle.fatal?_eq_none (mild listing.name)
      rw [run.conclude_eq returned, sound]
      simp only [harmless]
    · have names := nodup_names_candidates query (deliveredListings arrivals)
      exact names.sublist (((answerTo_sublist ..).trans List.filter_sublist).map _)
    · intro listing member
      exact (List.mem_filter.1 ((answerTo_sublist ..).mem member)).2
  · obtain ⟨actions, arrivals, pipeline, run, outcome, -, returns⟩ :=
      exists_searchRun settings query oracle identity scripts
    exact ⟨actions, arrivals, pipeline, run, returns ended, outcome⟩

/-- Duplicates, a denial and a listing that does not match, through a channel for one message. -/
theorem search_answers_sample :
    let scripts := sampleScripts [⟨0, .value none⟩] [⟨0, .value none⟩,
      ⟨1, .value (some [sampleListing "pad-a", sampleListing "pad-c"])⟩]
    let actions : List Action :=
      [.produce 2, .produce 2, .produce 2, .produce 2, .receive, .produce 1, .produce 0, .produce 0,
        .produce 1, .produce 1, .produce 1, .receive, .produce 0, .receive, .produce 2, .produce 2,
        .receive, .produce 2, .receive, .produce 1, .produce 1, .receive]
    let reached := sampleEnd scripts actions
    SearchRun ⟨0, 0⟩ ((Query.ofText "pad").withStart 1) scripts actions reached.1 reached.2 ∧
      hasReturned reached.2 = true ∧
      ∃ objects, conclude ⟨0, 0⟩ ((Query.ofText "pad").withStart 1) sampleOracle .anonymous
        reached.2.state = .ok objects ∧ objects.map Listing.name = ["pad-c"] := by
  intro scripts actions reached
  have run : SearchRun ⟨0, 0⟩ ((Query.ofText "pad").withStart 1) scripts actions reached.1
      reached.2 :=
    .of_sampleEnd rfl (by decide) (by decide +kernel)
  have mild (package : String) (error : CheckError)
      (answered : sampleOracle.answer package .anonymous = .error error) :
      ∃ status, error.status = some status ∧ 400 ≤ status ∧ status ≤ 499 := by
    simp only [sampleOracle] at answered
    split at answered
    · cases answered
      exact ⟨403, rfl, by decide, by decide⟩
    · cases answered
  have returned : hasReturned reached.2 = true := by decide +kernel
  have answers := ((search_answers ⟨0, 0⟩ ((Query.ofText "pad").withStart 1) sampleOracle
    .anonymous scripts rfl rfl mild).1 run).2.2 returned
  have names : (answerTo ((Query.ofText "pad").withStart 1) sampleOracle .anonymous
      (deliveredListings reached.1)).map Listing.name = ["pad-c"] := by decide +kernel
  exact answers.2.elim fun objects answer =>
    ⟨run, returned, objects, answer.1, answer.2.1 ▸ names⟩

/-- Without an abort, a search that comes back fails with the failure of the local store if that has
one, else with the first fatal failure of a check, and else it answers. -/
theorem search_outcome {settings : SearchSettings} {query : Query} {scripts : SourceScripts}
    {actions : List Action} {arrivals : List Message} {pipeline : Pipeline Consumer}
    (run : SearchRun settings query scripts actions arrivals pipeline)
    (returned : hasReturned pipeline = true) (oracle : Oracle) (identity : Identity) :
    (∀ error, conclude settings query oracle identity pipeline.state =
        .error (.localDiscovery error) ↔ scripts.localFailure? = some error) ∧
    (scripts.localFailure? = none →
      Interleaving scripts.deliveries (arrivals.filterMap Message.item?) ∧
      (∀ error, conclude settings query oracle identity pipeline.state =
          .error (.authorization error) ↔
        (candidates query (deliveredListings arrivals)).findSome? (fun listing =>
          oracle.fatal? identity listing.name) = some error) ∧
      ((candidates query (deliveredListings arrivals)).findSome? (fun listing =>
          oracle.fatal? identity listing.name) = none →
        ∃ objects, conclude settings query oracle identity pipeline.state = .ok objects)) ∧
    conclude settings query oracle identity pipeline.state ≠ .error .mergeClosed := by
  rw [run.conclude_eq returned]
  cases failed : scripts.localFailure? with
  | some error => simp
  | none =>
      cases checked : (candidates query (deliveredListings arrivals)).findSome? fun listing =>
          oracle.fatal? identity listing.name with
      | some error => simpa using run.interleaving_deliveries returned failed
      | none => simpa using run.interleaving_deliveries returned failed

/-- The local store panics behind a package, and an uplink never answers. -/
theorem search_outcome_sample :
    let scripts := sampleScripts [⟨0, .value none⟩, ⟨5, .panic "store bug"⟩] [⟨0, .never⟩]
    let actions : List Action :=
      [.produce 2, .produce 1, .produce 2, .produce 2, .produce 2, .receive, .produce 0, .produce 0,
        .produce 0, .produce 2, .produce 0, .produce 0, .receive]
    let reached := sampleEnd scripts actions
    SearchRun ⟨0, 0⟩ (Query.ofText "pad") scripts actions reached.1 reached.2 ∧
      hasReturned reached.2 = true ∧
      conclude ⟨0, 0⟩ (Query.ofText "pad") sampleOracle .anonymous reached.2.state =
        .error (.localDiscovery (.task "store bug")) := by
  intro scripts actions reached
  have run : SearchRun ⟨0, 0⟩ (Query.ofText "pad") scripts actions reached.1 reached.2 :=
    .of_sampleEnd rfl (by decide) (by decide +kernel)
  have returned : hasReturned reached.2 = true := by decide +kernel
  exact ⟨run, returned, ((search_outcome run returned sampleOracle .anonymous).1 _).2 rfl⟩

end PackageSearch
