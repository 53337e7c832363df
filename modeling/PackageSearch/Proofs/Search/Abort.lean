import PackageSearch.Proofs.Search.Answer

/-!
# What an abort leaves of a search

An abort reaches the uplinks only, each in its own time. `search_survives_abort` says that it can
end an uplink that hangs, that it costs nothing but the rest of what uplinks would have sent, and
that it is never the reason for which a search fails.
-/

set_option autoImplicit false

namespace PackageSearch

open Access (Identity Oracle)
open Merge
open Package (Listing)

/-- What a producer contributes to a search: the beginning of what its work sends, or, if it is
cancelled at its work, first items of it and then at most the notice. -/
inductive Contribution (share : Share) : Prop where
  | uncut : .cancelled ∉ exits share.trace → share.sent <+: share.first.remaining →
      Contribution share
  | cut (sent : List Message) : .cancelled ∈ exits share.trace →
      sent <+: share.first.remaining → (∀ message ∈ sent, message.item?.isSome = true) →
      share.sent <+: sent ++ [.done share.first.source] → Contribution share

def Merge.Message.isLocal (message : Message) : Bool :=
  message.source = .localStore

/-- What holds of a search at every moment before and after an abort. -/
structure SurvivesAbort (settings : SearchSettings) (query : Query) (scripts : SourceScripts)
    (actions : List Action) (arrivals : List Message) (pipeline : Pipeline Consumer)
    (shares : List Share) : Prop where
  bounded : actions.length ≤ (searchPipeline settings scripts.sources none).effort
  goes_on : pipeline.aborted = true → hasReturned pipeline = false →
    ∃ action, action ≠ .abort ∧
      (pipeline.act? (mergeReceiver (Matcher.compile query.text)) action).isSome = true
  firsts : shares.map Share.first = scripts.sources.producers
  transcripts : (shares.map fun share => share.first.remaining) = scripts.transcripts
  lossless : Interleaving (shares.map Share.sent) (arrivals ++ pipeline.queue)
  contributed : ∀ share ∈ shares, Contribution share
  untouched : ∀ share ∈ shares, share.first.source = .localStore → .cancelled ∉ exits share.trace
  quiet : ∀ share ∈ shares, .cancelled ∈ exits share.trace →
    share.sent.filterMap Message.warning? = []
  warned : pipeline.state.warnings = arrivals.filterMap Message.warning?
  received : hasReturned pipeline = true → scripts.localFailure? = none →
    Interleaving (shares.map Share.sent) arrivals
  recorded : hasReturned pipeline = true →
    (arrivals.filter Message.isLocal).filterMap Message.item? =
      scripts.localStore.items.map .single
  concluded : hasReturned pipeline = true → ∀ (oracle : Oracle) (identity : Identity),
    conclude settings query oracle identity pipeline.state =
      match scripts.localFailure? with
      | some error => .error (.localDiscovery error)
      | none =>
          match (candidates query (deliveredListings arrivals)).findSome? fun listing =>
              oracle.fatal? identity listing.name with
          | some error => .error (.authorization error)
          | none => .ok (answerTo query oracle identity (deliveredListings arrivals))
  offered : hasReturned pipeline = true → ∀ record ∈ scripts.localStore.items,
    ∀ listing ∈ (Item.single record).listings,
      (Matcher.compile query.text).accepts listing.package = true →
      ∀ (oracle : Oracle) (identity : Identity), oracle.grants identity listing.name = true →
        listing.name ∈ ((candidates query (deliveredListings arrivals)).filter fun candidate =>
          oracle.grants identity candidate.name).map Listing.name

/-! ## What producers contribute -/

theorem Merge.Share.contribution (share : Share) {work : List Act}
    (begun : share.first.work? = some work) : Contribution share := by
  have account := share.account begun
  by_cases cut : Exit.cancelled ∈ exits share.trace
  · obtain ⟨sent, shorter, sends⟩ := account.exists_items_of_cancelled cut
    refine .cut (sent.map (.item share.first.source)) cut ?_ ?_ sends
    · rw [Producer.remaining_eq begun, messagesOf_eq]
      exact (shorter.map _).trans (List.prefix_append _ _)
    · intro message member
      obtain ⟨item, -, rfl⟩ := List.mem_map.1 member
      rfl
  · refine .uncut cut ?_
    rw [Producer.remaining_eq begun]
    exact account.prefix_messagesOf cut

/-- A producer that is cancelled at its work reports nothing. -/
theorem Contribution.quiet {share : Share} (contribution : Contribution share)
    (cut : .cancelled ∈ exits share.trace) : share.sent.filterMap Message.warning? = [] := by
  cases contribution with
  | uncut uncut => exact absurd cut uncut
  | cut sent _ _ items sends =>
      refine List.filterMap_eq_nil_iff.2 fun message member => ?_
      rcases List.mem_append.1 (sends.subset member) with earlier | last
      · have item := items message earlier
        cases message with
        | item => rfl
        | failed | done => cases item
      · rw [List.mem_singleton.1 last]
        rfl

namespace SearchShares

variable {query : Query} {scripts : SourceScripts} {arrivals : List Message}
  {pipeline : Pipeline Consumer} {shares : List Share}

theorem contribution (own : SearchShares query scripts arrivals pipeline shares) {share : Share}
    (member : share ∈ shares) : Contribution share := by
  obtain ⟨work, begun, -⟩ := own.account member
  exact share.contribution begun

theorem untouched (own : SearchShares query scripts arrivals pipeline shares) {share : Share}
    (member : share ∈ shares) (fixed : share.first.abortable = false) :
    .cancelled ∉ exits share.trace := by
  intro cut
  obtain ⟨moment, inside, cancelled⟩ := exists_cancelled_of_mem_exits cut
  cases fixed.symm.trans (own.cancelled share member moment inside cancelled).2

theorem abortable_of_local (own : SearchShares query scripts arrivals pipeline shares)
    {share : Share} (member : share ∈ shares) (source : share.first.source = .localStore) :
    share.first.abortable = false := by
  rcases List.mem_cons.1 (own.first_mem member) with same | inside
  · rw [same]
    rfl
  · obtain ⟨uplink, -, same⟩ := List.mem_map.1 inside
    rw [← same] at source
    cases source

theorem source_eq (own : SearchShares query scripts arrivals pipeline shares) {share : Share}
    (member : share ∈ shares) {message : Message} (sent : message ∈ share.sent) :
    message.source = share.first.source := by
  obtain ⟨work, begun, -⟩ := own.account member
  have whole := own.sent_subset member sent
  rw [Producer.remaining_eq begun] at whole
  exact source_of_mem_messagesOf whole

/-- A search that comes back has heard of the end of the local store. -/
theorem exists_local_notice (own : SearchShares query scripts arrivals pipeline shares)
    (returned : hasReturned pipeline = true) :
    ∃ message ∈ arrivals, message.isLocal = true ∧ message.item? = none := by
  obtain ⟨share, others, rfl, first, rest⟩ := own.exists_head
  cases failed : pipeline.state.failure with
  | none =>
      have settled := own.settled (own.awaited_eq_zero returned failed)
      have member : share ∈ share :: others := List.mem_cons_self
      have sent := own.sent_eq member (settled.heard share member) (settled.finished share member)
        (.inr (by rw [first]; rfl))
      have notice : Message.done .localStore ∈ share.sent := by
        rw [sent, first]
        exact mem_messagesOf_work.2 (.inr (.inr rfl))
      exact ⟨_, settled.interleaving.mem_of_mem (List.mem_map_of_mem member) notice, rfl, rfl⟩
  | some error =>
      rw [own.state] at failed
      rcases Consumer.foldl_failure_eq_some failed with before | ⟨message, member, reported⟩
      · cases before
      · refine ⟨message, member, ?_, ?_⟩
        · obtain ⟨part, inside, held⟩ :=
            own.interleaving.exists_of_mem (List.mem_append_left pipeline.queue member)
          obtain ⟨other, entry, rfl⟩ := List.mem_map.1 inside
          have source := own.source_eq entry held
          rcases List.mem_cons.1 entry with rfl | entry
          · rw [Message.isLocal, source, first]
            rfl
          · obtain ⟨uplink, -, same⟩ := rest other entry
            have sends := own.sent_subset (List.mem_cons_of_mem _ entry) held
            rw [same] at sends
            rcases mem_messagesOf_work.1 sends with ⟨item, -, rfl⟩ | ⟨cause, -, -, rfl⟩ | rfl <;>
              cases reported
        · cases message with
          | item => cases reported
          | failed | done => rfl

/-- What a search that comes back has received from the local store: all items of its script. -/
theorem recorded (own : SearchShares query scripts arrivals pipeline shares)
    (returned : hasReturned pipeline = true) :
    (arrivals.filter Message.isLocal).filterMap Message.item? =
      scripts.localStore.items.map .single := by
  obtain ⟨message, arrived, fromLocal, notice⟩ := own.exists_local_notice returned
  obtain ⟨share, others, rfl, first, rest⟩ := own.exists_head
  have member : share ∈ share :: others := List.mem_cons_self
  have kept : share.sent.filter Message.isLocal = share.sent := by
    refine List.filter_eq_self.2 fun message sent => ?_
    rw [Message.isLocal, own.source_eq member sent, first]
    rfl
  have part : (arrivals ++ pipeline.queue).filter Message.isLocal = share.sent := by
    rw [← kept]
    refine (own.interleaving.filter Message.isLocal).eq_head fun part inside => ?_
    obtain ⟨sent, held, rfl⟩ := List.mem_map.1 inside
    obtain ⟨other, entry, rfl⟩ := List.mem_map.1 held
    obtain ⟨uplink, -, same⟩ := rest other entry
    refine List.filter_eq_nil_iff.2 fun message sent => ?_
    rw [Message.isLocal, own.source_eq (List.mem_cons_of_mem _ entry) sent, same]
    simp [Producer.start]
  have sends : share.sent <+: messagesOf .localStore (scripts.localStore.work .localStore) := by
    have whole := (share.account (by rw [first]; rfl)).prefix_messagesOf
      (own.untouched member (by rw [first]; rfl))
    rwa [first] at whole
  rw [messagesOf_eq] at sends
  rw [List.filter_append] at part
  have begun : arrivals.filter Message.isLocal <+: share.sent := ⟨_, part⟩
  rw [filterMap_item?_of_notice (begun.trans sends) (List.mem_filter.2 ⟨arrived, fromLocal⟩) notice]
  exact Script.itemsOf_work _ _

theorem mem_delivered (own : SearchShares query scripts arrivals pipeline shares)
    (returned : hasReturned pipeline = true) {record : LocalRecord}
    (inside : record ∈ scripts.localStore.items) {listing : Listing}
    (lifted : listing ∈ (Item.single record).listings) : listing ∈ deliveredListings arrivals := by
  have item : Item.single record ∈ (arrivals.filter Message.isLocal).filterMap Message.item? := by
    rw [own.recorded returned]
    exact List.mem_map_of_mem inside
  have delivered := (List.filter_sublist.filterMap Message.item?).subset item
  exact List.mem_flatMap.2 ⟨_, delivered, lifted⟩

end SearchShares

/-! ## What the answer is cut from -/

theorem name_mem_dropSeen {seen : List String} {listings : List Listing} {listing : Listing}
    (member : listing ∈ listings) (fresh : listing.name ∉ seen) :
    listing.name ∈ (dropSeen seen listings).map Listing.name := by
  induction listings generalizing seen with
  | nil => cases member
  | cons first rest ih =>
      by_cases same : listing.name = first.name
      · have unseen : seen.contains first.name = false := by
          simpa [same] using fresh
        simp only [dropSeen, unseen, Bool.false_eq_true, ↓reduceIte, List.map_cons]
        exact List.mem_cons.2 (.inl same)
      · have later : listing ∈ rest :=
          (List.mem_cons.1 member).resolve_left fun equal => same (congrArg Listing.name equal)
        simp only [dropSeen]
        split
        · exact ih later fresh
        · refine List.mem_cons_of_mem _ (ih later fun known => ?_)
          rcases List.mem_cons.1 known with equal | known
          · exact same equal
          · exact fresh known

/-- Every granted name among the matching listings is among the names that the page is cut from. -/
theorem name_mem_granted {query : Query} {delivered : List Listing} {listing : Listing}
    (member : listing ∈ delivered)
    (matching : (Matcher.compile query.text).accepts listing.package = true) {oracle : Oracle}
    {identity : Identity} (granted : oracle.grants identity listing.name = true) :
    listing.name ∈ ((candidates query delivered).filter fun candidate =>
      oracle.grants identity candidate.name).map Listing.name := by
  have name : listing.name ∈ (candidates query delivered).map Listing.name := by
    rw [candidates, ← firstOfEachName_eq]
    exact name_mem_dropSeen (List.mem_filter.2 ⟨member, matching⟩) List.not_mem_nil
  obtain ⟨candidate, inside, same⟩ := List.mem_map.1 name
  rw [← same] at granted ⊢
  exact List.mem_map_of_mem (List.mem_filter.2 ⟨inside, granted⟩)

/-- Whenever a search is aborted and whenever each uplink notices, the search comes back if its
local store comes to an end, and it has everything from the local store. -/
theorem search_survives_abort (settings : SearchSettings) (query : Query) (scripts : SourceScripts)
    (ended : scripts.localStore.ends = true) :
    (∀ {abortAt actions arrivals pipeline},
      SearchCourse settings query scripts abortAt actions arrivals pipeline →
        ∃ shares, SurvivesAbort settings query scripts actions arrivals pipeline shares) ∧
    ∀ (oracle : Oracle) (identity : Identity) (instant : Nat), ∃ actions arrivals pipeline,
      SearchCourse settings query scripts (some instant) actions arrivals pipeline ∧
      hasReturned pipeline = true ∧
      (search settings query oracle identity scripts.sources (some instant)).outcome =
        conclude settings query oracle identity pipeline.state ∧
      (search settings query oracle identity scripts.sources (some instant)).warnings =
        pipeline.state.warnings := by
  constructor
  · intro abortAt actions arrivals pipeline course
    obtain ⟨shares, own⟩ := course.exists_shares
    refine ⟨shares, ?_, ?_, own.firsts, own.map_remaining, own.interleaving,
      fun _ => own.contribution, ?_, ?_, own.warnings, ?_, own.recorded, course.conclude_eq, ?_⟩
    · exact Nat.le_of_add_right_le course.course.length_add_effort_le
    · intro aborted waiting
      exact course.exists_action ended (.inr aborted) waiting
    · intro share member source
      exact own.untouched member (own.abortable_of_local member source)
    · intro share member cut
      exact (own.contribution member).quiet cut
    · intro returned sound
      exact (own.settled_of_sound returned sound).interleaving
    · intro returned record inside listing lifted matching oracle identity granted
      exact name_mem_granted (own.mem_delivered returned inside lifted) matching granted
  · intro oracle identity instant
    obtain ⟨actions, arrivals, pipeline, run, -, outcome, warnings, -, returns⟩ :=
      exists_run_of_search settings query oracle identity scripts (some instant)
    exact ⟨actions, arrivals, pipeline, ⟨run.course⟩, returns ended (.inr rfl), outcome, warnings⟩

def sampleRecord (name : String) : LocalRecord :=
  ⟨{ (default : Package.Manifest) with name }, .epoch⟩

/-- One uplink hangs until the abort; the other one has failed before, and still says so. -/
theorem search_survives_abort_sample :
    let scripts := sampleScripts [⟨0, .value none⟩, ⟨1, .value (some (sampleRecord "pad-local"))⟩]
      [⟨0, .value none⟩, ⟨0, .never⟩]
    let actions : List Action :=
      [.produce 2, .produce 1, .produce 0, .produce 2, .produce 0, .produce 2, .produce 0,
        .produce 2, .receive, .produce 0, .produce 2, .abort, .produce 1, .produce 0, .receive,
        .produce 2, .receive, .produce 1, .receive, .produce 0, .receive, .produce 2, .receive]
    let reached := sampleEnd scripts actions
    scripts.localStore.ends = true ∧ scripts.allEnd = false ∧
      SearchCourse ⟨0, 0⟩ (Query.ofText "pad") scripts none actions reached.1 reached.2 ∧
      hasReturned reached.2 = true ∧ reached.2.state.warnings = [("first", .status "first" 502)] ∧
      ∃ shares, SurvivesAbort ⟨0, 0⟩ (Query.ofText "pad") scripts actions reached.1 reached.2
        shares := by
  intro scripts actions reached
  have course : SearchCourse ⟨0, 0⟩ (Query.ofText "pad") scripts none actions reached.1 reached.2 :=
    .of_sampleEnd rfl (by decide +kernel)
  have returned : hasReturned reached.2 = true := by decide +kernel
  have warnings : reached.2.state.warnings = [("first", .status "first" 502)] := by decide +kernel
  exact ⟨rfl, rfl, course, returned, warnings,
    (search_survives_abort ⟨0, 0⟩ (Query.ofText "pad") scripts rfl).1 course⟩

end PackageSearch
