import PackageSearch.Proofs.Search.Answer

/-!
# How a search drains

The receiver counts notices and does not wait for the channel to close. `search_drains` says that
this is enough, for a channel of any capacity: as long as notices are missing something can happen,
and when the last one arrives the channel is empty, no producer has anything left to send, and all
that was ever sent has been received once and in the order of its source.
-/

set_option autoImplicit false

namespace PackageSearch

open Merge

/-- What holds of a search at every moment, if its sources come to an end and the local store does
not fail. -/
structure Drains (settings : SearchSettings) (query : Query) (scripts : SourceScripts)
    (actions : List Action) (arrivals : List Message) (pipeline : Pipeline Consumer)
    (shares : List Share) : Prop where
  bounded : actions.length ≤ (searchPipeline settings scripts.sources none).effort
  fits : pipeline.queue.length ≤ max 1 settings.mergeBuffer
  goes_on : pipeline.state.isOver = false → ∃ action, action ≠ .abort ∧
    (pipeline.act? (mergeReceiver (Matcher.compile query.text)) action).isSome = true
  firsts : shares.map Share.first = scripts.sources.producers
  lasts : shares.map Share.last = pipeline.producers
  lossless : Interleaving (shares.map Share.sent) (arrivals ++ pipeline.queue)
  merged : pipeline.state.merged = (deliveredListings arrivals).filter fun listing =>
    (Matcher.compile query.text).accepts listing.package
  isOver_iff : pipeline.state.isOver = true ↔
    arrivals.countP Message.isDone = scripts.sources.producers.length
  at_end : pipeline.state.isOver = true →
    pipeline.state.outcome = .ok pipeline.state.merged ∧ pipeline.queue = [] ∧
    (∀ producer ∈ pipeline.producers, producer.isFinished = true) ∧ hasReturned pipeline = true ∧
    Interleaving (shares.map Share.sent) arrivals ∧
    (∀ share ∈ shares, share.sent.countP Message.isDone = 1) ∧
    (pipeline.aborted = false → shares.map Share.sent = scripts.transcripts)

namespace SearchShares

variable {query : Query} {scripts : SourceScripts} {arrivals : List Message}
  {pipeline : Pipeline Consumer} {shares : List Share}

theorem length_eq (own : SearchShares query scripts arrivals pipeline shares) :
    shares.length = scripts.sources.producers.length := by
  rw [← own.firsts, List.length_map]

/-- No more notices arrive than there are producers. -/
theorem countP_isDone_arrivals_le (own : SearchShares query scripts arrivals pipeline shares) :
    arrivals.countP Message.isDone ≤ shares.length := by
  have total := own.countP_add_countP
  have small := sum_le_length own.countP_isDone_le
  rw [List.length_map] at small
  omega

theorem failure_eq_none (own : SearchShares query scripts arrivals pipeline shares)
    (sound : scripts.localFailure? = none) : pipeline.state.failure = none := by
  cases failed : pipeline.state.failure with
  | none => rfl
  | some error => cases sound.symm.trans (own.localFailure?_of_failure failed)

theorem isOver_iff (own : SearchShares query scripts arrivals pipeline shares)
    (sound : scripts.localFailure? = none) :
    pipeline.state.isOver = true ↔ pipeline.state.awaited = 0 := by
  simp [Consumer.isOver, own.failure_eq_none sound]

end SearchShares

/-- A search whose local store does not fail has come back when its merge is over. -/
theorem Settled.hasReturned {arrivals : List Message} {pipeline : Pipeline Consumer}
    {shares : List Share} (settled : Settled arrivals pipeline shares)
    (lasts : shares.map Share.last = pipeline.producers) (known : pipeline.state.awaited = 0) :
    (∀ producer ∈ pipeline.producers, producer.isFinished = true) ∧
      PackageSearch.hasReturned pipeline = true := by
  have finished : ∀ producer ∈ pipeline.producers, producer.isFinished = true := by
    intro producer member
    rw [← lasts] at member
    obtain ⟨share, inside, rfl⟩ := List.mem_map.1 member
    exact settled.finished share inside
  refine ⟨finished, ?_⟩
  simp only [PackageSearch.hasReturned, known, beq_self_eq_true, Bool.true_or, Bool.and_true,
    Bool.or_eq_true, List.all_eq_true]
  exact .inr finished

/-- A search does not come back while its merge is not over. -/
theorem SearchShares.hasReturned_eq_false {query : Query} {scripts : SourceScripts}
    {arrivals : List Message} {pipeline : Pipeline Consumer} {shares : List Share}
    (own : SearchShares query scripts arrivals pipeline shares)
    (sound : scripts.localFailure? = none) (going : pipeline.state.isOver = false) :
    hasReturned pipeline = false := by
  cases returned : hasReturned pipeline with
  | false => rfl
  | true =>
      have known := own.awaited_eq_zero returned (own.failure_eq_none sound)
      cases going.symm.trans ((own.isOver_iff sound).2 known)

/-- A search whose sources come to an end drains its channel, whatever its capacity, whenever it is
aborted, and however the uplinks fail; in the order of the clock it comes back. -/
theorem search_drains (settings : SearchSettings) (query : Query) (scripts : SourceScripts)
    (sound : scripts.localFailure? = none) (ended : scripts.allEnd = true) :
    (∀ {abortAt actions arrivals pipeline},
      SearchCourse settings query scripts abortAt actions arrivals pipeline →
        ∃ shares, Drains settings query scripts actions arrivals pipeline shares) ∧
    ∀ oracle identity abortAt,
      (search settings query oracle identity scripts.sources abortAt).returned = true := by
  constructor
  · intro abortAt actions arrivals pipeline course
    obtain ⟨shares, own⟩ := course.exists_shares
    have counted := own.awaited
    have most := own.countP_isDone_arrivals_le
    rw [own.length_eq] at counted most
    refine ⟨shares, ?_, ?_, ?_, own.firsts, own.lasts, own.interleaving, own.merged, ?_, ?_⟩
    · exact Nat.le_of_add_right_le course.course.length_add_effort_le
    · have fits := course.course.queue_length_le (Nat.zero_le _)
      rwa [course.course.capacity_eq] at fits
    · intro going
      exact course.exists_action (scripts.localStore_ends ended) (.inl ended)
        (own.hasReturned_eq_false sound going)
    · rw [own.isOver_iff sound]
      omega
    · intro closed
      have known := (own.isOver_iff sound).1 closed
      have settled := own.settled known
      obtain ⟨finished, returned⟩ := settled.hasReturned own.lasts known
      refine ⟨?_, settled.empty, finished, returned, settled.interleaving, settled.noticed, ?_⟩
      · rw [own.outcome_eq returned, sound, own.merged]
      · exact own.map_sent_eq settled
  · intro oracle identity abortAt
    obtain ⟨actions, arrivals, pipeline, -, -, -, -, returned, returns⟩ :=
      exists_run_of_search settings query oracle identity scripts abortAt
    exact returned.trans (returns (scripts.localStore_ends ended) (.inl ended))

/-- An uplink panics, and another one is aborted behind its listings. -/
theorem search_drains_sample :
    let scripts := sampleScripts [⟨0, .value none⟩] [⟨0, .value none⟩, ⟨1, .panic "uplink bug"⟩]
    let actions : List Action :=
      [.produce 2, .produce 1, .produce 0, .produce 2, .produce 1, .produce 0, .produce 2,
        .produce 1, .produce 0, .receive, .produce 2, .produce 1, .receive, .abort, .produce 2,
        .produce 1, .receive, .produce 2, .receive, .produce 1, .receive]
    let reached := sampleEnd scripts actions
    scripts.localFailure? = none ∧ scripts.allEnd = true ∧
      SearchCourse ⟨0, 0⟩ (Query.ofText "pad") scripts none actions reached.1 reached.2 ∧
      reached.2.state.isOver = true ∧ reached.2.aborted = true ∧
      ∃ shares, Drains ⟨0, 0⟩ (Query.ofText "pad") scripts actions reached.1 reached.2 shares := by
  intro scripts actions reached
  have course : SearchCourse ⟨0, 0⟩ (Query.ofText "pad") scripts none actions reached.1 reached.2 :=
    .of_sampleEnd rfl (by decide +kernel)
  have closed : reached.2.state.isOver = true := by decide +kernel
  have aborted : reached.2.aborted = true := by decide +kernel
  exact ⟨rfl, rfl, course, closed, aborted,
    (search_drains ⟨0, 0⟩ (Query.ofText "pad") scripts rfl rfl).1 course⟩

end PackageSearch
