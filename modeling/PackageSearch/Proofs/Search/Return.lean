import PackageSearch.Proofs.Merge.Schedule
import PackageSearch.Proofs.Search.Course

/-!
# How a search comes back

A search comes back either with the failure of the local store, which its script ends with, or after
everything that the sources send has arrived, in an order that interleaves them.
-/

set_option autoImplicit false

namespace PackageSearch

open Merge (Action Consumer Message Pipeline)

/-- A run of a search from its beginning that nobody aborts. -/
structure SearchRun (settings : SearchSettings) (query : Query) (scripts : SourceScripts)
    (actions : List Action) (arrivals : List Message) (pipeline : Pipeline Consumer) : Prop where
  run : Pipeline.Run (mergeReceiver (Matcher.compile query.text)) (fun _ => True)
    (searchPipeline settings scripts.sources none) actions arrivals pipeline
  unaborted : Action.abort ∉ actions

namespace SearchRun

variable {settings : SearchSettings} {query : Query} {scripts : SourceScripts}
  {actions : List Action} {arrivals : List Message} {pipeline : Pipeline Consumer}

theorem searchCourse (run : SearchRun settings query scripts actions arrivals pipeline) :
    SearchCourse settings query scripts none actions arrivals pipeline :=
  ⟨run.run.course⟩

theorem aborted_eq (run : SearchRun settings query scripts actions arrivals pipeline) :
    pipeline.aborted = false :=
  run.run.course.aborted_eq run.unaborted

/-- A search that comes back without a failure of the local store has received everything. -/
theorem interleaving_arrivals (run : SearchRun settings query scripts actions arrivals pipeline)
    (returned : hasReturned pipeline = true) (sound : pipeline.state.failure = none) :
    Interleaving scripts.transcripts arrivals := by
  obtain ⟨shares, own⟩ := run.searchCourse.exists_shares
  have settled := own.settled (own.awaited_eq_zero returned sound)
  rw [← own.map_sent_eq settled run.aborted_eq]
  exact settled.interleaving

theorem failure_eq (run : SearchRun settings query scripts actions arrivals pipeline)
    (returned : hasReturned pipeline = true) :
    pipeline.state.failure = scripts.localFailure? := by
  obtain ⟨shares, own⟩ := run.searchCourse.exists_shares
  exact own.failure_eq returned

/-- A search whose sources all come to an end does not get stuck. -/
theorem exists_action (run : SearchRun settings query scripts actions arrivals pipeline)
    (ended : scripts.allEnd = true) (waiting : hasReturned pipeline = false) :
    ∃ action, action ≠ .abort ∧
      (pipeline.act? (mergeReceiver (Matcher.compile query.text)) action).isSome = true :=
  run.searchCourse.exists_action (scripts.localStore_ends ended) (.inl ended) waiting

end SearchRun

/-- The search in the order of the clock is one of the runs, and it comes back if every source comes
to an end. Once it is aborted, only the local store has to. -/
theorem exists_run_of_search (settings : SearchSettings) (query : Query) (oracle : Access.Oracle)
    (identity : Access.Identity) (scripts : SourceScripts) (abortAt : Option Nat) :
    ∃ actions arrivals pipeline,
      Pipeline.Run (mergeReceiver (Matcher.compile query.text)) (fun _ => True)
        (searchPipeline settings scripts.sources abortAt) actions arrivals pipeline ∧
      (abortAt = none → Action.abort ∉ actions) ∧
      (search settings query oracle identity scripts.sources abortAt).outcome =
        conclude settings query oracle identity pipeline.state ∧
      (search settings query oracle identity scripts.sources abortAt).warnings =
        pipeline.state.warnings ∧
      (search settings query oracle identity scripts.sources abortAt).returned =
        hasReturned pipeline ∧
      (scripts.localStore.ends = true → scripts.allEnd = true ∨ abortAt.isSome = true →
        hasReturned pipeline = true) := by
  obtain ⟨⟨actions, arrivals, run, unaborted⟩, stuck, aborted⟩ :=
    Pipeline.exists_run (mergeReceiver (Matcher.compile query.text))
      (searchPipeline settings scripts.sources abortAt) (Nat.le_refl _)
  refine ⟨actions, arrivals, _, run, unaborted, rfl, rfl, rfl, fun ended freed => ?_⟩
  cases returned : hasReturned _ with
  | true => rfl
  | false =>
      have course : SearchCourse settings query scripts abortAt actions arrivals _ := ⟨run.course⟩
      obtain ⟨action, other, enabled⟩ :=
        course.exists_action ended (freed.imp_right aborted) returned
      rw [stuck action other] at enabled
      cases enabled

theorem exists_searchRun (settings : SearchSettings) (query : Query) (oracle : Access.Oracle)
    (identity : Access.Identity) (scripts : SourceScripts) :
    ∃ actions arrivals pipeline, SearchRun settings query scripts actions arrivals pipeline ∧
      (search settings query oracle identity scripts.sources none).outcome =
        conclude settings query oracle identity pipeline.state ∧
      (search settings query oracle identity scripts.sources none).returned =
        hasReturned pipeline ∧
      (scripts.allEnd = true → hasReturned pipeline = true) := by
  obtain ⟨actions, arrivals, pipeline, run, unaborted, outcome, -, returned, returns⟩ :=
    exists_run_of_search settings query oracle identity scripts none
  exact ⟨actions, arrivals, pipeline, ⟨run, unaborted rfl⟩, outcome, returned,
    fun ended => returns (scripts.localStore_ends ended) (.inl ended)⟩

end PackageSearch
