import Mathlib.Data.List.Perm.Subperm
import PackageSearch.Proofs.Search.Abort
import PackageSearch.Proofs.Search.Mending

/-!
# How failures of uplinks show

A failure of an uplink shows in the warnings of a search and nowhere else. `search_hides_failures`
compares a run with those in which some uplinks end well where they fail, everything else arriving
in the same order, and counts the warnings.
-/

set_option autoImplicit false

namespace PackageSearch

open Access (Identity Oracle)
open Merge
open Package (Listing)

/-- What arrives in a search, reports of uplinks left out. -/
def arrivalOrder (arrivals : List Message) : List Message :=
  arrivals.filter fun message => ! message.isReport

theorem Merge.Muffled.arrivalOrder_eq {all kept : List Message} (muffled : Muffled all kept) :
    arrivalOrder kept = arrivalOrder all := by
  induction muffled with
  | nil => rfl
  | keep _ ih =>
      simp only [arrivalOrder, List.filter_cons] at ih ⊢
      rw [ih]
  | drop report _ ih =>
      simp only [arrivalOrder, List.filter_cons, report, Bool.not_true, Bool.false_eq_true,
        ↓reduceIte] at ih ⊢
      exact ih

theorem deliveredListings_arrivalOrder (arrivals : List Message) :
    deliveredListings (arrivalOrder arrivals) = deliveredListings arrivals := by
  have same : (arrivalOrder arrivals).filterMap Message.item? =
      arrivals.filterMap Message.item? := by
    rw [arrivalOrder, List.filterMap_filter]
    refine List.filterMap_congr fun message _ => ?_
    cases message with
    | item | done => rfl
    | failed source failure => cases failure <;> rfl
  rw [deliveredListings, deliveredListings, same]

/-! ## Warnings -/

/-- The failure that an uplink ends with, under its name, unless the uplink says it was
cancelled. -/
def loudFailure? (uplink : String × Script UplinkError (List Listing)) :
    Option (String × UplinkError) :=
  match uplink.2.failure? (.uplink uplink.1) with
  | none => none
  | some .cancelled => none
  | some error => some (uplink.1, error)

def SourceScripts.loudFailures (scripts : SourceScripts) : List (String × UplinkError) :=
  scripts.uplinks.filterMap loudFailure?

theorem filterMap_warning?_messagesOf (name : String)
    (script : Script UplinkError (List Listing)) :
    (messagesOf (.uplink name) (script.work (.uplink name))).filterMap Message.warning? =
      (loudFailure? (name, script)).toList := by
  rw [Script.messagesOf_work, loudFailure?]
  cases script.failure? (.uplink name) with
  | none => simp [Message.warning?, List.filterMap_map, Function.comp_def]
  | some error =>
      cases error <;>
        simp [Message.warning?, SourceKind.uplink, Failure.isQuiet, SourceId.text,
          List.filterMap_map, Function.comp_def, Option.filter]

theorem SourceScripts.flatMap_transcripts (scripts : SourceScripts) :
    scripts.transcripts.flatMap (List.filterMap Message.warning?) = scripts.loudFailures := by
  have quiet : (messagesOf .localStore (scripts.localStore.work .localStore)).filterMap
      Message.warning? = [] := by
    refine List.filterMap_eq_nil_iff.2 fun message member => ?_
    rcases mem_messagesOf_work.1 member with ⟨item, -, rfl⟩ | ⟨error, -, -, rfl⟩ | rfl <;> rfl
  rw [transcripts, List.flatMap_cons, quiet, List.nil_append, List.flatMap_map, loudFailures,
    List.filterMap_eq_flatMap_toList]
  exact congrArg (fun view => scripts.uplinks.flatMap view)
    (funext fun uplink => filterMap_warning?_messagesOf uplink.1 uplink.2)

theorem sublist_flatMap {α β : Type} {left right : α → List β} {entries : List α}
    (shorter : ∀ entry ∈ entries, List.Sublist (left entry) (right entry)) :
    List.Sublist (entries.flatMap left) (entries.flatMap right) := by
  induction entries with
  | nil => exact .slnil
  | cons entry rest ih =>
      obtain ⟨here, later⟩ := List.forall_mem_cons.1 shorter
      rw [List.flatMap_cons, List.flatMap_cons]
      exact here.append (ih later)

namespace SearchShares

variable {query : Query} {scripts : SourceScripts} {arrivals : List Message}
  {pipeline : Pipeline Consumer} {shares : List Share}

/-- No uplink is warned of more than once, and none that does not fail aloud. -/
theorem warnings_subperm (own : SearchShares query scripts arrivals pipeline shares) :
    pipeline.state.warnings.Subperm scripts.loudFailures := by
  have earlier : List.Sublist (arrivals.filterMap Message.warning?)
      ((arrivals ++ pipeline.queue).filterMap Message.warning?) :=
    (List.sublist_append_left _ _).filterMap _
  have sent : ((arrivals ++ pipeline.queue).filterMap Message.warning?).Perm
      (shares.flatMap fun share => share.sent.filterMap Message.warning?) := by
    have all := own.interleaving.perm.filterMap Message.warning?
    rwa [List.filterMap_flatten, List.map_map, ← List.flatMap_def] at all
  have shorter : List.Sublist (shares.flatMap fun share => share.sent.filterMap Message.warning?)
      (shares.flatMap fun share => share.first.remaining.filterMap Message.warning?) := by
    refine sublist_flatMap fun share member => ?_
    cases own.contribution member with
    | uncut _ begun => exact begun.sublist.filterMap _
    | cut _ cut =>
        rw [(own.contribution member).quiet cut]
        exact List.nil_sublist _
  have whole : (shares.flatMap fun share => share.first.remaining.filterMap Message.warning?) =
      scripts.loudFailures := by
    rw [← scripts.flatMap_transcripts, ← own.map_remaining, List.flatMap_map]
  rw [own.warnings, ← whole]
  exact (earlier.subperm.trans sent.subperm).trans shorter.subperm

/-- Without an abort, each uplink that fails aloud is warned of once. -/
theorem warnings_perm (own : SearchShares query scripts arrivals pipeline shares)
    (settled : Settled arrivals pipeline shares) (unaborted : pipeline.aborted = false) :
    pipeline.state.warnings.Perm scripts.loudFailures := by
  have all := settled.interleaving.perm.filterMap Message.warning?
  rw [own.map_sent_eq settled unaborted, List.filterMap_flatten, ← List.flatMap_def,
    scripts.flatMap_transcripts] at all
  rwa [own.warnings]

end SearchShares

/-! ## The outcome -/

theorem SourceScripts.deliveries_mend (scripts : SourceScripts) (chosen : Nat → Bool) :
    (scripts.mend chosen).deliveries = scripts.deliveries := by
  refine congrArg (List.cons _) (List.ext_getElem? fun index => ?_)
  rw [List.getElem?_map, List.getElem?_map, mend, List.getElem?_mapIdx, Option.map_map]
  refine congrArg (fun view => Option.map view scripts.uplinks[index]?) (funext fun uplink => ?_)
  simp only [Function.comp_apply]
  split
  · rw [Script.items_mended]
  · rfl

theorem SourceScripts.failure?_mend {scripts : SourceScripts} {chosen : Nat → Bool} {index : Nat}
    {uplink : String × Script UplinkError (List Listing)}
    (found : (scripts.mend chosen).uplinks[index]? = some uplink) (mended : chosen index = true) :
    uplink.2.failure? (.uplink uplink.1) = none := by
  rw [mend, List.getElem?_mapIdx] at found
  obtain ⟨whole, -, rfl⟩ := Option.map_eq_some_iff.1 found
  rw [if_pos mended]
  exact Script.failure?_mended _ _

/-- Searches in which the same arrives in the same order come to the same, whichever uplinks
fail. -/
theorem SearchCourse.conclude_mend {settings : SearchSettings} {query : Query}
    {scripts : SourceScripts} {chosen : Nat → Bool} {abortAt instant : Option Nat}
    {actions others : List Action} {arrivals kept : List Message}
    {pipeline mended : Pipeline Consumer}
    (course : SearchCourse settings query scripts abortAt actions arrivals pipeline)
    (returned : hasReturned pipeline = true)
    (other : SearchCourse settings query (scripts.mend chosen) instant others kept mended)
    (again : hasReturned mended = true) (same : arrivalOrder kept = arrivalOrder arrivals)
    (oracle : Oracle) (identity : Identity) :
    conclude settings query oracle identity mended.state =
      conclude settings query oracle identity pipeline.state := by
  have delivered : deliveredListings kept = deliveredListings arrivals := by
    rw [← deliveredListings_arrivalOrder kept, same, deliveredListings_arrivalOrder]
  rw [course.conclude_eq returned, other.conclude_eq again, delivered]
  rfl

/-- Beside every run of a search there is one in which the chosen uplinks end well where they fail,
and everything arrives in the same order but their reports; all such runs have the same outcome, and
the failures show in the warnings only. -/
theorem search_hides_failures {settings : SearchSettings} {query : Query} {scripts : SourceScripts}
    {abortAt : Option Nat} {actions : List Action} {arrivals : List Message}
    {pipeline : Pipeline Consumer} (chosen : Nat → Bool)
    (run : Pipeline.Run (mergeReceiver (Matcher.compile query.text)) (fun _ => True)
      (searchPipeline settings scripts.sources abortAt) actions arrivals pipeline) :
    (scripts.mend chosen).deliveries = scripts.deliveries ∧
    (∀ index uplink, (scripts.mend chosen).uplinks[index]? = some uplink → chosen index = true →
      uplink.2.failure? (.uplink uplink.1) = none) ∧
    (∃ others kept mended,
      Pipeline.Run (mergeReceiver (Matcher.compile query.text)) (fun _ => True)
        (searchPipeline settings (scripts.mend chosen).sources abortAt) others kept mended ∧
      List.Sublist others actions ∧ arrivalOrder kept = arrivalOrder arrivals ∧
      (hasReturned pipeline = true → hasReturned mended = true)) ∧
    (hasReturned pipeline = true → ∀ {instant others kept mended},
      SearchCourse settings query (scripts.mend chosen) instant others kept mended →
      hasReturned mended = true → arrivalOrder kept = arrivalOrder arrivals →
      ∀ (oracle : Oracle) (identity : Identity),
        conclude settings query oracle identity mended.state =
          conclude settings query oracle identity pipeline.state) ∧
    pipeline.state.warnings.Subperm scripts.loudFailures ∧
    (hasReturned pipeline = true → scripts.localFailure? = none → pipeline.aborted = false →
      pipeline.state.warnings.Perm scripts.loudFailures) := by
  have course : SearchCourse settings query scripts abortAt actions arrivals pipeline :=
    ⟨run.course⟩
  obtain ⟨shares, own⟩ := course.exists_shares
  refine ⟨scripts.deliveries_mend chosen, fun _ _ => SourceScripts.failure?_mend, ?_,
    fun returned _ _ _ _ => course.conclude_mend returned, own.warnings_subperm, ?_⟩
  · obtain ⟨others, kept, mended, beside, shorter, muffled, mends⟩ := exists_mended_run chosen run
    exact ⟨others, kept, mended, beside, shorter, muffled.arrivalOrder_eq, mends.hasReturned⟩
  · intro returned sound unaborted
    exact own.warnings_perm (own.settled_of_sound returned sound) unaborted

/-- An uplink fails behind its listings, and another one panics. -/
theorem search_hides_failures_sample :
    let scripts := sampleScripts [⟨0, .value none⟩] [⟨0, .value none⟩, ⟨1, .panic "uplink bug"⟩]
    let actions : List Action :=
      [.produce 2, .produce 1, .produce 0, .produce 2, .produce 1, .produce 0, .produce 2,
        .produce 1, .produce 0, .receive, .produce 2, .produce 1, .receive, .produce 2, .produce 1,
        .receive, .produce 2, .receive, .produce 1, .receive, .produce 2, .receive]
    let reached := sampleEnd scripts actions
    let query := Query.ofText "pad"
    hasReturned reached.2 = true ∧
      reached.2.state.warnings =
        [("second", .task "second" "uplink bug"), ("first", .status "first" 502)] ∧
      ∃ others kept mended,
        SearchCourse ⟨0, 0⟩ query (scripts.mend fun _ => true) none others kept mended ∧
        arrivalOrder kept = arrivalOrder reached.1 ∧ hasReturned mended = true ∧
        conclude ⟨0, 0⟩ query sampleOracle .anonymous mended.state =
          conclude ⟨0, 0⟩ query sampleOracle .anonymous reached.2.state := by
  intro scripts actions reached query
  have returned : hasReturned reached.2 = true := by decide +kernel
  have warnings : reached.2.state.warnings =
      [("second", .task "second" "uplink bug"), ("first", .status "first" 502)] := by
    decide +kernel
  have run : Pipeline.Run (mergeReceiver (Matcher.compile query.text)) (fun _ => True)
      (searchPipeline ⟨0, 0⟩ scripts.sources none) actions reached.1 reached.2 :=
    run_sampleEnd rfl (by decide +kernel)
  obtain ⟨-, -, ⟨others, kept, mended, beside, -, same, returns⟩, equal, -⟩ :=
    search_hides_failures (fun _ => true) run
  exact ⟨returned, warnings, others, kept, mended, ⟨beside.course⟩, same, returns returned,
    equal returned ⟨beside.course⟩ (returns returned) same sampleOracle .anonymous⟩

end PackageSearch
