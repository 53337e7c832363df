import PackageSearch.Search
import PackageSearch.Proofs.Merge.Arrivals
import PackageSearch.Proofs.Merge.Run

/-!
# The course of a search

A search may be aborted at any moment, and each uplink producer may notice this at another one.
`SearchCourse.exists_shares` takes whatever may happen apart into the shares of the producers. A
search that comes back without a failure of the local store has received all that these sent
(`SearchShares.settled`); the local store cannot be cancelled, so its failure is the one that its
script ends with (`SearchShares.failure_eq`).
-/

set_option autoImplicit false

namespace PackageSearch

open Merge

/-- Anything that may happen in a search from its beginning. -/
structure SearchCourse (settings : SearchSettings) (query : Query) (scripts : SourceScripts)
    (abortAt : Option Nat) (actions : List Action) (arrivals : List Message)
    (pipeline : Pipeline Consumer) : Prop where
  course : Pipeline.Course (mergeReceiver (Matcher.compile query.text))
    (searchPipeline settings scripts.sources abortAt) actions arrivals pipeline

/-! ## What the scripts of a search give -/

namespace SourceScripts

def deliveries (scripts : SourceScripts) : List (List Item) :=
  scripts.localStore.items.map .single ::
    scripts.uplinks.map fun uplink => uplink.2.items.map .batch

/-- The failure that the script of the local store ends with. -/
def localFailure? (scripts : SourceScripts) : Option StoreError :=
  scripts.localStore.failure? .localStore

def allEnd (scripts : SourceScripts) : Bool :=
  scripts.localStore.ends && scripts.uplinks.all fun uplink => uplink.2.ends

def transcripts (scripts : SourceScripts) : List (List Message) :=
  messagesOf .localStore (scripts.localStore.work .localStore) ::
    scripts.uplinks.map fun uplink =>
      messagesOf (.uplink uplink.1) (uplink.2.work (.uplink uplink.1))

variable (scripts : SourceScripts)

theorem remaining_producers :
    scripts.sources.producers.map Producer.remaining = scripts.transcripts := by
  simp only [Sources.producers, sources, transcripts, List.map_cons, List.map_map]
  rfl

theorem filterMap_item?_transcripts :
    scripts.transcripts.map (List.filterMap Message.item?) = scripts.deliveries := by
  simp only [transcripts, deliveries, List.map_cons, List.map_map, Function.comp_def,
    filterMap_item?_messagesOf]
  rfl

/-- Only the local store reports a failure of the local store. -/
theorem storeFailure?_mem_transcripts {part : List Message} {message : Message}
    {error : StoreError} (member : part ∈ scripts.transcripts) (held : message ∈ part)
    (failed : message.storeFailure? = some error) : scripts.localFailure? = some error := by
  rcases List.mem_cons.1 member with rfl | member
  · rcases mem_messagesOf_work.1 held with ⟨item, -, rfl⟩ | ⟨cause, ended, -, rfl⟩ | rfl
    · cases failed
    · cases failed
      exact ended
    · cases failed
  · obtain ⟨⟨name, script⟩, -, rfl⟩ := List.mem_map.1 member
    rcases mem_messagesOf_work.1 held with ⟨item, -, rfl⟩ | ⟨cause, -, -, rfl⟩ | rfl <;>
      cases failed

/-- A failure of the local store is reported. -/
theorem failed_mem_messagesOf {error : StoreError} (failed : scripts.localFailure? = some error) :
    Message.failed .localStore (.store error) ∈
      messagesOf .localStore (scripts.localStore.work .localStore) :=
  mem_messagesOf_work.2 (.inr (.inl ⟨error, failed, rfl, rfl⟩))

theorem exists_work {producer : Producer} (member : producer ∈ scripts.sources.producers) :
    ∃ work, producer.work? = some work := by
  rcases List.mem_cons.1 member with rfl | member
  · exact ⟨_, rfl⟩
  · obtain ⟨uplink, -, rfl⟩ := List.mem_map.1 member
    exact ⟨_, rfl⟩

theorem localStore_ends (ended : scripts.allEnd = true) : scripts.localStore.ends = true := by
  unfold allEnd at ended
  exact ((Bool.and_eq_true _ _).mp ended).1

/-- The producer of a source that comes to an end does so; that of an uplink can be aborted. -/
theorem producer_ends {aborted : Bool} (ended : scripts.localStore.ends = true)
    (freed : scripts.allEnd = true ∨ aborted = true) :
    ∀ producer ∈ scripts.sources.producers,
      producer.ends = true ∨ (aborted && producer.abortable) = true := by
  intro producer member
  rcases List.mem_cons.1 member with rfl | member
  · exact .inl ((Script.workEnds_work _ _).trans ended)
  · obtain ⟨⟨name, work⟩, inside, rfl⟩ := List.mem_map.1 member
    obtain ⟨⟨same, script⟩, held, equal⟩ := List.mem_map.1 inside
    cases equal
    rcases freed with all | rfl
    · simp only [allEnd, Bool.and_eq_true, List.all_eq_true] at all
      exact .inl ((Script.workEnds_work _ _).trans (all.2 _ held))
    · exact .inr rfl

end SourceScripts

/-! ## The shares of the producers -/

/-- What each producer did in a search, and what became of it. -/
structure SearchShares (query : Query) (scripts : SourceScripts) (arrivals : List Message)
    (pipeline : Pipeline Consumer) (shares : List Share) : Prop where
  state : pipeline.state = arrivals.foldl (Consumer.receive (Matcher.compile query.text))
    (Consumer.start shares.length)
  firsts : shares.map Share.first = scripts.sources.producers
  lasts : shares.map Share.last = pipeline.producers
  heard : pipeline.state.isOver = false → ∀ share ∈ shares, Heard share.trace
  cancelled : ∀ share ∈ shares, ∀ moment ∈ share.trace, moment.around.cancelled = true →
    pipeline.aborted = true ∧ share.first.abortable = true
  interleaving : Interleaving (shares.map Share.sent) (arrivals ++ pipeline.queue)

theorem SearchCourse.exists_shares {settings : SearchSettings} {query : Query}
    {scripts : SourceScripts} {abortAt : Option Nat} {actions : List Action}
    {arrivals : List Message} {pipeline : Pipeline Consumer}
    (course : SearchCourse settings query scripts abortAt actions arrivals pipeline) :
    ∃ shares, SearchShares query scripts arrivals pipeline shares := by
  obtain ⟨shares, firsts, lasts, within, whole, same, interleaving⟩ := course.course.exists_shares
  have empty : whole = arrivals ++ pipeline.queue := same
  refine ⟨shares, ?_, firsts, lasts, ?_, ?_, empty ▸ interleaving⟩
  · have counted : shares.length = scripts.sources.producers.length := by
      rw [← List.length_map Share.first, firsts]
      rfl
    rw [course.course.state_eq, counted]
    rfl
  · intro going share member
    exact (within share member).heard going
  · intro share member
    exact (within share member).cancelled

/-- A search in which all that was sent has been received. -/
structure Settled (arrivals : List Message) (pipeline : Pipeline Consumer) (shares : List Share) :
    Prop where
  empty : pipeline.queue = []
  finished : ∀ share ∈ shares, share.last.isFinished = true
  heard : ∀ share ∈ shares, Heard share.trace
  noticed : ∀ share ∈ shares, share.sent.countP Message.isDone = 1
  interleaving : Interleaving (shares.map Share.sent) arrivals

namespace SearchShares

variable {query : Query} {scripts : SourceScripts} {arrivals : List Message}
  {pipeline : Pipeline Consumer} {shares : List Share}

theorem awaited (own : SearchShares query scripts arrivals pipeline shares) :
    pipeline.state.awaited = shares.length - arrivals.countP Message.isDone := by
  rw [own.state, Consumer.foldl_awaited]
  rfl

theorem merged (own : SearchShares query scripts arrivals pipeline shares) :
    pipeline.state.merged = (deliveredListings arrivals).filter fun listing =>
      (Matcher.compile query.text).accepts listing.package := by
  rw [own.state, Consumer.foldl_merged]
  rfl

theorem warnings (own : SearchShares query scripts arrivals pipeline shares) :
    pipeline.state.warnings = arrivals.filterMap Message.warning? := by
  rw [own.state, Consumer.foldl_warnings]
  rfl

theorem first_mem (own : SearchShares query scripts arrivals pipeline shares) {share : Share}
    (member : share ∈ shares) : share.first ∈ scripts.sources.producers := by
  rw [← own.firsts]
  exact List.mem_map_of_mem member

theorem account (own : SearchShares query scripts arrivals pipeline shares) {share : Share}
    (member : share ∈ shares) : ∃ work, share.first.work? = some work ∧
      Account share.first.source work share.trace share.sent share.last := by
  obtain ⟨work, begun⟩ := scripts.exists_work (own.first_mem member)
  exact ⟨work, begun, share.account begun⟩

theorem map_remaining (own : SearchShares query scripts arrivals pipeline shares) :
    (shares.map fun share => share.first.remaining) = scripts.transcripts := by
  rw [← scripts.remaining_producers, ← own.firsts, List.map_map]
  rfl

theorem sent_subset (own : SearchShares query scripts arrivals pipeline shares) {share : Share}
    (member : share ∈ shares) : share.sent ⊆ share.first.remaining := by
  obtain ⟨work, begun, account⟩ := own.account member
  rw [Producer.remaining_eq begun]
  exact account.subset_messagesOf

/-- A producer that is heard throughout, not cancelled and finished has sent all it could. -/
theorem sent_eq (own : SearchShares query scripts arrivals pipeline shares) {share : Share}
    (member : share ∈ shares) (heard : Heard share.trace)
    (finished : share.last.isFinished = true)
    (free : pipeline.aborted = false ∨ share.first.abortable = false) :
    share.sent = share.first.remaining := by
  obtain ⟨work, begun, account⟩ := own.account member
  rw [Producer.remaining_eq begun]
  refine account.eq_messagesOf heard finished fun moment inside => ?_
  cases cancelled : moment.around.cancelled with
  | false => rfl
  | true =>
      obtain ⟨aborted, abortable⟩ := own.cancelled share member moment inside cancelled
      rcases free with never | fixed
      · cases never.symm.trans aborted
      · cases fixed.symm.trans abortable

/-- No producer gives more than one notice. -/
theorem countP_isDone_le (own : SearchShares query scripts arrivals pipeline shares) :
    ∀ count ∈ shares.map fun share => share.sent.countP Message.isDone, count ≤ 1 := by
  intro count member
  obtain ⟨share, inside, rfl⟩ := List.mem_map.1 member
  obtain ⟨work, -, account⟩ := own.account inside
  exact account.countP_isDone_le

theorem countP_add_countP (own : SearchShares query scripts arrivals pipeline shares) :
    arrivals.countP Message.isDone + pipeline.queue.countP Message.isDone =
      (shares.map fun share => share.sent.countP Message.isDone).sum := by
  rw [← List.countP_append, own.interleaving.countP_eq, List.map_map]
  rfl

/-- Once all notices have arrived, everything has. -/
theorem settled (own : SearchShares query scripts arrivals pipeline shares)
    (known : pipeline.state.awaited = 0) : Settled arrivals pipeline shares := by
  have all : shares.length ≤ arrivals.countP Message.isDone := by
    rw [own.awaited] at known
    exact Nat.sub_eq_zero_iff_le.1 known
  have total := own.countP_add_countP
  have noticed (share : Share) (member : share ∈ shares) :
      share.sent.countP Message.isDone = 1 := by
    refine eq_one_of_length_le_sum own.countP_isDone_le ?_ _ (List.mem_map_of_mem member)
    rw [List.length_map]
    omega
  have complete (share : Share) (member : share ∈ shares) : share.last.isFinished = true ∧
      Heard share.trace ∧ EndsAtMark Message.isDone share.sent := by
    obtain ⟨work, -, account⟩ := own.account member
    exact account.complete_of_done (by simp [noticed share member])
  have empty : pipeline.queue = [] := by
    refine own.interleaving.rest_eq_nil Message.isDone (fun part member => ?_) ?_
    · obtain ⟨share, inside, rfl⟩ := List.mem_map.1 member
      exact (complete share inside).2.2
    · refine Nat.le_trans (sum_le_length fun count member => ?_) ?_
      · obtain ⟨part, -, rfl⟩ := List.mem_map.1 member
        split <;> decide
      · simpa using all
  refine ⟨empty, fun share member => (complete share member).1,
    fun share member => (complete share member).2.1, noticed, ?_⟩
  have interleaving := own.interleaving
  rwa [empty, List.append_nil] at interleaving

/-- A search does not come back before all notices have arrived, unless the local store fails. -/
theorem awaited_eq_zero (own : SearchShares query scripts arrivals pipeline shares)
    (returned : hasReturned pipeline = true) (sound : pipeline.state.failure = none) :
    pipeline.state.awaited = 0 := by
  simp only [hasReturned, sound, Option.isSome_none, Bool.false_or, Bool.and_eq_true,
    List.all_eq_true, Bool.or_eq_true, beq_iff_eq, List.isEmpty_iff] at returned
  obtain ⟨finished, known | empty⟩ := returned
  · exact known
  · -- Else nobody gave up a message, and each finished producer has sent its notice.
    rcases Nat.eq_zero_or_pos pipeline.state.awaited with known | unknown
    · exact known
    have going : pipeline.state.isOver = false := by
      simp [Consumer.isOver, sound, Nat.ne_of_gt unknown]
    have ones : shares.map (fun share => share.sent.countP Message.isDone) =
        List.replicate shares.length 1 := by
      refine List.eq_replicate_iff.2 ⟨List.length_map _, fun count member => ?_⟩
      obtain ⟨share, inside, rfl⟩ := List.mem_map.1 member
      have closed : share.last.isFinished = true := by
        apply finished
        rw [← own.lasts]
        exact List.mem_map_of_mem inside
      obtain ⟨work, -, account⟩ := own.account inside
      exact account.countP_isDone (own.heard going share inside) closed
    have total := own.countP_add_countP
    rw [ones, empty, List.countP_nil, List.sum_replicate_nat, Nat.mul_one] at total
    rw [own.awaited] at unknown
    omega

theorem localFailure?_of_failure (own : SearchShares query scripts arrivals pipeline shares)
    {error : StoreError} (failed : pipeline.state.failure = some error) :
    scripts.localFailure? = some error := by
  rw [own.state] at failed
  rcases Consumer.foldl_failure_eq_some failed with before | ⟨message, member, reported⟩
  · cases before
  · obtain ⟨part, inside, held⟩ :=
      own.interleaving.exists_of_mem (List.mem_append_left pipeline.queue member)
    obtain ⟨share, entry, rfl⟩ := List.mem_map.1 inside
    have part : share.first.remaining ∈ scripts.transcripts := by
      rw [← own.map_remaining]
      exact List.mem_map_of_mem entry
    exact scripts.storeFailure?_mem_transcripts part (own.sent_subset entry held) reported

/-- The share of the local store comes first, and then those of the uplinks. -/
theorem exists_head (own : SearchShares query scripts arrivals pipeline shares) :
    ∃ share others, shares = share :: others ∧
      share.first = .start .localStore false (scripts.localStore.work .localStore) ∧
      ∀ other ∈ others, ∃ uplink ∈ scripts.uplinks, other.first =
        .start (.uplink uplink.1) true (uplink.2.work (.uplink uplink.1)) := by
  obtain ⟨share, others, rfl, first, rest⟩ := List.map_eq_cons_iff.1 own.firsts
  refine ⟨share, others, rfl, first, fun other member => ?_⟩
  have inside := List.mem_map_of_mem (f := Share.first) member
  rw [rest] at inside
  obtain ⟨work, inside, same⟩ := List.mem_map.1 inside
  obtain ⟨uplink, held, rfl⟩ := List.mem_map.1 inside
  exact ⟨uplink, held, same.symm⟩

theorem failure_eq (own : SearchShares query scripts arrivals pipeline shares)
    (returned : hasReturned pipeline = true) :
    pipeline.state.failure = scripts.localFailure? := by
  cases failed : pipeline.state.failure with
  | some error => exact (own.localFailure?_of_failure failed).symm
  | none =>
      have settled := own.settled (own.awaited_eq_zero returned failed)
      cases reported : scripts.localFailure? with
      | none => rfl
      | some error =>
          obtain ⟨share, others, rfl, first, -⟩ := own.exists_head
          have member : share ∈ share :: others := List.mem_cons_self
          have sent := own.sent_eq member (settled.heard share member)
            (settled.finished share member) (.inr (by rw [first]; rfl))
          have held : Message.failed .localStore (.store error) ∈ share.sent := by
            rw [sent, first]
            exact scripts.failed_mem_messagesOf reported
          rw [own.state, Consumer.foldl_failure_eq_none_iff] at failed
          have silent :=
            failed.2 _ (settled.interleaving.mem_of_mem (List.mem_map_of_mem member) held)
          cases silent

theorem settled_of_sound (own : SearchShares query scripts arrivals pipeline shares)
    (returned : hasReturned pipeline = true) (sound : scripts.localFailure? = none) :
    Settled arrivals pipeline shares :=
  own.settled (own.awaited_eq_zero returned ((own.failure_eq returned).trans sound))

/-- What a returned search makes of its merge: the failure of the local store, or all matching
listings that were delivered, in the order of arrival. -/
theorem outcome_eq (own : SearchShares query scripts arrivals pipeline shares)
    (returned : hasReturned pipeline = true) :
    pipeline.state.outcome =
      match scripts.localFailure? with
      | some error => .error (.store error)
      | none => .ok ((deliveredListings arrivals).filter fun listing =>
          (Matcher.compile query.text).accepts listing.package) := by
  have failure := own.failure_eq returned
  unfold Consumer.outcome
  rw [failure]
  cases reported : scripts.localFailure? with
  | some error => rfl
  | none =>
      have known := own.awaited_eq_zero returned (failure.trans reported)
      simp only [known, ↓reduceIte, own.merged]

/-- Without an abort, the producers of a search that has received all have sent all they could. -/
theorem map_sent_eq (own : SearchShares query scripts arrivals pipeline shares)
    (settled : Settled arrivals pipeline shares) (unaborted : pipeline.aborted = false) :
    shares.map Share.sent = scripts.transcripts := by
  rw [← own.map_remaining]
  refine List.map_congr_left fun share member => ?_
  exact own.sent_eq member (settled.heard share member) (settled.finished share member)
    (.inl unaborted)

end SearchShares

/-- A search does not get stuck if its sources come to an end, those of the uplinks unless it is
aborted. -/
theorem SearchCourse.exists_action {settings : SearchSettings} {query : Query}
    {scripts : SourceScripts} {abortAt : Option Nat} {actions : List Action}
    {arrivals : List Message} {pipeline : Pipeline Consumer}
    (course : SearchCourse settings query scripts abortAt actions arrivals pipeline)
    (ended : scripts.localStore.ends = true)
    (freed : scripts.allEnd = true ∨ pipeline.aborted = true)
    (waiting : hasReturned pipeline = false) :
    ∃ action, action ≠ .abort ∧
      (pipeline.act? (mergeReceiver (Matcher.compile query.text)) action).isSome = true := by
  obtain ⟨shares, own⟩ := course.exists_shares
  have roomy : 0 < pipeline.capacity := by
    rw [course.course.capacity_eq]
    exact Nat.lt_of_lt_of_le Nat.one_pos (Nat.le_max_left _ _)
  have going : ∀ producer ∈ pipeline.producers,
      producer.ends = true ∨ (pipeline.aborted && producer.abortable) = true := by
    intro producer member
    rw [← own.lasts] at member
    obtain ⟨share, inside, rfl⟩ := List.mem_map.1 member
    rw [share.conduct.abortable_eq]
    exact (scripts.producer_ends ended freed _ (own.first_mem inside)).imp_left share.conduct.ends
  refine Pipeline.exists_action roomy going ?_
  simp only [hasReturned, Bool.or_eq_false_iff, Bool.and_eq_false_iff, List.all_eq_false,
    Bool.not_eq_true, beq_eq_false_iff_ne, List.isEmpty_eq_false_iff] at waiting
  obtain ⟨sound, unfinished | ⟨awaited, queued⟩⟩ := waiting
  · exact .inl unfinished
  · refine .inr ⟨?_, queued⟩
    simp [mergeReceiver, Consumer.isOver, sound, awaited]

end PackageSearch
