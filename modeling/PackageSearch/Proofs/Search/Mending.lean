import Mathlib.Data.List.Forall2
import PackageSearch.Proofs.Search.Return

/-!
# Mended uplinks

A mended script ends where the script fails. Beside every run of a search there is one with some of
its uplinks mended (`exists_mended_run`): the report of a failure has no counterpart in it, and
every other message arrives in its turn. The relation that carries this leaves out reports of
uplinks and warnings.
-/

set_option autoImplicit false

namespace PackageSearch

namespace Merge

/-! ## Mended scripts and work -/

/-- The script with its first failing call ending well and no calls behind that. -/
def Script.mended {ε α : Type} : Script ε α → Script ε α
  | [] => []
  | call :: rest =>
      match call.ending with
      | .value _ => call :: mended rest
      | .error _ => [⟨call.wait, .value none⟩]
      | .panic _ => [⟨call.wait, .value none⟩]
      | .never => call :: rest

/-- The work up to its failure. -/
def mendedWork : List Act → List Act
  | [] => []
  | .pause milliseconds :: rest => .pause milliseconds :: mendedWork rest
  | .deliver item :: rest => .deliver item :: mendedWork rest
  | .fail _ :: _ => []
  | .hang :: rest => .hang :: rest

namespace Script

variable {ε α : Type}

theorem items_mended (script : Script ε α) : items (mended script) = items script := by
  induction script with
  | nil => rfl
  | cons call rest ih =>
      obtain ⟨wait, ending⟩ := call
      cases ending with
      | value item => simp only [mended, items, ih]
      | error | panic | never => rfl

theorem failure?_mended (kind : SourceKind ε α) (script : Script ε α) :
    failure? kind (mended script) = none := by
  induction script with
  | nil => rfl
  | cons call rest ih =>
      obtain ⟨wait, ending⟩ := call
      cases ending with
      | value item => simpa only [mended, failure?] using ih
      | error | panic | never => rfl

theorem work_mended (kind : SourceKind ε α) (script : Script ε α) :
    (mended script).work kind = mendedWork (script.work kind) := by
  have waits (wait : Nat) (rest : List Act) :
      mendedWork ((if wait = 0 then [] else [.pause wait]) ++ rest) =
        (if wait = 0 then [] else [.pause wait]) ++ mendedWork rest := by
    split <;> rfl
  induction script with
  | nil => rfl
  | cons call rest ih =>
      obtain ⟨wait, ending⟩ := call
      simp only [work] at ih
      cases ending with
      | value item =>
          cases item <;>
            simp [mended, work, List.flatMap_cons, Call.work, waits, mendedWork, ih]
      | error | panic | never =>
          simp [mended, work, List.flatMap_cons, Call.work, waits, mendedWork]

end Script

/-- Work that fails, if at all, with the failure of an uplink. -/
def IsUplinkWork (work : List Act) : Prop :=
  ∀ failure, failureOf? work = some failure → ∃ error, failure = .uplink error

theorem isUplinkWork_work (name : String)
    (script : Script UplinkError (List Package.Listing)) :
    IsUplinkWork (script.work (.uplink name)) := by
  intro failure failed
  rw [Script.failureOf?_work] at failed
  obtain ⟨error, -, rfl⟩ := Option.map_eq_some_iff.1 failed
  exact ⟨error, rfl⟩

/-! ## Mended producers -/

/-- A producer and its counterpart with mended work. The counterpart has nothing to report. -/
inductive Producer.Mends : Producer → Producer → Prop where
  | same {producer : Producer} : Mends producer producer
  | ready {source abortable work begun} : IsUplinkWork work →
      Mends ⟨source, abortable, .ready work, begun⟩
        ⟨source, abortable, .ready (mendedWork work), begun⟩
  | working {source abortable work begun} : IsUplinkWork work →
      Mends ⟨source, abortable, .working work, begun⟩
        ⟨source, abortable, .working (mendedWork work), begun⟩
  | asleep {source abortable due work begun} : IsUplinkWork work →
      Mends ⟨source, abortable, .asleep due work, begun⟩
        ⟨source, abortable, .asleep due (mendedWork work), begun⟩
  | reporting {source abortable error begun} :
      Mends ⟨source, abortable, .reporting (.uplink error), begun⟩
        ⟨source, abortable, .closing, begun⟩

/-- The report of a failure of an uplink. -/
def Message.isReport : Message → Bool
  | .item _ _ => false
  | .failed _ (.store _) => false
  | .failed _ (.uplink _) => true
  | .done _ => false

namespace Producer

variable {producer other : Producer}

theorem Mends.abortable_eq (mends : producer.Mends other) :
    other.abortable = producer.abortable := by
  cases mends <;> rfl

theorem Mends.due?_eq (mends : producer.Mends other) : other.due? = producer.due? := by
  cases mends <;> rfl

theorem Mends.isFinished_eq (mends : producer.Mends other) :
    other.isFinished = producer.isFinished := by
  cases mends <;> rfl

theorem all_isFinished_eq {producers others : List Producer}
    (related : List.Forall₂ Mends producers others) :
    others.all isFinished = producers.all isFinished := by
  induction related with
  | nil => rfl
  | cons here _ ih => rw [List.all_cons, List.all_cons, here.isFinished_eq, ih]

theorem Moves.roomier {around : Surroundings} {next : Producer} {message : Option Message}
    (moved : producer.Moves around next message) {room : Bool}
    (roomier : around.room = true → room = true) :
    producer.Moves { around with room } next message := by
  cases moved with
  | start free => exact .start free
  | cancelReady cancelled => exact .cancelReady cancelled
  | cancelWork cancelled => exact .cancelWork cancelled
  | cancelSleep cancelled => exact .cancelSleep cancelled
  | complete free => exact .complete free
  | pause free => exact .pause free
  | wake free awake => exact .wake free awake
  | deliver free heard space => exact .deliver free heard (roomier space)
  | giveUp free unheard => exact .giveUp free unheard
  | fail free => exact .fail free
  | report heard space => exact .report heard (roomier space)
  | reportUnheard unheard => exact .reportUnheard unheard
  | finish heard space => exact .finish heard (roomier space)
  | finishUnheard unheard => exact .finishUnheard unheard

/-- A step of a producer is a step of its counterpart, but for the sending of a report. -/
theorem Mends.step (mends : producer.Mends other) {around : Surroundings} {next : Producer}
    {message : Option Message} (moved : producer.Moves around next message) {room : Bool}
    (roomier : around.room = true → room = true) :
    (next.Mends other ∧ message.all Message.isReport = true ∧ producer.due? = none) ∨
      ∃ after, other.Moves { around with room } after message ∧ next.Mends after := by
  cases mends with
  | same => exact .inr ⟨next, moved.roomier roomier, .same⟩
  | ready uplink =>
      cases moved with
      | start free => exact .inr ⟨_, .start free, .working uplink⟩
      | cancelReady cancelled => exact .inr ⟨_, .cancelReady cancelled, .same⟩
  | working uplink =>
      cases moved with
      | cancelWork cancelled => exact .inr ⟨_, .cancelWork cancelled, .same⟩
      | complete free => exact .inr ⟨_, .complete free, .same⟩
      | pause free => exact .inr ⟨_, .pause free, .asleep uplink⟩
      | deliver free heard space =>
          exact .inr ⟨_, .deliver free heard (roomier space), .working uplink⟩
      | giveUp free unheard => exact .inr ⟨_, .giveUp free unheard, .same⟩
      | fail free =>
          obtain ⟨error, rfl⟩ := uplink _ rfl
          refine .inr ⟨_, .complete free, ?_⟩
          split
          · exact .same
          · exact .reporting
  | asleep uplink =>
      cases moved with
      | cancelSleep cancelled => exact .inr ⟨_, .cancelSleep cancelled, .same⟩
      | wake free awake => exact .inr ⟨_, .wake free awake, .working uplink⟩
  | reporting =>
      cases moved with
      | report => exact .inl ⟨.same, rfl, rfl⟩
      | reportUnheard => exact .inl ⟨.same, rfl, rfl⟩

end Producer

/-! ## Mended searches -/

/-- The second list is the first one without some reports. -/
inductive Muffled : List Message → List Message → Prop where
  | nil : Muffled [] []
  | keep {message : Message} {all kept : List Message} :
      Muffled all kept → Muffled (message :: all) (message :: kept)
  | drop {message : Message} {all kept : List Message} :
      message.isReport = true → Muffled all kept → Muffled (message :: all) kept

namespace Muffled

theorem refl (messages : List Message) : Muffled messages messages := by
  induction messages with
  | nil => exact .nil
  | cons message rest ih => exact .keep ih

theorem of_all {message : Option Message} (report : message.all Message.isReport = true) :
    Muffled message.toList [] := by
  cases message with
  | none => exact .nil
  | some message => exact .drop report .nil

theorem append {all kept rest left : List Message} (muffled : Muffled all kept)
    (later : Muffled rest left) : Muffled (all ++ rest) (kept ++ left) := by
  induction muffled with
  | nil => exact later
  | keep _ ih => exact .keep ih
  | drop report _ ih => exact .drop report ih

theorem length_le {all kept : List Message} (muffled : Muffled all kept) :
    kept.length ≤ all.length := by
  induction muffled with
  | nil => exact Nat.le_refl _
  | keep _ ih => exact Nat.succ_le_succ ih
  | drop _ _ ih => exact Nat.le_succ_of_le ih

end Muffled

/-- Two states of a merge that differ in their warnings only. -/
structure Consumer.Agrees (consumer other : Consumer) : Prop where
  awaited : other.awaited = consumer.awaited
  merged : other.merged = consumer.merged
  failure : other.failure = consumer.failure

namespace Consumer.Agrees

variable {pattern : Matcher} {consumer other : Consumer}

theorem isOver_eq (agrees : consumer.Agrees other) : other.isOver = consumer.isOver := by
  rw [isOver, isOver, agrees.awaited, agrees.failure]

theorem receive (agrees : consumer.Agrees other) (message : Message) :
    (consumer.receive pattern message).Agrees (other.receive pattern message) := by
  obtain ⟨awaited, merged, failure⟩ := agrees
  cases message with
  | item source item => exact ⟨awaited, by simp only [Consumer.receive, merged], failure⟩
  | failed source cause =>
      cases cause with
      | store error => exact ⟨awaited, merged, rfl⟩
      | uplink error => exact ⟨awaited, merged, failure⟩
  | done source => exact ⟨by simp only [Consumer.receive, awaited], merged, failure⟩

theorem receive_report (agrees : consumer.Agrees other) {message : Message}
    (report : message.isReport = true) : (consumer.receive pattern message).Agrees other := by
  obtain ⟨awaited, merged, failure⟩ := agrees
  cases message with
  | item | done => cases report
  | failed source cause =>
      cases cause with
      | store => cases report
      | uplink error => exact ⟨awaited, merged, failure⟩

end Consumer.Agrees

/-- A pipeline and its counterpart with some producers mended. -/
structure Pipeline.Mends (pipeline other : Pipeline Consumer) : Prop where
  clock : other.clock = pipeline.clock
  capacity : other.capacity = pipeline.capacity
  abortAt : other.abortAt = pipeline.abortAt
  aborted : other.aborted = pipeline.aborted
  producers : List.Forall₂ Producer.Mends pipeline.producers other.producers
  queue : Muffled pipeline.queue other.queue
  state : pipeline.state.Agrees other.state

end Merge

theorem forall₂_set {α β : Type} {R : α → β → Prop} {entries : List α} {others : List β}
    (all : List.Forall₂ R entries others) {index : Nat} {entry : α}
    (found : entries[index]? = some entry) :
    ∃ other, others[index]? = some other ∧ R entry other ∧
      (∀ {after mate}, R after mate →
        List.Forall₂ R (entries.set index after) (others.set index mate)) ∧
      ∀ {after}, R after other → List.Forall₂ R (entries.set index after) others := by
  induction all generalizing index with
  | nil => cases found
  | @cons first mate rest mates here later ih =>
      cases index with
      | zero =>
          cases found
          exact ⟨mate, rfl, here, fun related => .cons related later,
            fun related => .cons related later⟩
      | succ index =>
          obtain ⟨other, held, related, both, one⟩ := ih found
          exact ⟨other, held, related, fun fresh => .cons here (both fresh),
            fun fresh => .cons here (one fresh)⟩

namespace Merge.Pipeline.Mends

variable {pattern : Matcher} {pipeline other : Pipeline Consumer}

theorem surroundings_eq (pattern : Matcher) (mends : pipeline.Mends other)
    {producer mate : Producer} (related : producer.Mends mate) :
    other.surroundings (mergeReceiver pattern) mate =
      { pipeline.surroundings (mergeReceiver pattern) producer with
        room := decide (other.queue.length < other.capacity) } := by
  simp only [surroundings, mergeReceiver, mends.clock, mends.aborted, related.due?_eq,
    related.abortable_eq, mends.state.isOver_eq]

/-- An action of a pipeline is one of its counterpart, but for what reports need. -/
theorem act? (mends : pipeline.Mends other) {action : Action} {next : Pipeline Consumer}
    (acted : pipeline.act? (mergeReceiver pattern) action = some next) :
    (next.Mends other ∧ Muffled (pipeline.received? action).toList []) ∨
      ∃ after, other.act? (mergeReceiver pattern) action = some after ∧ next.Mends after ∧
        other.received? action = pipeline.received? action := by
  cases action with
  | receive =>
      obtain ⟨heard, message, rest, queued, rfl⟩ := act?_receive_iff.1 acted
      have listening : (mergeReceiver pattern).isOver other.state = false :=
        mends.state.isOver_eq.trans heard
      have queue := mends.queue
      rw [queued] at queue
      generalize left : other.queue = kept at queue
      cases queue with
      | keep later =>
          refine .inr ⟨_, act?_receive_iff.2 ⟨listening, _, _, left, rfl⟩, ?_, ?_⟩
          · exact { mends with queue := later, state := mends.state.receive message }
          · simp only [received?, queued, left, List.head?_cons]
      | drop report later =>
          refine .inl ⟨?_, ?_⟩
          · exact { mends with queue := left ▸ later, state := mends.state.receive_report report }
          · simp only [received?, queued, List.head?_cons]
            exact .drop report .nil
  | produce index =>
      obtain ⟨producer, after, message, found, stepped, rfl⟩ := act?_produce_iff.1 acted
      obtain ⟨mate, held, related, both, one⟩ := forall₂_set mends.producers found
      have roomier : (pipeline.surroundings (mergeReceiver pattern) producer).room = true →
          decide (other.queue.length < other.capacity) = true := by
        intro room
        have space : pipeline.queue.length < pipeline.capacity := of_decide_eq_true room
        rw [decide_eq_true_eq, mends.capacity]
        exact Nat.lt_of_le_of_lt mends.queue.length_le space
      rcases related.step (Producer.step?_iff.1 stepped) roomier with
        ⟨still, report, timeless⟩ | ⟨next, moved, again⟩
      · refine .inl ⟨{ mends with clock := ?_, producers := one still, queue := ?_ }, .nil⟩
        · simp only [surroundings, timeless, Option.getD_none, Nat.max_self, mends.clock, ite_self]
        · rw [← List.append_nil other.queue]
          exact mends.queue.append (.of_all report)
      · have around := mends.surroundings_eq pattern related
        refine .inr ⟨_, act?_produce_iff.2 ⟨mate, next, message, held, ?_, rfl⟩, ?_, rfl⟩
        · rw [around]
          exact Producer.step?_iff.2 moved
        · exact { mends with
            clock := by simp only [around, mends.clock]
            producers := both again
            queue := mends.queue.append (.refl _) }
  | abort =>
      obtain ⟨fresh, rfl⟩ := act?_abort_iff.1 acted
      refine .inr ⟨_, act?_abort_iff.2 ⟨mends.aborted.trans fresh, rfl⟩, ?_, rfl⟩
      exact { mends with
        aborted := rfl
        clock := by simp only [mends.clock, mends.abortAt] }

theorem run (mends : pipeline.Mends other) {Holds : Pipeline Consumer → Prop}
    {actions : List Action} {arrivals : List Message} {last : Pipeline Consumer}
    (run : Run (mergeReceiver pattern) Holds pipeline actions arrivals last) :
    ∃ others kept mended, Run (mergeReceiver pattern) (fun _ => True) other others kept mended ∧
      List.Sublist others actions ∧ Muffled arrivals kept ∧ last.Mends mended := by
  induction run generalizing other with
  | nil => exact ⟨[], [], other, .nil, .slnil, .nil, mends⟩
  | cons _ acted _ ih =>
      rcases mends.act? acted with ⟨still, report⟩ | ⟨after, matched, again, same⟩
      · obtain ⟨others, kept, mended, run, shorter, muffled, reached⟩ := ih still
        exact ⟨others, kept, mended, run, shorter.cons _, report.append muffled, reached⟩
      · obtain ⟨others, kept, mended, run, shorter, muffled, reached⟩ := ih again
        refine ⟨_, _, mended, .cons trivial matched run, shorter.cons_cons _, ?_, reached⟩
        rw [same]
        exact (Muffled.refl _).append muffled

theorem hasReturned (mends : pipeline.Mends other)
    (returned : PackageSearch.hasReturned pipeline = true) :
    PackageSearch.hasReturned other = true := by
  have finished := Producer.all_isFinished_eq mends.producers
  have empty : pipeline.queue.isEmpty = true → other.queue.isEmpty = true := by
    intro empty
    have shorter := mends.queue.length_le
    simp_all
  simp only [PackageSearch.hasReturned, finished, mends.state.failure, mends.state.awaited,
    Bool.or_eq_true, Bool.and_eq_true] at returned ⊢
  exact returned.imp_right fun all => ⟨all.1, all.2.imp_right empty⟩

end Merge.Pipeline.Mends

open Merge

/-- The scripts with the chosen uplinks mended. -/
def SourceScripts.mend (scripts : SourceScripts) (chosen : Nat → Bool) : SourceScripts :=
  { scripts with
    uplinks := scripts.uplinks.mapIdx fun index uplink =>
      if chosen index then (uplink.1, uplink.2.mended) else uplink }

theorem forall₂_mapIdx {α β : Type} {R : α → β → Prop} {change : Nat → α → β} {entries : List α}
    (related : ∀ index entry, R entry (change index entry)) :
    List.Forall₂ R entries (entries.mapIdx change) := by
  induction entries generalizing change with
  | nil => exact .nil
  | cons entry rest ih =>
      rw [List.mapIdx_cons]
      exact .cons (related 0 entry) (ih fun index => related (index + 1))

theorem mends_searchPipeline (settings : SearchSettings) (scripts : SourceScripts)
    (chosen : Nat → Bool) (abortAt : Option Nat) :
    (searchPipeline settings scripts.sources abortAt).Mends
      (searchPipeline settings (scripts.mend chosen).sources abortAt) := by
  have uplinks : List.Forall₂ (fun uplink other =>
      (Producer.start (.uplink uplink.1) true (uplink.2.work (.uplink uplink.1))).Mends
        (Producer.start (.uplink other.1) true (other.2.work (.uplink other.1))))
      scripts.uplinks (scripts.mend chosen).uplinks := by
    refine forall₂_mapIdx fun index uplink => ?_
    split
    · rw [Script.work_mended]
      exact .ready (isUplinkWork_work _ _)
    · exact .same
  have producers : List.Forall₂ Producer.Mends scripts.sources.producers
      (scripts.mend chosen).sources.producers := by
    refine .cons .same ?_
    simpa [SourceScripts.sources] using uplinks
  refine ⟨rfl, rfl, rfl, rfl, producers, .nil, ?_, rfl, rfl⟩
  exact producers.length_eq.symm

/-- Beside every run of a search there is one with the chosen uplinks mended, in which the same
arrives in the same order, some reports left out. -/
theorem exists_mended_run {settings : SearchSettings} {query : Query} {scripts : SourceScripts}
    {abortAt : Option Nat} {actions : List Action} {arrivals : List Message}
    {pipeline : Pipeline Consumer} (chosen : Nat → Bool)
    (run : Pipeline.Run (mergeReceiver (Matcher.compile query.text)) (fun _ => True)
      (searchPipeline settings scripts.sources abortAt) actions arrivals pipeline) :
    ∃ others kept mended,
      Pipeline.Run (mergeReceiver (Matcher.compile query.text)) (fun _ => True)
        (searchPipeline settings (scripts.mend chosen).sources abortAt) others kept mended ∧
      List.Sublist others actions ∧ Muffled arrivals kept ∧ pipeline.Mends mended :=
  (mends_searchPipeline settings scripts chosen abortAt).run run

end PackageSearch
