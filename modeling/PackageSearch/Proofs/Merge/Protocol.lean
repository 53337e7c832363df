import PackageSearch.Proofs.Merge.Conduct

/-!
# The protocol of a producer

Whatever a source does and whatever happens around its producer, the messages are the first items of
the source, then at most one report of a failure, then at most one notice. `producer_keepsProtocol`
says so, and what is sent in full while the receiver stays.
-/

set_option autoImplicit false

namespace PackageSearch.Merge

open Package (Listing Manifest)

/-! ## How sources behave -/

def Ending.map {ε α β : Type} (change : α → β) : Ending ε α → Ending ε β
  | .value given => .value (change given)
  | .error cause => .error cause
  | .panic text => .panic text
  | .never => .never

def Call.map {ε α β : Type} (change : α → β) (call : Call ε α) : Call ε β :=
  ⟨call.wait, call.ending.map change⟩

/-- A package directory that the local store has found: when it was changed, and the call that reads
its manifest. -/
structure Discovered where
  modified : Instant
  manifest : Call StoreError (Option Manifest)

namespace Discovered

def read (found : Discovered) : Call StoreError (Option LocalRecord) :=
  found.manifest.map fun manifest => manifest.map fun manifest => ⟨manifest, found.modified⟩

/-- The records of packages in the order found, those without a manifest left out, up to the first
whose manifest is not read. -/
def records : List Discovered → List LocalRecord
  | [] => []
  | found :: rest =>
      match found.manifest.ending with
      | .value (some manifest) => ⟨manifest, found.modified⟩ :: records rest
      | .value none => records rest
      | _ => []

theorem items_read (found : List Discovered) : Script.items (found.map read) = records found := by
  induction found with
  | nil => rfl
  | cons first rest ih =>
      obtain ⟨modified, wait, ending⟩ := first
      simp only [List.map_cons, Script.items, read, Call.map, records]
      cases ending with
      | value manifest => cases manifest <;> simp [Ending.map, ih]
      | error | panic | never => rfl

end Discovered

/-- The batches of the calls before the first one that gives none. -/
def batchesOf : List (Call UplinkError (List Listing)) → List (List Listing)
  | [] => []
  | call :: rest =>
      match call.ending with
      | .value batch => batch :: batchesOf rest
      | _ => []

theorem items_batches (calls : List (Call UplinkError (List Listing))) :
    Script.items (calls.map (Call.map some)) = batchesOf calls := by
  induction calls with
  | nil => rfl
  | cons call rest ih =>
      obtain ⟨wait, ending⟩ := call
      simp only [List.map_cons, Script.items, Call.map, batchesOf]
      cases ending with
      | value batch => simp [Ending.map, ih]
      | error | panic | never => rfl

/-- How a source behaves in a search. The local store looks for packages and then reads the manifest
of each. An uplink opens a stream and then gives a batch with each call. -/
inductive Behaviour where
  | localStore (discovery : Call StoreError (List Discovered))
  | uplink (name : String) (opening : Call UplinkError Unit)
      (batches : List (Call UplinkError (List Listing)))

namespace Behaviour

def source : Behaviour → SourceId
  | localStore _ => .localStore
  | uplink name _ _ => .uplink name

def storeScript (discovery : Call StoreError (List Discovered)) : Script StoreError LocalRecord :=
  discovery.map (fun _ => none) ::
    match discovery.ending with
    | .value found => found.map Discovered.read
    | _ => []

def uplinkScript (opening : Call UplinkError Unit)
    (batches : List (Call UplinkError (List Listing))) :
    Script UplinkError (List Listing) :=
  opening.map (fun _ => none) :: batches.map (Call.map some)

def work : Behaviour → List Act
  | localStore discovery => (storeScript discovery).work .localStore
  | uplink name opening batches => (uplinkScript opening batches).work (.uplink name)

/-- What a source produces before its first failure: one record for each package found that has a
manifest, or the batches of a stream. -/
def items : Behaviour → List Item
  | localStore discovery =>
      match discovery.ending with
      | .value found => (Discovered.records found).map .single
      | _ => []
  | uplink _ opening batches =>
      match opening.ending with
      | .value _ => (batchesOf batches).map .batch
      | _ => []

/-- The error or panic that a source ends with. -/
def failure? : Behaviour → Option Failure
  | localStore discovery => ((storeScript discovery).failure? .localStore).map .store
  | uplink name opening batches =>
      ((uplinkScript opening batches).failure? (.uplink name)).map .uplink

def ends : Behaviour → Bool
  | localStore discovery => (storeScript discovery).ends
  | uplink _ opening batches => (uplinkScript opening batches).ends

theorem itemsOf_work (behaviour : Behaviour) : itemsOf behaviour.work = behaviour.items := by
  cases behaviour with
  | localStore discovery =>
      obtain ⟨wait, ending⟩ := discovery
      rw [work, Script.itemsOf_work]
      cases ending with
      | value found => exact congrArg (List.map Item.single) (Discovered.items_read found)
      | error | panic | never => rfl
  | uplink name opening batches =>
      obtain ⟨wait, ending⟩ := opening
      rw [work, Script.itemsOf_work]
      cases ending with
      | value => exact congrArg (List.map Item.batch) (items_batches batches)
      | error | panic | never => rfl

theorem failureOf?_work (behaviour : Behaviour) :
    failureOf? behaviour.work = behaviour.failure? := by
  cases behaviour <;> exact Script.failureOf?_work _ _

theorem workEnds_work (behaviour : Behaviour) : workEnds behaviour.work = behaviour.ends := by
  cases behaviour <;> exact Script.workEnds_work _ _

end Behaviour

/-! ## What every conduct keeps -/

theorem Moment.begins_eq_false {moment : Moment} (cancelled : moment.around.cancelled = true) :
    moment.begins = false := by
  unfold begins
  split
  · rw [cancelled, Bool.not_true]
  · rfl

theorem Producer.Moves.begins_next {around : Surroundings} {producer next : Producer}
    {message : Option Message} (moved : producer.Moves around next message)
    (later : Surroundings) : (Moment.mk next later).begins = false := by
  cases moved with
  | @fail _ _ failure => cases failure.isQuiet <;> simp [Moment.begins]
  | _ => rfl

theorem Producer.Moves.begun_next {around : Surroundings} {producer next : Producer}
    {message : Option Message} (moved : producer.Moves around next message) :
    next.begun = (producer.begun || (Moment.mk producer around).begins) := by
  cases moved with
  | start free => simp [Moment.begins, free]
  | cancelReady cancelled => simp [Moment.begins, cancelled]
  | _ => simp [Moment.begins]

namespace Conduct

variable {first last : Producer} {trace : List Moment} {messages : List Message}

theorem length_add_effort_le (conduct : Conduct first trace messages last) :
    trace.length + last.effort ≤ first.effort := by
  induction conduct with
  | nil => simp
  | cons stepped _ ih =>
      have less := (Producer.step?_iff.1 stepped).effort_lt
      rw [List.length_cons]
      omega

theorem begun_eq (conduct : Conduct first trace messages last) :
    last.begun = (first.begun || trace.any Moment.begins) := by
  induction conduct with
  | nil => simp
  | cons stepped _ ih =>
      rw [ih, (Producer.step?_iff.1 stepped).begun_next, List.any_cons, Bool.or_assoc]

theorem begins_eq_false (conduct : Conduct first trace messages last)
    (past : ∀ around, (Moment.mk first around).begins = false) :
    ∀ moment ∈ trace, moment.begins = false := by
  induction conduct with
  | nil => exact List.forall_mem_nil _
  | cons stepped _ ih =>
      exact List.forall_mem_cons.2 ⟨past _, ih (Producer.step?_iff.1 stepped).begins_next⟩

/-- Only the first step can begin the work. -/
theorem countP_begins (conduct : Conduct first trace messages last) :
    trace.countP Moment.begins = if trace.head?.any Moment.begins then 1 else 0 := by
  cases conduct with
  | nil => rfl
  | @cons _ _ _ _ _ rest _ stepped conduct =>
      have later := conduct.begins_eq_false (Producer.step?_iff.1 stepped).begins_next
      have none : rest.countP Moment.begins = 0 :=
        List.countP_eq_zero.2 fun moment member => by simp [later moment member]
      rw [List.countP_cons, none, Nat.zero_add]
      rfl

end Conduct

/-! ## The protocol -/

/-- What a producer keeps to: the order of its messages; how and why it leaves its work; the
messages of a producer that is heard throughout and finishes; that it begins at most once, and not
at all if it is cancelled before; and that nothing but a hang, a full channel or a pause can hold it
up. -/
structure KeepsProtocol (behaviour : Behaviour) (trace : List Moment) (messages : List Message)
    (last : Producer) : Prop where
  ordered : ∃ sent, sent <+: behaviour.items ∧
    messages <+: sent.map (.item behaviour.source) ++
      ((exits trace).filterMap Exit.report?).map (.failed behaviour.source) ++
      [.done behaviour.source]
  leaves_once : (exits trace).length ≤ 1
  fails_so : ∀ failure, .failed failure ∈ exits trace → behaviour.failure? = some failure
  complete : Heard trace → last.isFinished = true →
    ∃ sent exit, exits trace = [exit] ∧
      messages = sent.map (.item behaviour.source) ++ exit.notices behaviour.source ∧
      ((∃ moment ∈ trace, moment.around.cancelled = true) ∧ exit = .cancelled ∧
          sent <+: behaviour.items ∨
        sent = behaviour.items ∧
          exit = (behaviour.failure?.map Exit.failed).getD .completed)
  reports_iff : Heard trace → last.isFinished = true → ∀ failure,
    .failed behaviour.source failure ∈ messages ↔
      .failed failure ∈ exits trace ∧ failure.isQuiet = false
  begins_once : trace.countP Moment.begins ≤ 1
  begins_not : trace.head?.any (fun moment => moment.around.cancelled) = true →
    trace.countP Moment.begins = 0
  begun_iff : last.begun = true ↔ 0 < trace.countP Moment.begins
  bounded : trace.length ≤ 3 * behaviour.work.length + 8
  goes_on : last.isFinished = false → ∀ around : Surroundings,
    (behaviour.ends = true ∨ around.cancelled = true) →
    (around.received = true → around.room = true) → last.due?.getD around.clock ≤ around.clock →
    (last.step? around).isSome = true

/-- Why a producer that is heard throughout has left the work of a source. -/
theorem Exit.Explains.reason {behaviour : Behaviour} {sent : List Item} {trace : List Moment}
    {exit : Exit} (explains : exit.Explains behaviour.work sent trace) (heard : Heard trace)
    (shorter : sent <+: behaviour.items) :
    (∃ moment ∈ trace, moment.around.cancelled = true) ∧ exit = .cancelled ∧
        sent <+: behaviour.items ∨
      sent = behaviour.items ∧
        exit = (behaviour.failure?.map Exit.failed).getD .completed := by
  cases exit with
  | completed =>
      obtain ⟨same, sound, -⟩ := explains
      rw [behaviour.itemsOf_work] at same
      rw [behaviour.failureOf?_work] at sound
      exact .inr ⟨same, by rw [sound]; rfl⟩
  | failed failure =>
      obtain ⟨same, failed⟩ := explains
      rw [behaviour.itemsOf_work] at same
      rw [behaviour.failureOf?_work] at failed
      exact .inr ⟨same, by rw [failed]; rfl⟩
  | cancelled => exact .inl ⟨explains, rfl, shorter⟩
  | unheard =>
      obtain ⟨moment, member, unheard⟩ := explains
      rw [heard moment member] at unheard
      cases unheard

theorem Exit.report?_eq_some {exit : Exit} {failure : Failure} :
    exit.report? = some failure ↔ exit = .failed failure ∧ failure.isQuiet = false := by
  cases exit with
  | failed cause => cases quiet : cause.isQuiet <;> grind [report?]
  | completed | cancelled | unheard => simp [report?]

namespace Account

variable {source : SourceId} {work : List Act} {trace : List Moment} {messages : List Message}
  {last : Producer}

theorem ordered (account : Account source work trace messages last) :
    ∃ sent, sent <+: itemsOf work ∧
      messages <+: sent.map (.item source) ++
        ((exits trace).filterMap Exit.report?).map (.failed source) ++ [.done source] := by
  cases account with
  | atWork sent working none delivered left =>
      refine ⟨sent, ⟨_, left.symm⟩, ?_⟩
      rw [delivered, List.append_assoc]
      exact List.prefix_append _ _
  | @left sent exit tail unsent _ leaving delivered shorter _ whole =>
      refine ⟨sent, shorter, ?_⟩
      have reports : (exits trace).filterMap Exit.report? = exit.report?.toList := by
        rw [leaving, List.filterMap_cons, List.filterMap_nil]
        cases exit.report? <;> rfl
      rw [delivered, List.append_assoc, reports]
      exact (List.prefix_append_right_inj _).2 ⟨unsent, whole⟩

theorem length_exits_le (account : Account source work trace messages last) :
    (exits trace).length ≤ 1 := by
  cases account with
  | atWork _ _ none => simp [none]
  | left _ _ leaving => simp [leaving]

theorem failureOf?_eq_some (account : Account source work trace messages last) {failure : Failure}
    (failed : .failed failure ∈ exits trace) : failureOf? work = some failure := by
  cases account with
  | atWork _ _ none => simp [none] at failed
  | left sent _ leaving _ _ explains =>
      rw [leaving, List.mem_singleton] at failed
      subst failed
      exact explains.2

/-- A producer that is heard throughout reports just the failure that made it leave its work. -/
theorem failed_mem_iff (account : Account source work trace messages last) (heard : Heard trace)
    (finished : last.isFinished = true) (failure : Failure) :
    .failed source failure ∈ messages ↔
      .failed failure ∈ exits trace ∧ failure.isQuiet = false := by
  obtain ⟨sent, exit, leaving, -, -, delivered⟩ := account.complete heard finished
  rw [delivered, leaving, List.mem_singleton, eq_comm, ← Exit.report?_eq_some]
  simp [Exit.notices]

end Account

/-- A producer keeps to the protocol, whatever its source does, and whenever it is cancelled, finds
room in the channel or loses its receiver. -/
theorem producer_keepsProtocol (behaviour : Behaviour) {abortable : Bool} {trace : List Moment}
    {messages : List Message} {last : Producer}
    (conduct : Conduct (.start behaviour.source abortable behaviour.work) trace messages last)
    (gone : GoneForGood trace) : KeepsProtocol behaviour trace messages last := by
  have account := conduct.account gone rfl
  change Account behaviour.source behaviour.work trace messages last at account
  have once := conduct.countP_begins
  refine ⟨?_, account.length_exits_le, ?_, ?_, account.failed_mem_iff, ?_, ?_, ?_, ?_, ?_⟩
  · rw [← behaviour.itemsOf_work]
    exact account.ordered
  · intro failure failed
    rw [← behaviour.failureOf?_work]
    exact account.failureOf?_eq_some failed
  · intro heard finished
    obtain ⟨sent, exit, leaving, shorter, explains, delivered⟩ := account.complete heard finished
    rw [behaviour.itemsOf_work] at shorter
    exact ⟨sent, exit, leaving, delivered, explains.reason heard shorter⟩
  · rw [once]
    split <;> decide
  · intro cancelled
    obtain ⟨moment, first, cancelled⟩ := (Option.any_eq_true _ _).1 cancelled
    rw [once, first, Option.any_some, Moment.begins_eq_false cancelled]
    rfl
  · rw [conduct.begun_eq, List.countP_pos_iff]
    simp [Producer.start, List.any_eq_true]
  · exact Nat.le_of_add_right_le conduct.length_add_effort_le
  · intro unfinished around ended room awake
    have ended : last.ends = true ∨ around.cancelled = true :=
      ended.imp_left fun ended => conduct.ends (behaviour.workEnds_work.trans ended)
    obtain ⟨next, message, stepped⟩ := Producer.exists_step? unfinished ended room awake
    rw [stepped, Option.isSome_some]

/-- An uplink that fails behind its first batch. -/
def sampleUplink : Behaviour :=
  .uplink "up" ⟨3, .value ()⟩
    [⟨0, .value []⟩, ⟨0, .error (.status "up" 502)⟩, ⟨0, .value []⟩]

/-- The uplink does not answer at once, and the channel is full for a while when it does. -/
def sampleSurroundings : List Surroundings :=
  [⟨0, false, true, true⟩, ⟨0, false, true, true⟩, ⟨2, false, true, true⟩, ⟨3, false, true, true⟩,
    ⟨3, false, true, false⟩, ⟨4, false, true, true⟩, ⟨4, false, true, true⟩, ⟨4, false, true, true⟩,
    ⟨5, true, true, true⟩]

theorem producer_keepsProtocol_sample :
    let reached := (Producer.start (.uplink "up") true sampleUplink.work).attend sampleSurroundings
    Conduct (.start (.uplink "up") true sampleUplink.work) reached.1 reached.2.1 reached.2.2 ∧
      GoneForGood reached.1 ∧ reached.2.2.isFinished = true ∧
      reached.2.1 = [.item (.uplink "up") (.batch []),
        .failed (.uplink "up") (.uplink (.status "up" 502)), .done (.uplink "up")] ∧
      KeepsProtocol sampleUplink reached.1 reached.2.1 reached.2.2 := by
  intro reached
  have conduct :=
    Conduct.of_attend (.start (.uplink "up") true sampleUplink.work) sampleSurroundings
  have gone : GoneForGood reached.1 := by
    unfold GoneForGood
    decide
  exact ⟨conduct, gone, rfl, rfl, producer_keepsProtocol sampleUplink conduct gone⟩

end PackageSearch.Merge
