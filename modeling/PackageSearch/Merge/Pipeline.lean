import PackageSearch.Merge.Producer

/-!
# Producers, channel and receiver

A pipeline is a set of producers that send through one channel of bounded capacity to a receiver.
`act?` says what each action does to the state and when it is enabled; any order of enabled actions
is an interleaving. `choose?` picks the actions in the order of a virtual clock: messages are
received as soon as they are there, an abort that is due goes before everything that happens at
the same instant, and time passes only when nothing else can happen.
-/

set_option autoImplicit false

namespace PackageSearch.Merge

/-- What receives messages: how it takes one in, and whether it takes no more. -/
structure Receiver (σ : Type) where
  receive : σ → Message → σ
  isOver : σ → Bool

structure Pipeline (σ : Type) where
  clock : Nat
  capacity : Nat
  queue : List Message
  producers : List Producer
  state : σ
  abortAt : Option Nat
  aborted : Bool

/-- What can happen: a message is received, a producer takes a step, or the caller aborts. -/
inductive Action where
  | receive
  | produce (index : Nat)
  | abort
  deriving DecidableEq

namespace Pipeline

variable {σ : Type}

/-- Nothing has happened yet. A channel has room for at least one message. -/
def start (state : σ) (capacity : Nat) (producers : List Producer) (abortAt : Option Nat) :
    Pipeline σ :=
  { clock := 0, capacity := max 1 capacity, queue := [], producers, state, abortAt,
    aborted := false }

def surroundings (receiver : Receiver σ) (pipeline : Pipeline σ) (producer : Producer) :
    Surroundings :=
  { clock := max pipeline.clock (producer.due?.getD pipeline.clock)
    cancelled := pipeline.aborted && producer.abortable
    received := ! receiver.isOver pipeline.state
    room := pipeline.queue.length < pipeline.capacity }

/-- What an action does, if it is enabled. A sleeping producer acts at the instant it wakes. -/
def act? (receiver : Receiver σ) (pipeline : Pipeline σ) : Action → Option (Pipeline σ)
  | .receive =>
      if receiver.isOver pipeline.state then none
      else match pipeline.queue with
        | [] => none
        | message :: rest =>
            some { pipeline with queue := rest, state := receiver.receive pipeline.state message }
  | .produce index => do
      let producer ← pipeline.producers[index]?
      let around := pipeline.surroundings receiver producer
      let (next, message) ← producer.step? around
      some { pipeline with
        clock := if around.cancelled then pipeline.clock else around.clock
        producers := pipeline.producers.set index next
        queue := pipeline.queue ++ message.toList }
  | .abort =>
      if pipeline.aborted then none
      else some { pipeline with
        aborted := true
        clock := max pipeline.clock (pipeline.abortAt.getD pipeline.clock) }

/-- The instant at which a producer could act, if it can. -/
def readyAt? (receiver : Receiver σ) (pipeline : Pipeline σ) (producer : Producer) : Option Nat :=
  let around := pipeline.surroundings receiver producer
  (producer.step? around).map fun _ => if around.cancelled then pipeline.clock else around.clock

def unstarted? (pipeline : Pipeline σ) : Option Nat :=
  pipeline.producers.findIdx? fun producer =>
    match producer.phase with
    | .ready _ => true
    | _ => false

/-- The producers that can act, each with its instant, in order. -/
def candidates (receiver : Receiver σ) (pipeline : Pipeline σ) : List (Nat × Nat) :=
  pipeline.producers.zipIdx.filterMap fun (producer, index) =>
    (pipeline.readyAt? receiver producer).map fun instant => (instant, index)

/-- The earlier of two candidates, the first one of the same instant. -/
def earlier (held next : Nat × Nat) : Nat × Nat :=
  if next.1 < held.1 then next else held

def earliest? : List (Nat × Nat) → Option (Nat × Nat)
  | [] => none
  | first :: rest => some (rest.foldl earlier first)

/-- Whether an abort is still to come, and not later than the given instant. -/
def abortsBy (pipeline : Pipeline σ) (instant : Nat) : Bool :=
  ! pipeline.aborted && pipeline.abortAt.any fun due => due ≤ instant

def choose? (receiver : Receiver σ) (pipeline : Pipeline σ) : Option Action :=
  if ! receiver.isOver pipeline.state && ! pipeline.queue.isEmpty then some .receive
  else if pipeline.abortsBy pipeline.clock then some .abort
  else match pipeline.unstarted? with
    | some index => some (.produce index)
    | none =>
        match earliest? (pipeline.candidates receiver) with
        | some (instant, index) =>
            if pipeline.abortsBy instant then some .abort else some (.produce index)
        | none => if ! pipeline.aborted && pipeline.abortAt.isSome then some .abort else none

def effort (pipeline : Pipeline σ) : Nat :=
  (pipeline.producers.map Producer.effort).foldr (· + ·) 0 + pipeline.queue.length +
    (if pipeline.aborted then 0 else 1)

/-- Do at most so many actions in the order of the clock. -/
def run (receiver : Receiver σ) : Nat → Pipeline σ → Pipeline σ
  | 0, pipeline => pipeline
  | fuel + 1, pipeline =>
      match (pipeline.choose? receiver).bind (pipeline.act? receiver) with
      | some next => run receiver fuel next
      | none => pipeline

def settle (receiver : Receiver σ) (pipeline : Pipeline σ) : Pipeline σ :=
  pipeline.run receiver pipeline.effort

end Pipeline

end PackageSearch.Merge
