import PackageSearch.Merge.Message

/-!
# Producers

A source's work is a list of acts. A producer does them one after the other and sends what they
deliver. Whatever ends the work, one notice that the source is done follows, after one report if
the work failed otherwise than by cancellation. A producer whose messages nobody receives any more
gives its work up. Cancellation is noticed at every act and ends the work without a report.
-/

set_option autoImplicit false

namespace PackageSearch.Merge

/-- A step of a source's work. -/
inductive Act where
  | pause (milliseconds : Nat)
  | deliver (item : Item)
  | fail (failure : Failure)
  | hang

/-- How far a producer is: not started, at work, asleep until an instant, about to report a
failure, about to say that it is done, or finished. -/
inductive Phase where
  | ready (work : List Act)
  | working (work : List Act)
  | asleep (due : Nat) (work : List Act)
  | reporting (failure : Failure)
  | closing
  | finished

/-- A producer, whether an abort by the caller cancels it, and whether its work was ever begun. -/
structure Producer where
  source : SourceId
  abortable : Bool
  phase : Phase
  begun : Bool

/-- What a producer can know of its surroundings: the time, whether it is cancelled, whether its
messages are still received, and whether there is room for one. -/
structure Surroundings where
  clock : Nat
  cancelled : Bool
  received : Bool
  room : Bool

namespace Producer

def start (source : SourceId) (abortable : Bool) (work : List Act) : Producer :=
  ⟨source, abortable, .ready work, false⟩

def isFinished (producer : Producer) : Bool :=
  match producer.phase with
  | .finished => true
  | _ => false

def goTo (producer : Producer) (phase : Phase) : Producer × Option Message :=
  ({ producer with phase }, none)

/-- Send a message and go to a phase; go to another one if nobody receives. -/
def send? (producer : Producer) (around : Surroundings) (message : Message) (sent unsent : Phase) :
    Option (Producer × Option Message) :=
  if ! around.received then some (producer.goTo unsent)
  else if around.room then some ({ producer with phase := sent }, some message)
  else none

/-- The next step of a producer and the message it sends, if it can take a step now. -/
def step? (producer : Producer) (around : Surroundings) :
    Option (Producer × Option Message) :=
  match producer.phase with
  | .ready work =>
      if around.cancelled then some (producer.goTo .closing)
      else some ({ producer with phase := .working work, begun := true }, none)
  | .working work =>
      if around.cancelled then some (producer.goTo .closing)
      else match work with
        | [] => some (producer.goTo .closing)
        | .pause milliseconds :: rest =>
            some (producer.goTo (.asleep (around.clock + milliseconds) rest))
        | .deliver item :: rest =>
            producer.send? around (.item producer.source item) (.working rest) .closing
        | .fail failure :: _ =>
            some (producer.goTo (if failure.isQuiet then .closing else .reporting failure))
        | .hang :: _ => none
  | .asleep due rest =>
      if around.cancelled then some (producer.goTo .closing)
      else if due ≤ around.clock then some (producer.goTo (.working rest))
      else none
  | .reporting failure =>
      producer.send? around (.failed producer.source failure) .closing .closing
  | .closing => producer.send? around (.done producer.source) .finished .finished
  | .finished => none

def due? (producer : Producer) : Option Nat :=
  match producer.phase with
  | .asleep due _ => some due
  | _ => none

/-- A bound on the steps still to be taken, where a message counts as a step of its receiver. -/
def effort (producer : Producer) : Nat :=
  match producer.phase with
  | .ready work => 3 * work.length + 8
  | .working work => 3 * work.length + 7
  | .asleep _ work => 3 * work.length + 8
  | .reporting _ => 5
  | .closing => 3
  | .finished => 0

end Producer

end PackageSearch.Merge
