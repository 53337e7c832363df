import PackageSearch.Access.Window
import PackageSearch.Merge.Consumer
import PackageSearch.Merge.Pipeline
import PackageSearch.Merge.Script

/-!
# Federated search

A search asks the local store and every uplink at once, merges what they deliver in the order of
arrival, keeps the first listing of each package name, keeps what the identity may read, and cuts
the wanted page out of the rest.
-/

set_option autoImplicit false

namespace PackageSearch

open Package (Listing)
open Access (CheckError Identity Oracle)
open Merge (Act Consumer LocalRecord MergeError Pipeline Producer Receiver Script SourceId)

/-- Why a search fails. Failures of uplinks are not among the reasons. -/
inductive SearchError where
  | localDiscovery (error : StoreError)
  | authorization (error : CheckError)
  | mergeClosed
  deriving DecidableEq

namespace SearchError

def text : SearchError → String
  | localDiscovery error => "local package discovery failed: " ++ error.text
  | authorization error => "package authorization failed: " ++ error.text
  | mergeClosed => "merge closed before every source finished"

/-- Whether the caller should be answered with an internal error. -/
def isInternal : SearchError → Bool
  | localDiscovery _ | authorization _ | mergeClosed => true

def ofMerge : MergeError → SearchError
  | .store error => localDiscovery error
  | .closed => mergeClosed

end SearchError

/-- The tunables of a search: how many access checks run at once, and the channel's capacity. -/
structure SearchSettings where
  authConcurrency : Nat
  mergeBuffer : Nat
  deriving DecidableEq

def SearchSettings.standard : SearchSettings := ⟨32, 32⟩

/-- Keep the first listing of each package name. `seen` holds names that came before. -/
def dropSeen : List String → List Listing → List Listing
  | _, [] => []
  | seen, listing :: rest =>
      if seen.contains listing.name then dropSeen seen rest
      else listing :: dropSeen (listing.name :: seen) rest

/-- Keep the first listing of each package name, in order. -/
def firstOfEachName (listings : List Listing) : List Listing :=
  dropSeen [] listings

/-- The items from index `start` up to index `stop`; no items if the range is empty. -/
def page {α : Type} (items : List α) (start stop : Nat) : List α :=
  (items.drop start).take (stop - start)

def refine (settings : SearchSettings) (query : Query) (oracle : Oracle) (identity : Identity)
    (merged : List Listing) : Except SearchError (List Listing) := do
  let allowed ← (Access.authorize oracle identity Listing.name (firstOfEachName merged)
    settings.authConcurrency).mapError SearchError.authorization
  .ok (page allowed query.start query.size)

def conclude (settings : SearchSettings) (query : Query) (oracle : Oracle) (identity : Identity)
    (consumer : Consumer) : Except SearchError (List Listing) := do
  let merged ← consumer.outcome.mapError SearchError.ofMerge
  refine settings query oracle identity merged

/-- The sources of a search: the work of the local store, and of each uplink by name. -/
structure Sources where
  localWork : List Act
  uplinks : List (String × List Act)

namespace Sources

/-- The local producer is not cancelled by the caller, uplink producers are. -/
def producers (sources : Sources) : List Producer :=
  Producer.start .localStore false sources.localWork ::
    sources.uplinks.map fun (name, work) => Producer.start (.uplink name) true work

end Sources

/-- The scripts of a search's sources: of the local store, and of each uplink by name. -/
structure SourceScripts where
  localStore : Script StoreError LocalRecord
  uplinks : List (String × Script UplinkError (List Listing))

def SourceScripts.sources (scripts : SourceScripts) : Sources :=
  { localWork := scripts.localStore.work .localStore
    uplinks := scripts.uplinks.map fun (name, script) => (name, script.work (.uplink name)) }

/-- The merge consumer as the receiver of a pipeline. -/
def mergeReceiver (pattern : Matcher) : Receiver Consumer :=
  ⟨Consumer.receive pattern, Consumer.isOver⟩

/-- Whether a search has come back. A failure of the local store ends it at once. Otherwise every
producer is finished, and either all of them are known to be, or the channel is empty and closed. -/
def hasReturned (pipeline : Pipeline Consumer) : Bool :=
  pipeline.state.failure.isSome ||
    (pipeline.producers.all Producer.isFinished &&
      (pipeline.state.awaited == 0 || pipeline.queue.isEmpty))

/-- What a search leaves behind: its outcome, the uplink failures noted, the names of the uplinks
that were asked, and whether it came back at all; a search that waits for ever has no outcome. -/
structure SearchReport where
  outcome : Except SearchError (List Listing)
  warnings : List (String × UplinkError)
  asked : List String
  returned : Bool

/-- The pipeline of a search before anything happened. -/
def searchPipeline (settings : SearchSettings) (sources : Sources) (abortAt : Option Nat) :
    Pipeline Consumer :=
  Pipeline.start (Consumer.start sources.producers.length) settings.mergeBuffer
    sources.producers abortAt

/-- The name of an uplink producer whose work was begun. -/
def askedUplink? (producer : Producer) : Option String :=
  match producer.source with
  | .uplink name => if producer.begun then some name else none
  | .localStore => none

/-- Search every source, perhaps aborted at an instant. -/
def search (settings : SearchSettings) (query : Query) (oracle : Oracle) (identity : Identity)
    (sources : Sources) (abortAt : Option Nat) : SearchReport :=
  let settled := (searchPipeline settings sources abortAt).settle
    (mergeReceiver (Matcher.compile query.text))
  { outcome := conclude settings query oracle identity settled.state
    warnings := settled.state.warnings
    asked := settled.producers.filterMap askedUplink?
    returned := hasReturned settled }

/-- A receiver that only keeps messages, perhaps at most so many. -/
structure Collector where
  limit : Option Nat
  messages : List Merge.Message

namespace Collector

def receiver : Receiver Collector :=
  { receive := fun collector message =>
      { collector with messages := collector.messages ++ [message] }
    isOver := fun collector => collector.limit.any fun limit => limit ≤ collector.messages.length }

end Collector

/-- Run one producer against a receiver that only keeps messages. -/
def collect (capacity : Nat) (limit cancelAt : Option Nat) (source : SourceId) (work : List Act) :
    Pipeline Collector :=
  (Pipeline.start ⟨limit, []⟩ capacity [Producer.start source true work] cancelAt).settle
    Collector.receiver

end PackageSearch
