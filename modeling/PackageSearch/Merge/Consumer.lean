import PackageSearch.Merge.Message
import PackageSearch.Query.Matcher

/-!
# The merge consumer

The consumer receives messages until every producer is done. It keeps the matching listings in the
order of arrival. A failure of the local source ends the merge; a failure of an uplink is only
noted.
-/

set_option autoImplicit false

namespace PackageSearch.Merge

open Package (Listing)

/-- Why a merge gives no listings. -/
inductive MergeError where
  | store (error : StoreError)
  | closed
  deriving DecidableEq

/-- The state of a merge: how many producers are still to be done, the listings kept so far, the
uplink failures noted so far, and the failure that ended it. -/
structure Consumer where
  awaited : Nat
  merged : List Listing
  warnings : List (String × UplinkError)
  failure : Option StoreError

namespace Consumer

def start (producers : Nat) : Consumer := ⟨producers, [], [], none⟩

def isOver (consumer : Consumer) : Bool :=
  consumer.awaited == 0 || consumer.failure.isSome

def receive (pattern : Matcher) (consumer : Consumer) : Message → Consumer
  | .item _ item =>
      { consumer with
        merged := consumer.merged ++
          item.listings.filter fun listing => pattern.accepts listing.package }
  | .failed _ (.store error) => { consumer with failure := some error }
  | .failed source (.uplink error) =>
      { consumer with warnings := consumer.warnings ++ [(source.text, error)] }
  | .done _ => { consumer with awaited := consumer.awaited - 1 }

/-- Receive messages in order until the merge is over. -/
def receiveAll (pattern : Matcher) (consumer : Consumer) : List Message → Consumer
  | [] => consumer
  | message :: rest =>
      if consumer.isOver then consumer
      else (consumer.receive pattern message).receiveAll pattern rest

/-- What a merge gives when no message is to come any more. -/
def outcome (consumer : Consumer) : Except MergeError (List Listing) :=
  match consumer.failure with
  | some error => .error (.store error)
  | none => if consumer.awaited = 0 then .ok consumer.merged else .error .closed

end Consumer

/-- Merge the messages of so many producers, sent before the channel closed. -/
def merge (pattern : Matcher) (producers : Nat) (messages : List Message) : Consumer :=
  (Consumer.start producers).receiveAll pattern messages

end PackageSearch.Merge
