import PackageSearch.Merge.Script
import PackageSearch.Uplink.Request
import PackageSearch.Proofs.Package.WireFormat
import PackageSearch.Proofs.Uplink.Batches

/-!
# Where the listings of an uplink come from

Each listing that an uplink's answer delivers is decoded from an element of the answer's body, and
it is marked as local exactly if the document of that element marks it.
-/

set_option autoImplicit false

namespace PackageSearch

/-! ## The mark in a document -/

namespace Package.Listing

open Json (Node Decoder Parts)
open Json (bind_eq_ok map_eq_ok)

/-- What a document says of whether its listing is local: its member, or the third of its items. -/
def markNode? : Node → Option Node
  | .record members _ => (Location.membersNamed "local" members).head?
  | .list items _ => items[2]?
  | _ => none

def marked (node : Node) : Bool :=
  match markNode? node with
  | some (.boolean mark) => mark
  | _ => false

theorem eq_boolean_of_read {levels : Nat} {node : Node} {value : Bool}
    (read : Decoder.boolean levels node = .ok value) : node = .boolean value := by
  cases node with
  | boolean found =>
      cases read
      rfl
  | _ => cases read

theorem isLocal_eq_marked {levels : Nat} {node : Node} (inRange : node.InRange) {listing : Listing}
    (read : shape.decoder levels node = .ok listing) : listing.isLocal = marked node := by
  obtain ⟨inner, rfl⟩ := Json.Shape.exists_inner read
  let mark := Json.Part.always "local" false Decoder.boolean isLocal
    (fun held isLocal => { held with isLocal }) .boolean
  have member : mark ∈ parts := List.mem_cons_of_mem _ (List.mem_cons_of_mem _ List.mem_cons_self)
  cases inRange with
  | @record members ending all =>
      have untouched : Parts.Untouched shape inner mark := by
        intro key held after node skipped
        obtain ⟨-, -, rfl⟩ := map_eq_ok.mp skipped
        rfl
      rcases Parts.ofRecord_part parts_lawful rfl member untouched read with
        ⟨none, unmarked⟩ | ⟨found, only, markRead⟩
      · have none : Location.membersNamed "local" members = [] := none
        simp only [marked, markNode?, none, List.head?_nil]
        exact unmarked
      · have only : Location.membersNamed "local" members = [found] := only
        simp only [marked, markNode?, only, List.head?_cons, eq_boolean_of_read markRead]
        rfl
  | @list items ending all =>
      have get_set := (parts_lawful.faithful mark member).get_set
      have front : ∀ other ∈ parts.take 2, other.Apart mark := by
        simp [parts, mark, Json.Part.Apart, Json.Part.always, Json.Part.given]
      have back : ∀ other ∈ parts.drop 3, other.Apart mark := by
        simp [parts, mark, Json.Part.Apart, Json.Part.always]
      have read : Json.Shape.readItems inner ending
          ((parts.take 2 ++ mark :: parts.drop 3).map Json.Part.field) items blank = .ok listing :=
        read
      rcases Parts.readItems_part get_set front back all read with
        ⟨none, unmarked⟩ | ⟨found, place, markRead⟩
      · have none : items[2]? = Option.none := none
        simp only [marked, markNode?, none]
        exact unmarked
      · have place : items[2]? = some found := place
        simp only [marked, markNode?, place, eq_boolean_of_read markRead]
        rfl
  | _ => cases read

end Package.Listing

/-! ## The elements of an answer -/

namespace Uplink

open Merge (Script)
open Package (Listing)

/-- The chunks of a body up to where it breaks off. -/
def chunksOf : List Arrival → List Bytes
  | [] => []
  | .bytes chunk :: rest => chunk :: chunksOf rest
  | .broken :: _ => []

def breaksOff : List Arrival → Bool
  | [] => false
  | .bytes _ :: rest => breaksOff rest
  | .broken :: _ => true

/-- What would come after a body breaks off does not matter. -/
theorem deliverFrom_chunksOf (size : Nat) (scanner : Scanner) (pending : List Listing)
    (body : List Arrival) :
    deliverFrom size scanner pending (bodyOf (chunksOf body) (breaksOff body)) =
      deliverFrom size scanner pending body := by
  induction body generalizing scanner pending with
  | nil => rfl
  | cons arrival rest ih =>
      cases arrival with
      | broken => rfl
      | bytes chunk =>
          simp only [bodyOf, chunksOf, breaksOff, List.map_cons, List.cons_append, deliverFrom]
          cases decodeElements? (scanner.feed chunk).2 with
          | none => rfl
          | some found => exact congrArg (Delivery.after _) (ih _ _)

theorem exists_of_mem_decodedUpToFault {elements : List Bytes} {listing : Listing}
    (member : listing ∈ decodedUpToFault elements) :
    ∃ element ∈ elements, decodeElement element = .ok listing := by
  induction elements with
  | nil => cases member
  | cons element rest ih =>
      cases decoded : decodeElement element with
      | error fault => simp [decodedUpToFault, decoded] at member
      | ok first =>
          rw [decodedUpToFault, decoded] at member
          rcases List.mem_cons.1 member with rfl | later
          · exact ⟨element, List.mem_cons_self, decoded⟩
          · obtain ⟨other, inside, decoded⟩ := ih later
            exact ⟨other, List.mem_cons_of_mem _ inside, decoded⟩

theorem exists_of_mem_deliver {maxBatch : Nat} {body : List Arrival} {listing : Listing}
    (member : listing ∈ (deliver maxBatch body).batches.flatten) :
    ∃ element ∈ (Scanner.start.feedChunks (chunksOf body)).2,
      decodeElement element = .ok listing := by
  have hands := deliver_hands maxBatch (chunksOf body) (breaksOff body)
  rw [deliver, deliverFrom_chunksOf] at hands
  exact exists_of_mem_decodedUpToFault (hands.flatten_prefix.subset member)

namespace Answer

/-- The elements that the body of an answer holds, whatever its status is. -/
def elements : Answer → List Bytes
  | .silent => []
  | .status _ body => (Scanner.start.feedChunks (chunksOf body)).2

def batches (client : HttpUplink) (answer : Answer) : List (List Listing) :=
  match answer.deliver client with
  | .error _ => []
  | .ok delivery => delivery.batches

theorem exists_element {client : HttpUplink} {answer : Answer} {listing : Listing}
    (member : listing ∈ (answer.batches client).flatten) :
    ∃ element ∈ answer.elements, decodeElement element = .ok listing := by
  unfold batches at member
  cases delivered : answer.deliver client with
  | error failure => simp [delivered] at member
  | ok delivery =>
      simp only [delivered] at member
      cases answer with
      | silent => cases delivered
      | status code body =>
          simp only [Answer.deliver] at delivered
          split at delivered
          · cases delivered
          · split at delivered
            · cases delivered
              split at member
              · -- Without a body there is no element to be found in it.
                obtain ⟨element, none, -⟩ := exists_of_mem_deliver member
                cases none
              · exact exists_of_mem_deliver member
            · cases delivered

end Answer

theorem isLocal_of_decodeElement {element : Bytes} {listing : Listing}
    (decoded : decodeElement element = .ok listing) :
    listing.isLocal = Listing.marked (Json.Document.ofBytes element).root :=
  Listing.isLocal_eq_marked (Json.Document.inRange element) (reads_of_decode decoded)

/-! ## Handing an answer on -/

/-- An uplink, how it answers, and the calls that hand the batches of its answer on, perhaps not
all of them. -/
structure Exchange where
  client : HttpUplink
  answer : Answer
  script : Script UplinkError (List Listing)
  handsOn : script.items <+: answer.batches client

theorem items_values (batches : List (List Listing)) :
    Script.items (batches.map fun batch =>
      (⟨0, .value (some batch)⟩ : Merge.Call UplinkError (Option (List Listing)))) = batches := by
  induction batches with
  | nil => rfl
  | cons batch rest ih =>
      rw [List.map_cons, Script.items, ih]
      rfl

namespace Exchange

def entry (exchange : Exchange) : String × Script UplinkError (List Listing) :=
  (exchange.client.name, exchange.script)

theorem exists_element {exchange : Exchange} {batch : List Listing}
    (handed : batch ∈ exchange.script.items) {listing : Listing} (member : listing ∈ batch) :
    ∃ element ∈ exchange.answer.elements, decodeElement element = .ok listing :=
  Answer.exists_element (List.mem_flatten.2 ⟨batch, exchange.handsOn.subset handed, member⟩)

/-- The calls after an answer that is handed on whole and at once. -/
def prompt (client : HttpUplink) (answer : Answer) : Exchange where
  client := client
  answer := answer
  script := ⟨0, .value none⟩ :: (answer.batches client).map fun batch => ⟨0, .value (some batch)⟩
  handsOn := by
    rw [Script.items, items_values]
    exact List.prefix_rfl

end Exchange

end Uplink

end PackageSearch
