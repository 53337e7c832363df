import PackageSearch.Package.Listing
import PackageSearch.Uplink.Scanner

/-!
# Batches of results

The body of an answer arrives in chunks. The results found in it are handed on in batches of a
given size; the last batch may be smaller. The first result that does not decode, a body that is
not complete at its end, and a connection that breaks each end the batches with a failure, and
results not handed on yet are given up.
-/

set_option autoImplicit false

namespace PackageSearch.Uplink

open Package (Listing)

/-- What the connection brings next: bytes of the body, or its failure. -/
inductive Arrival where
  | bytes (chunk : Bytes)
  | broken

/-- Where an answer cannot be read: as a whole, or in one of its results. -/
inductive DecodePlace where
  | body
  | element
  deriving DecidableEq

/-- Why batches end early. -/
inductive BatchFailure where
  | decode (place : DecodePlace)
  | transport
  deriving DecidableEq

def decodeElement (element : Bytes) : Except Json.Fault Listing :=
  Json.decode Listing.shape.decoder element

/-- The listings of list items, or nothing if one does not decode. -/
def decodeElements? (elements : List Bytes) : Option (List Listing) :=
  elements.mapM fun element => (decodeElement element).toOption

/-- A body on its way: what was found but not handed on, and what still arrives. -/
structure BodyBatches where
  scanner : Scanner
  pending : List Listing
  maxBatch : Nat
  finished : Bool
  body : List Arrival

namespace BodyBatches

/-- Nothing has arrived yet. A size of zero acts as one. -/
def start (maxBatch : Nat) (body : List Arrival) : BodyBatches :=
  { scanner := Scanner.start, pending := [], maxBatch := max 1 maxBatch, finished := false, body }

def fail (batches : BodyBatches) (failure : BatchFailure) :
    Except BatchFailure (List Listing) × BodyBatches :=
  (.error failure, { batches with finished := true, pending := [] })

/-- The next batch or failure, unless all is handed on: full batches come first, then the rest of a
finished body, and only then is more of the body awaited. -/
def next? (batches : BodyBatches) : Option (Except BatchFailure (List Listing) × BodyBatches) :=
  if batches.maxBatch ≤ batches.pending.length then
    some (.ok (batches.pending.take batches.maxBatch),
      { batches with pending := batches.pending.drop batches.maxBatch })
  else if batches.finished then
    if batches.pending.isEmpty then none
    else some (.ok batches.pending, { batches with pending := [] })
  else match _ : batches.body with
    | [] =>
        if batches.scanner.isComplete then { batches with finished := true }.next?
        else some (batches.fail (.decode .body))
    | .broken :: _ => some (batches.fail .transport)
    | .bytes chunk :: rest =>
        let (scanner, elements) := batches.scanner.feed chunk
        match decodeElements? elements with
        | none => some (batches.fail (.decode .element))
        | some found =>
            { batches with scanner, pending := batches.pending ++ found, body := rest }.next?
termination_by batches.body.length + if batches.finished then 0 else 1
decreasing_by all_goals simp_all

end BodyBatches

/-- Cut off batches of `size` while there are so many results: the batches, and the rest. -/
def cutBatches {α : Type} (size : Nat) : Nat → List α → List (List α) × List α
  | 0, pending => ([], pending)
  | fuel + 1, pending =>
      if pending.length < size then ([], pending)
      else
        let (batches, rest) := cutBatches size fuel (pending.drop size)
        (pending.take size :: batches, rest)

/-- What is handed on: batches, and perhaps a failure behind them. -/
structure Delivery where
  batches : List (List Listing)
  failure : Option BatchFailure

def Delivery.after (batches : List (List Listing)) (delivery : Delivery) : Delivery :=
  { delivery with batches := batches ++ delivery.batches }

/-- Hand on the results of what still arrives. `pending` are results found but not handed on. -/
def deliverFrom (size : Nat) (scanner : Scanner) (pending : List Listing) :
    List Arrival → Delivery
  | [] =>
      if scanner.isComplete then ⟨if pending.isEmpty then [] else [pending], none⟩
      else ⟨[], some (.decode .body)⟩
  | .broken :: _ => ⟨[], some .transport⟩
  | .bytes chunk :: rest =>
      let (next, elements) := scanner.feed chunk
      match decodeElements? elements with
      | none => ⟨[], some (.decode .element)⟩
      | some found =>
          let results := pending ++ found
          let (batches, pending) := cutBatches size results.length results
          (deliverFrom size next pending rest).after batches

/-- Hand on the results of a body in batches of at most `maxBatch`, at least one. -/
def deliver (maxBatch : Nat) (arrivals : List Arrival) : Delivery :=
  deliverFrom (max 1 maxBatch) Scanner.start [] arrivals

end PackageSearch.Uplink
