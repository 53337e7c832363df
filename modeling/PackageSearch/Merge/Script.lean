import PackageSearch.Merge.Producer

/-!
# Scripts of sources

A source is asked by calls, one after the other. The first call of the local store looks for the
packages that a query asks for, and each further one reads the manifest of a found package; a
package without a manifest gives no item. The first call of an uplink opens its stream, and each
further one gives a batch. `Script.work` is the work that a producer does for a script: it ends with
the first call that does not give a value.
-/

set_option autoImplicit false

namespace PackageSearch.Merge

open Package (Listing)

/-- How a call ends: with a value, with an error, in a panic whose report is a text, or never. -/
inductive Ending (ε α : Type) where
  | value (value : α)
  | error (error : ε)
  | panic (report : String)
  | never

/-- A call, and how many milliseconds it takes. -/
structure Call (ε α : Type) where
  wait : Nat
  ending : Ending ε α

/-- The calls to a source, each of which may give an item. -/
abbrev Script (ε α : Type) := List (Call ε (Option α))

/-- What the items, errors and panics of a kind of source are to the merge. -/
structure SourceKind (ε α : Type) where
  item : α → Item
  failure : ε → Failure
  panicked : String → ε

namespace SourceKind

def localStore : SourceKind StoreError LocalRecord := ⟨.single, .store, .task⟩

/-- An uplink gives batches. A panic in it is told under its name. -/
def uplink (name : String) : SourceKind UplinkError (List Listing) :=
  ⟨.batch, .uplink, .task name⟩

end SourceKind

variable {ε α : Type}

def Call.work (kind : SourceKind ε α) (call : Call ε (Option α)) : List Act :=
  (if call.wait = 0 then [] else [.pause call.wait]) ++
  match call.ending with
  | .value item => item.toList.map fun item => .deliver (kind.item item)
  | .error error => [.fail (kind.failure error)]
  | .panic report => [.fail (kind.failure (kind.panicked report))]
  | .never => [.hang]

namespace Script

def work (kind : SourceKind ε α) (script : Script ε α) : List Act :=
  script.flatMap (Call.work kind)

/-- The items of the calls before the first one without a value. -/
def items : Script ε α → List α
  | [] => []
  | call :: rest =>
      match call.ending with
      | .value item => item.toList ++ items rest
      | _ => []

/-- The failure that a script ends with, a panic included. -/
def failure? (kind : SourceKind ε α) : Script ε α → Option ε
  | [] => none
  | call :: rest =>
      match call.ending with
      | .value _ => failure? kind rest
      | .error error => some error
      | .panic report => some (kind.panicked report)
      | .never => none

/-- Whether every call ends, up to the first one without a value. -/
def ends : Script ε α → Bool
  | [] => true
  | call :: rest =>
      match call.ending with
      | .value _ => ends rest
      | .never => false
      | _ => true

def failed (error : ε) : Script ε α := [⟨0, .error error⟩]

end Script

end PackageSearch.Merge
