import PackageSearch.Json.Node
import PackageSearch.Dictionary

/-!
# Typed decoding

A decoder turns the tree of a text into a value of its type, or gives the first fault met in the
order of the text. Values that nobody asks for are skipped, and only a break in them counts. Lists
and records may be nested `maxLevels` deep where they are read.
-/

set_option autoImplicit false

namespace PackageSearch.Json

def maxLevels : Nat := 127

abbrev Decoder (α : Type) := Nat → Node → Except Fault α

/-- The fault of one who wants a value of another type: numbers and texts are read before their
type is refused, lists and records are not. -/
def Node.refusal : Node → Fault
  | .number (.error fault) => fault
  | .text (.error fault) => fault
  | .broken place => place.read
  | _ => .mismatched

def Node.skip (node : Node) : Except Fault Unit :=
  match node.break? with
  | some place => .error place.skipped
  | none => .ok ()

def closed (ending : Option Break) : Except Fault Unit :=
  match ending with
  | some place => .error place.read
  | none => .ok ()

def descend {α : Type} (levels : Nat) (inside : Nat → Except Fault α) : Except Fault α :=
  match levels with
  | 0 => .error .malformed
  | levels + 1 => inside levels

mutual

/-- Any value, read completely. Members of a record are put in the order of their keys, the last
of a repeated key winning. -/
def Node.value : Nat → Node → Except Fault Value
  | _, .null => .ok .null
  | _, .boolean value => .ok (.boolean value)
  | _, .number value => value.map .number
  | _, .text value => value.map .text
  | levels, .list items ending =>
      match levels with
      | 0 => .error .malformed
      | levels + 1 => do
          let values ← itemValues levels items
          closed ending
          .ok (.list values)
  | levels, .record members ending =>
      match levels with
      | 0 => .error .malformed
      | levels + 1 => do
          let values ← memberValues levels members
          closed ending
          .ok (.record (Dictionary.ofList values).entries)
  | _, .broken place => .error place.read

def itemValues : Nat → List Node → Except Fault (List Value)
  | _, [] => .ok []
  | levels, item :: rest => do
      let value ← item.value levels
      let values ← itemValues levels rest
      .ok (value :: values)

def memberValues : Nat → List (Except Fault String × Node) → Except Fault (List (String × Value))
  | _, [] => .ok []
  | levels, (key, node) :: rest => do
      let key ← key
      let value ← node.value levels
      let values ← memberValues levels rest
      .ok ((key, value) :: values)

end

namespace Decoder

def value : Decoder Value := Node.value

def text : Decoder String
  | _, .text value => value
  | _, node => .error node.refusal

def boolean : Decoder Bool
  | _, .boolean value => .ok value
  | _, node => .error node.refusal

def real : Decoder Binary64
  | _, .number value => value.map Number.toReal
  | _, node => .error node.refusal

def natural : Decoder Nat
  | _, .number value => do
      match ← value with
      | .integer value => if value < 0 then .error .mismatched else .ok value.toNat
      | .real _ => .error .mismatched
  | _, node => .error node.refusal

def option {α : Type} (decoder : Decoder α) : Decoder (Option α)
  | _, .null => .ok none
  | levels, node => (decoder levels node).map some

def list {α : Type} (decoder : Decoder α) : Decoder (List α)
  | levels, .list items ending => descend levels fun levels => do
      let values ← items.mapM (decoder levels)
      closed ending
      .ok values
  | _, node => .error node.refusal

/-- A record with arbitrary keys; the last value of a repeated key wins. -/
def dictionary {α : Type} (decoder : Decoder α) : Decoder (Dictionary α)
  | levels, .record members ending => descend levels fun levels => do
      let entries ← members.mapM fun (key, node) => do
        let key ← key
        let value ← decoder levels node
        .ok (key, value)
      closed ending
      .ok (Dictionary.ofList entries)
  | _, node => .error node.refusal

end Decoder

/-- A field of a structure: its key, whether it must be given, and how its value is stored. -/
structure Field (ρ : Type) where
  key : String
  required : Bool
  store : Nat → ρ → Node → Except Fault ρ

def Field.mandatory {ρ α : Type} (key : String) (decoder : Decoder α) (set : ρ → α → ρ) : Field ρ :=
  ⟨key, true, fun levels held node => (decoder levels node).map (set held)⟩

/-- A field that keeps its initial value when it is not given. -/
def Field.optional {ρ α : Type} (key : String) (decoder : Decoder α) (set : ρ → α → ρ) : Field ρ :=
  ⟨key, false, fun levels held node => (decoder levels node).map (set held)⟩

/-- How a structure is read: the value before any field is given, its fields in order, and what
becomes of a member with another key. -/
structure Shape (ρ : Type) where
  blank : ρ
  fields : List (Field ρ)
  other : Nat → ρ → String → Node → Except Fault ρ

namespace Shape

variable {ρ : Type}

def skipping (blank : ρ) (fields : List (Field ρ)) : Shape ρ :=
  ⟨blank, fields, fun _ held _ node => node.skip.map fun _ => held⟩

/-- Read the members of a record. A key may be given once; `seen` holds those that were. -/
def readMembers (shape : Shape ρ) (levels : Nat) :
    List (Except Fault String × Node) → List String → ρ → Except Fault (ρ × List String)
  | [], seen, held => .ok (held, seen)
  | (key, node) :: rest, seen, held => do
      let key ← key
      match shape.fields.find? fun field => field.key == key with
      | none =>
          let held ← shape.other levels held key node
          shape.readMembers levels rest seen held
      | some field =>
          if seen.contains key then .error .mismatched
          else do
            let held ← field.store levels held node
            shape.readMembers levels rest (key :: seen) held

/-- Read a structure from a record: at its end no required field may be missing. -/
def ofRecord (shape : Shape ρ) : Decoder ρ
  | levels, .record members ending => descend levels fun levels => do
      let (held, seen) ← shape.readMembers levels members [] shape.blank
      closed ending
      if shape.fields.all fun field => ! field.required || seen.contains field.key then .ok held
      else .error .mismatched
  | _, node => .error node.refusal

/-- Read the fields from the items of a list, in their order. Fields that must be given may not
be missing, and there may be no further item. -/
def readItems (levels : Nat) (ending : Option Break) :
    List (Field ρ) → List Node → ρ → Except Fault ρ
  | [], [], held => (closed ending).map fun _ => held
  | [], _ :: _, _ => .error .malformed
  | field :: fields, item :: items, held => do
      let held ← field.store levels held item
      readItems levels ending fields items held
  | field :: fields, [], held => do
      closed ending
      if field.required then .error .mismatched else readItems levels ending fields [] held

def decoder (shape : Shape ρ) : Decoder ρ
  | levels, .list items ending => descend levels fun levels =>
      readItems levels ending shape.fields items shape.blank
  | levels, node => shape.ofRecord levels node

end Shape

/-- Decode a document: its value, then nothing but blanks. -/
def decode {α : Type} (decoder : Decoder α) (text : Bytes) : Except Fault α := do
  let document := Document.ofBytes text
  let value ← decoder maxLevels document.root
  if document.trailing then .error .malformed else .ok value

def optionalMember {α : Type} (key : String) (write : α → Value) (value : Option α) :
    List (String × Value) :=
  match value with
  | some value => [(key, write value)]
  | none => []

end PackageSearch.Json
