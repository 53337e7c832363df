import PackageSearch.Json.Decoder

/-!
# People and addresses in package metadata

An author is a text or a record of arbitrary values. Accounts and contacts are the people that a
registry knows; a location is an address, given as a text or inside a record.
-/

set_option autoImplicit false

namespace PackageSearch.Package

open Json (Value Node Fault Decoder Field Shape optionalMember)

/-- A person as a text, or as a record with its members in the order of their keys. -/
inductive Person where
  | text (value : String)
  | record (members : Dictionary Value)
  deriving Inhabited

namespace Person

def named (name : String) (email : Option String) : Person :=
  .record (Dictionary.ofList (("name", .text name) :: optionalMember "email" .text email))

def name? : Person → Option String
  | text value => some value
  | record members => (members.get? "name").bind Value.asText?

def texts : Person → List String
  | text value => [value]
  | record members => members.values.filterMap Value.asText?

def toValue : Person → Value
  | text value => .text value
  | record members => .record members.entries

def decoder : Decoder Person := fun levels node => do
  match ← node.value levels with
  | .text value => .ok (.text value)
  | .record members => .ok (.record (Dictionary.ofList members))
  | _ => .error .mismatched

end Person

/-- A contact of a listed package. -/
structure Contact where
  username : String
  email : String
  deriving DecidableEq, Inhabited

namespace Contact

def shape : Shape Contact := Shape.skipping ⟨"", ""⟩
  [Field.optional "username" Decoder.text fun held username => { held with username },
    Field.optional "email" Decoder.text fun held email => { held with email }]

def toValue (contact : Contact) : Value :=
  .record [("username", .text contact.username), ("email", .text contact.email)]

end Contact

/-- An account of a registry. -/
structure Account where
  name : String
  email : Option String
  deriving DecidableEq, Inhabited

namespace Account

def shape : Shape Account := Shape.skipping ⟨"", none⟩
  [Field.mandatory "name" Decoder.text fun held name => { held with name },
    Field.optional "email" (Decoder.option Decoder.text) fun held email => { held with email }]

def toValue (account : Account) : Value :=
  .record (("name", .text account.name) :: optionalMember "email" .text account.email)

def toContact (account : Account) : Contact :=
  ⟨account.name, account.email.getD ""⟩

end Account

/-- An address as a text or inside a record. -/
inductive Location where
  | text (address : String)
  | record (address : String)
  deriving DecidableEq, Inhabited

namespace Location

def address : Location → String
  | text address => address
  | record address => address

def toValue : Location → Value
  | text address => .text address
  | record address => .record [("url", .text address)]

def membersNamed (key : String) (members : List (Except Fault String × Node)) : List Node :=
  members.filterMap fun (name, node) =>
    match name with
    | .ok name => if name = key then some node else none
    | .error _ => none

/-- A value is read completely before it is found to be no location. The record may hold the
address once, as a text; without it the address is empty. -/
def decoder : Decoder Location := fun levels node => do
  let _ ← node.value levels
  match node with
  | .text (.ok address) => .ok (.text address)
  | .record members _ =>
      match membersNamed "url" members with
      | [] => .ok (.record "")
      | [.text (.ok address)] => .ok (.record address)
      | _ => .error .mismatched
  | _ => .error .mismatched

end Location

end PackageSearch.Package
