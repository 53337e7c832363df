import PackageSearch.Number.Shortest
import PackageSearch.Text.Blank

/-!
# JSON values and their text

A value keeps the members of a record in the order they are written in. The compact text has no
blanks; the indented text puts each item and member on a line of its own, two blanks per level.
-/

set_option autoImplicit false

namespace PackageSearch.Json

/-- A number is an integer of 64 bits, with or without sign, or a double. -/
inductive Number where
  | integer (value : Int)
  | real (value : Binary64)
  deriving DecidableEq, Inhabited

inductive Value where
  | null
  | boolean (value : Bool)
  | number (value : Number)
  | text (value : String)
  | list (items : List Value)
  | record (members : List (String × Value))
  deriving Inhabited

def Number.toReal : Number → Binary64
  | .integer value => Binary64.ofInt value
  | .real value => value

/-- The digits of a number of at most one hexadecimal digit. -/
def hexDigit (value : Nat) : Char :=
  (Nat.toDigits 16 value).headD '0'

/-- How a character stands in a quoted text: quotation mark, reverse solidus and control
characters are escaped, all else stands for itself. -/
def escaped (character : Char) : List Char :=
  if character = '"' then ['\\', '"']
  else if character = '\\' then ['\\', '\\']
  else if character = '\n' then ['\\', 'n']
  else if character = '\r' then ['\\', 'r']
  else if character = '\t' then ['\\', 't']
  else if character.toNat = 0x08 then ['\\', 'b']
  else if character.toNat = 0x0c then ['\\', 'f']
  else if character.toNat < 0x20 then
    ['\\', 'u', '0', '0', hexDigit (character.toNat / 16), hexDigit (character.toNat % 16)]
  else [character]

def quoted (text : String) : String :=
  String.ofList ('"' :: text.toList.flatMap escaped ++ ['"'])

def Number.render : Number → String
  | .integer value => toString value
  | .real value => value.documentText

namespace Value

mutual

def render : Value → String
  | null => "null"
  | boolean value => if value then "true" else "false"
  | number value => value.render
  | text value => quoted value
  | list items => "[" ++ Text.joinWith "," (renderItems items) ++ "]"
  | record members => "\x7b" ++ Text.joinWith "," (renderMembers members) ++ "\x7d"

def renderItems : List Value → List String
  | [] => []
  | item :: rest => item.render :: renderItems rest

def renderMembers : List (String × Value) → List String
  | [] => []
  | (key, value) :: rest => (quoted key ++ ":" ++ value.render) :: renderMembers rest

end

def lineAt (level : Nat) : String :=
  String.ofList ('\n' :: List.replicate (2 * level) ' ')

/-- Entries on lines of their own between two brackets; no entries, no lines. -/
def block (opening closing : String) (level : Nat) (entries : List String) : String :=
  if entries.isEmpty then opening ++ closing
  else opening ++ lineAt (level + 1) ++ Text.joinWith ("," ++ lineAt (level + 1)) entries ++
    lineAt level ++ closing

mutual

def renderAt (level : Nat) : Value → String
  | null => "null"
  | boolean value => if value then "true" else "false"
  | number value => value.render
  | text value => quoted value
  | list items => block "[" "]" level (itemsAt (level + 1) items)
  | record members => block "\x7b" "\x7d" level (membersAt (level + 1) members)

def itemsAt (level : Nat) : List Value → List String
  | [] => []
  | item :: rest => item.renderAt level :: itemsAt level rest

def membersAt (level : Nat) : List (String × Value) → List String
  | [] => []
  | (key, value) :: rest =>
      (quoted key ++ ": " ++ value.renderAt level) :: membersAt level rest

end

def renderIndented (value : Value) : String :=
  value.renderAt 0

def asText? : Value → Option String
  | text value => some value
  | _ => none

/-- The member of a record; the last one of a repeated key. -/
def member? (key : String) : Value → Option Value
  | record members => (members.reverse.find? fun entry => entry.1 == key).map Prod.snd
  | _ => none

end Value

end PackageSearch.Json
