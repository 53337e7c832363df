import PackageSearch.Json.Node

/-!
# The syntax of JSON text

A tree here holds every byte of its text: blanks, the spelling of numbers, escapes, and the order
and repetition of members. So the JSON texts whose root is a record are the sources of `Document`.
-/

set_option autoImplicit false

namespace PackageSearch.Json.Syntax

structure Blanks where
  source : Bytes
  blank : source.all isSpace = true

/-! ## Numbers -/

/-- One digit or more. -/
structure Digits where
  source : Bytes
  digits : source.all isDigitByte = true
  nonempty : source ≠ []

structure Exponent where
  capital : Bool
  sign : Option Bool
  digits : Digits

def Exponent.source (exponent : Exponent) : Bytes :=
  (if exponent.capital then 0x45 else 0x65) ::
    ((exponent.sign.map fun negative => if negative then 0x2d else 0x2b).toList ++
      exponent.digits.source)

/-- A zero stands in front of other digits of the whole part only if it has no others. -/
structure NumberText where
  negative : Bool
  whole : Digits
  shortest : whole.source.head? = some 0x30 → whole.source = [0x30]
  fraction : Option Digits
  exponent : Option Exponent

def NumberText.source (number : NumberText) : Bytes :=
  (if number.negative then [0x2d] else []) ++ number.whole.source ++
    (number.fraction.elim [] fun digits => 0x2e :: digits.source) ++
    number.exponent.elim [] Exponent.source

/-! ## Texts -/

structure HexDigit where
  letter : UInt8
  known : (hexValue? letter).isSome = true

/-- Neither a control character nor a quotation mark nor a reverse solidus. -/
def isPlain (byte : UInt8) : Bool :=
  0x20 ≤ byte && byte ≠ 0x22 && byte ≠ 0x5c

/-- What stands between quotation marks: a byte as it is, or an escape. -/
inductive Part where
  | plain (byte : UInt8) (known : isPlain byte = true)
  | escape (letter : UInt8) (known : (escapeByte? letter).isSome = true)
  | unit (first second third fourth : HexDigit)

def Part.source : Part → Bytes
  | .plain byte _ => [byte]
  | .escape letter _ => [0x5c, letter]
  | .unit first second third fourth =>
      [0x5c, 0x75, first.letter, second.letter, third.letter, fourth.letter]

def spelling (parts : List Part) : Bytes :=
  parts.flatMap Part.source

def quoted (parts : List Part) : Bytes :=
  0x22 :: (spelling parts ++ [0x22])

/-! ## Values -/

mutual

inductive Node where
  | null
  | boolean (value : Bool)
  | number (number : NumberText)
  | text (parts : List Part)
  | list (blanks : Blanks) (items : Items)
  | record (blanks : Blanks) (members : Members)

/-- The items of a list, each between blanks. -/
inductive Items where
  | nil
  | cons (before : Blanks) (item : Node) (after : Blanks) (rest : Items)

/-- The members of a record, with blanks around each key and each value. -/
inductive Members where
  | nil
  | cons (before : Blanks) (key : List Part) (afterKey beforeValue : Blanks) (value : Node)
      (after : Blanks) (rest : Members)

end

mutual

def Node.source : Node → Bytes
  | .null => [0x6e, 0x75, 0x6c, 0x6c]
  | .boolean true => [0x74, 0x72, 0x75, 0x65]
  | .boolean false => [0x66, 0x61, 0x6c, 0x73, 0x65]
  | .number number => number.source
  | .text parts => quoted parts
  | .list blanks items => 0x5b :: (blanks.source ++ items.source [] ++ [0x5d])
  | .record blanks members => 0x7b :: (blanks.source ++ members.source [] ++ [0x7d])

/-- Items with the separator in front of the first one; all others follow a comma. -/
def Items.source : Items → Bytes → Bytes
  | .nil, _ => []
  | .cons before item after rest, separator =>
      separator ++ before.source ++ item.source ++ after.source ++ rest.source [0x2c]

def Members.source : Members → Bytes → Bytes
  | .nil, _ => []
  | .cons before key afterKey beforeValue value after rest, separator =>
      separator ++ before.source ++ quoted key ++ afterKey.source ++ [0x3a] ++
        beforeValue.source ++ value.source ++ after.source ++ rest.source [0x2c]

end

/-- A text whose root is a record. -/
structure Document where
  before : Blanks
  blanks : Blanks
  members : Members
  after : Blanks

def Document.source (document : Document) : Bytes :=
  document.before.source ++ (Node.record document.blanks document.members).source ++
    document.after.source

/-! ## The parts of a document that are search results -/

def Node.composite? : Node → Option Bytes
  | .list blanks items => some (Node.list blanks items).source
  | .record blanks members => some (Node.record blanks members).source
  | _ => none

def Items.composites : Items → List Bytes
  | .nil => []
  | .cons _ item _ rest => item.composite?.toList ++ rest.composites

def Node.composites : Node → List Bytes
  | .list _ items => items.composites
  | _ => []

/-- The lists and records in lists under a key with a given spelling. -/
def Members.composites (wanted : Bytes) : Members → List Bytes
  | .nil => []
  | .cons _ key _ _ value _ rest =>
      (if spelling key = wanted then value.composites else []) ++ rest.composites wanted

end PackageSearch.Json.Syntax
