import PackageSearch.Json.Decoder
import PackageSearch.Number.Numeral

/-!
# Search queries

A query is a text, the index range of the wanted page, and three weights that are only passed on.
The range is given by its start and its end; the parameter that holds the end is called `size`.
Numbers are read leniently from parameters: a leading integer counts, and whatever cannot be read
gives the default.
-/

set_option autoImplicit false

namespace PackageSearch

open Json (Value Decoder Field Shape optionalMember)

structure Query where
  text : String
  size : Nat
  start : Nat
  quality : Option Binary64
  popularity : Option Binary64
  maintenance : Option Binary64
  deriving DecidableEq, Inhabited

namespace Query

def defaultSize : Nat := 20

def defaultStart : Nat := 0

def ofText (text : String) : Query :=
  ⟨text, defaultSize, defaultStart, none, none, none⟩

def withSize (query : Query) (size : Nat) : Query := { query with size }

def withStart (query : Query) (start : Nat) : Query := { query with start }

def withWeights (query : Query) (quality popularity maintenance : Binary64) : Query :=
  { query with
    quality := some quality
    popularity := some popularity
    maintenance := some maintenance }

def maxSigned : Nat := Nat.pow 2 63 - 1

/-- The integer a text starts with: blanks are passed over, then an optional sign, then the longest
run of ASCII digits, whose value must fit 64 bits with sign. -/
def leadingInteger? (text : String) : Option Int :=
  let (negative, rest) := leadingSign (Text.trimLeft text.toList)
  let (digits, _) := leadingDigits rest
  match numeral? digits with
  | none => none
  | some value =>
      if maxSigned < value then none
      else some (if negative then -(value : Int) else value)

/-- The end of the page: a positive number or the default. -/
def sizeOf (given : Option String) : Nat :=
  match given.bind leadingInteger? with
  | some value => if 0 < value then value.toNat else defaultSize
  | none => defaultSize

/-- The start of the page: a number that is not negative, or the default. -/
def startOf (given : Option String) : Nat :=
  match given.bind leadingInteger? with
  | some value => if 0 ≤ value then value.toNat else defaultStart
  | none => defaultStart

/-- A weight: the number a text denotes without the blanks around it. -/
def weightOf (given : Option String) : Option Binary64 :=
  given.bind fun text => Binary64.ofText? (String.ofList (Text.trim text.toList))

def ofParameters (parameters : Dictionary String) : Query :=
  { text := (parameters.get? "text").getD ""
    size := sizeOf (parameters.get? "size")
    start := startOf (parameters.get? "from")
    quality := weightOf (parameters.get? "quality")
    popularity := weightOf (parameters.get? "popularity")
    maintenance := weightOf (parameters.get? "maintenance") }

/-- The parameter of a weight, left out when there is none. -/
def weightParameter (key : String) (weight : Option Binary64) : List (String × String) :=
  match weight with
  | some weight => [(key, weight.displayText)]
  | none => []

/-- The parameters that describe a query, in the order they are passed on. -/
def toParameters (query : Query) : List (String × String) :=
  [("text", query.text), ("size", toString query.size), ("from", toString query.start)] ++
  weightParameter "quality" query.quality ++
  weightParameter "popularity" query.popularity ++
  weightParameter "maintenance" query.maintenance

def shape : Shape Query := Shape.skipping (ofText "")
  [Field.mandatory "text" Decoder.text fun held text => { held with text },
    Field.mandatory "size" Decoder.natural fun held size => { held with size },
    Field.mandatory "from" Decoder.natural fun held start => { held with start },
    Field.optional "quality" (Decoder.option Decoder.real)
      fun held quality => { held with quality },
    Field.optional "popularity" (Decoder.option Decoder.real)
      fun held popularity => { held with popularity },
    Field.optional "maintenance" (Decoder.option Decoder.real)
      fun held maintenance => { held with maintenance }]

def toValue (query : Query) : Value :=
  let weight (number : Binary64) : Value := .number (.real number)
  .record <|
    [("text", .text query.text), ("size", .number (.integer query.size)),
      ("from", .number (.integer query.start))] ++
    optionalMember "quality" weight query.quality ++
    optionalMember "popularity" weight query.popularity ++
    optionalMember "maintenance" weight query.maintenance

end Query

end PackageSearch
