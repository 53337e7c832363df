import PackageSearch.Number.Numeral
import PackageSearch.Text.Blank

/-!
# Semantic versions

Three numbers of 64 bits without leading zeros, an optional prerelease and optional build metadata.
Versions are ordered by their numbers, then by prerelease, a release standing above its
prereleases, then by build metadata. Identifiers of digits alone have any length. The caret range of
a version holds what may stand in for it.
-/

set_option autoImplicit false

namespace PackageSearch.Package

structure Version where
  major : Nat
  minor : Nat
  patch : Nat
  prerelease : List (List Char)
  build : List (List Char)
  deriving DecidableEq

namespace Version

def maxNumber : Nat := Nat.pow 2 64 - 1

/-- A number without a leading zero, and what follows. -/
def number? (text : List Char) : Option (Nat × List Char) :=
  let (digits, rest) := leadingDigits text
  let leadingZero := digits.head? == some '0' && 1 < digits.length
  if digits.isEmpty || leadingZero || maxNumber < numeralValue digits then none
  else some (numeralValue digits, rest)

def period? : List Char → Option (List Char)
  | '.' :: rest => some rest
  | _ => none

def isIdentifierCharacter (character : Char) : Bool :=
  character.isAlphanum || character == '-'

/-- A prerelease or build identifier: letters, digits and hyphens, at least one. -/
def isIdentifier (identifier : List Char) : Bool :=
  ! identifier.isEmpty && identifier.all isIdentifierCharacter

def isNumeric (identifier : List Char) : Bool :=
  identifier.all Char.isDigit

def isPrereleaseIdentifier (identifier : List Char) : Bool :=
  isIdentifier identifier &&
    ! (isNumeric identifier && identifier.head? == some '0' && 1 < identifier.length)

def identifiers (text : List Char) : List (List Char) :=
  Text.pieces (· == '.') text

/-- The identifiers of a text, if they are all legal. -/
def legalIdentifiers? (legal : List Char → Bool) (text : List Char) : Option (List (List Char)) :=
  if (identifiers text).all legal then some (identifiers text) else none

/-- What stands between the numbers and the build metadata: a prerelease behind a hyphen, or
nothing. -/
def prerelease? : List Char → Option (List (List Char))
  | [] => some []
  | '-' :: text => legalIdentifiers? isPrereleaseIdentifier text
  | _ => none

/-- The build metadata behind their sign, or nothing. -/
def build? : List Char → Option (List (List Char))
  | [] => some []
  | _ :: text => legalIdentifiers? isIdentifier text

def parse? (text : String) : Option Version := do
  let (major, rest) ← number? text.toList
  let (minor, rest) ← number? (← period? rest)
  let (patch, rest) ← number? (← period? rest)
  let prerelease ← prerelease? (rest.takeWhile (· != '+'))
  let build ← build? (rest.dropWhile (· != '+'))
  some { major, minor, patch, prerelease, build }

def compareTexts : List Char → List Char → Ordering
  | [], [] => .eq
  | [], _ :: _ => .lt
  | _ :: _, [] => .gt
  | left :: lefts, right :: rights =>
      (compare left.toNat right.toNat).then (compareTexts lefts rights)

/-- The order of numbers without leading zeros, of any length. -/
def compareNumerals (left right : List Char) : Ordering :=
  (compare left.length right.length).then (compareTexts left right)

def compareIdentifiers (numerals : List Char → List Char → Ordering) (left right : List Char) :
    Ordering :=
  match isNumeric left, isNumeric right with
  | true, true => numerals left right
  | true, false => .lt
  | false, true => .gt
  | false, false => compareTexts left right

/-- The order of lists of identifiers: the first difference decides, and more stand above fewer. -/
def compareLists (identifiers : List Char → List Char → Ordering) :
    List (List Char) → List (List Char) → Ordering
  | [], [] => .eq
  | [], _ :: _ => .lt
  | _ :: _, [] => .gt
  | left :: lefts, right :: rights =>
      (identifiers left right).then (compareLists identifiers lefts rights)

/-- The order of prereleases; none is a release and stands above all. -/
def comparePrereleases : List (List Char) → List (List Char) → Ordering
  | [], [] => .eq
  | [], _ :: _ => .gt
  | _ :: _, [] => .lt
  | left, right => compareLists (compareIdentifiers compareNumerals) left right

/-- Build numbers may have leading zeros: by value, then the shorter first. -/
def compareBuildNumerals (left right : List Char) : Ordering :=
  (compareNumerals (left.dropWhile (· == '0')) (right.dropWhile (· == '0'))).then
    (compare left.length right.length)

def compareBuilds (left right : List (List Char)) : Ordering :=
  compareLists (compareIdentifiers compareBuildNumerals) left right

protected def compare (left right : Version) : Ordering :=
  (compare left.major right.major).then <|
    (compare left.minor right.minor).then <|
      (compare left.patch right.patch).then <|
        (comparePrereleases left.prerelease right.prerelease).then
          (compareBuilds left.build right.build)

/-! ## Caret ranges -/

/-- Whether a version has the first number above zero of a base, and the numbers before it, and is
not below the base. -/
def keepsTo (base version : Version) : Bool :=
  let notBelow := comparePrereleases base.prerelease version.prerelease != .gt
  if version.major != base.major then false
  else if 0 < base.major then
    if version.minor != base.minor then base.minor < version.minor
    else if version.patch != base.patch then base.patch < version.patch
    else notBelow
  else if 0 < base.minor then
    if version.minor != base.minor then false
    else if version.patch != base.patch then base.patch < version.patch
    else notBelow
  else version.minor == base.minor && version.patch == base.patch && notBelow

/-- Whether a version is in the caret range of a base. A prerelease is in the range only if the base
is a prerelease of the same numbers. -/
def isInCaretRange (base version : Version) : Bool :=
  base.keepsTo version &&
    (version.prerelease.isEmpty ||
      (! base.prerelease.isEmpty && version.major == base.major && version.minor == base.minor &&
        version.patch == base.patch))

/-- The version in whose caret range stable versions are. -/
def firstStable : Version := ⟨1, 0, 0, [], []⟩

def isStable (version : Version) : Bool := firstStable.isInCaretRange version

end Version

end PackageSearch.Package
