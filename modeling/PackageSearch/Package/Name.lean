import PackageSearch.Text.Blank

/-!
# Package names

A bare name is a non-empty text of the permitted characters that neither starts with a period nor
is reserved. A name is a bare name behind any number of scopes, each written `@scope/`.
-/

set_option autoImplicit false

namespace PackageSearch.Package

/-- The characters of names and scopes: ASCII letters and digits and some punctuation. -/
def isNameCharacter (character : Char) : Bool :=
  character.isAlphanum || "-_.!~*'()@".toList.contains character

def isSegment (segment : List Char) : Bool :=
  ! segment.isEmpty && segment.all isNameCharacter

def reservedNames : List String :=
  ["node_modules", "__proto__", "favicon.ico"]

def isBareName (name : List Char) : Bool :=
  let lowered := name.map Char.toLower
  isSegment lowered && lowered.head? != some '.' &&
    ! reservedNames.contains (String.ofList lowered)

def isScopeSegment : List Char → Bool
  | '@' :: scope => isSegment scope
  | _ => false

/-- Whether segments name a package: scopes, then a bare name. -/
def areNameSegments : List (List Char) → Bool
  | [] => false
  | [name] => isBareName name
  | scope :: rest => isScopeSegment scope && areNameSegments rest

def nameSegments (name : String) : List (List Char) :=
  Text.pieces (· == '/') name.toList

def isValidName (name : String) : Bool :=
  areNameSegments (nameSegments name)

def unscoped : String := "unscoped"

/-- The scope of a name: what stands between a leading at sign and the first slash. -/
def scopeOf (name : String) : String :=
  match name.toList with
  | '@' :: rest => if rest.contains '/' then String.ofList (rest.takeWhile (· != '/')) else unscoped
  | _ => unscoped

end PackageSearch.Package
