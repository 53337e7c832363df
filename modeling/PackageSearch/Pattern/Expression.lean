/-!
# Expressions of patterns

The tree of a pattern's text as it is written, before flags and character classes are given their
meaning.
-/

set_option autoImplicit false

namespace PackageSearch.Pattern

/-- What can be switched on or off inside a pattern. -/
inductive Flag where
  | ignoreCase
  | multipleLines
  | dotMatchesAll
  | swapGreed
  | unicode
  | carriageReturns
  | ignoreBlanks
  deriving DecidableEq

abbrev FlagChanges := List (Flag × Bool)

/-- A character of a pattern, and whether it is written as a byte of two hexadecimal digits. -/
structure Letter where
  value : Char
  asByte : Bool

/-- A place that an assertion asks for. -/
inductive Assertion where
  | lineStart
  | lineEnd
  | textStart
  | textEnd
  | wordBoundary
  | noWordBoundary
  | wordStart
  | wordEnd
  | wordStartHalf
  | wordEndHalf
  deriving DecidableEq

/-- The classes of one letter behind a backslash. -/
inductive ShortClass where
  | digit
  | space
  | word
  deriving DecidableEq

/-- How two sets of a class are joined. -/
inductive SetOperation where
  | intersection
  | difference
  | symmetricDifference
  deriving DecidableEq

mutual

/-- What a bracketed class lists. -/
inductive ClassItem where
  | range (first last : Letter)
  | named (negated : Bool) (ranges : List (Nat × Nat))
  | property (negated : Bool) (name : List Char) (value : Option (List Char))
  | short (negated : Bool) (kind : ShortClass)
  | nested (negated : Bool) (set : ClassSet)

/-- A list of items, or two sets joined by an operation. -/
inductive ClassSet where
  | items (items : List ClassItem)
  | joined (operation : SetOperation) (left right : ClassSet)

end

/-- The tree of a pattern. -/
inductive Expression where
  | flags (changes : FlagChanges)
  | letter (value : Letter)
  | dot
  | assertion (kind : Assertion)
  | oneOf (item : ClassItem)
  | repeated (least : Nat) (most : Option Nat) (inner : Expression)
  | group (captures : Bool) (changes : FlagChanges) (inner : Expression)
  | sequence (parts : List Expression)
  | choice (branches : List Expression)

/-! ## Nesting -/

mutual

def ClassItem.depth : ClassItem → Nat
  | .nested _ set => set.depth + 1
  | _ => 0

def ClassSet.depth : ClassSet → Nat
  | .items items => itemsDepth items + if items.length < 2 then 0 else 1
  | .joined _ left right => max left.depth right.depth + 1

def itemsDepth : List ClassItem → Nat
  | [] => 0
  | item :: rest => max item.depth (itemsDepth rest)

end

mutual

/-- How deep an expression is nested. Repetitions, groups, bracketed classes, and sequences and
choices of at least two parts count. -/
def Expression.depth : Expression → Nat
  | .oneOf item => item.depth
  | .repeated _ _ inner => inner.depth + 1
  | .group _ _ inner => inner.depth + 1
  | .sequence parts => partsDepth parts + if parts.length < 2 then 0 else 1
  | .choice branches => partsDepth branches + if branches.length < 2 then 0 else 1
  | _ => 0

def partsDepth : List Expression → Nat
  | [] => 0
  | part :: rest => max part.depth (partsDepth rest)

end

end PackageSearch.Pattern
