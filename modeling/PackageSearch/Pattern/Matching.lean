import PackageSearch.Text.CharacterSet
import PackageSearch.Text.Property

/-!
# Matching

What a pattern matches. A place in a text is given by the characters before and behind it. A
pattern leads from places to places: from where a match may begin to where it may end. `ends`
computes this for a set of places at once, as a list of marks, one for each place of the text.
-/

set_option autoImplicit false

namespace PackageSearch

/-- Where a place must be. -/
inductive Pattern.Place where
  | textStart
  | textEnd
  | lineStart
  | lineEnd
  | lineStartReturns
  | lineEndReturns
  | wordBoundary (unicode : Bool)
  | noWordBoundary (unicode : Bool)
  | wordStart (unicode : Bool)
  | wordEnd (unicode : Bool)
  | wordStartHalf (unicode : Bool)
  | wordEndHalf (unicode : Bool)
  deriving DecidableEq

/-- A pattern: one character of a set, a kind of place, parts one behind the other, a choice, a
repetition, or a marked part. -/
inductive Pattern where
  | oneOf (set : Text.CharacterSet)
  | at (place : Pattern.Place)
  | sequence (parts : List Pattern)
  | choice (branches : List Pattern)
  | repeated (least : Nat) (most : Option Nat) (inner : Pattern)
  | marked (inner : Pattern)

namespace Pattern

/-- The characters before and behind a place. -/
structure Neighbours where
  before : Option Char
  after : Option Char

def places (before : Option Char) : List Char → List Neighbours
  | [] => [⟨before, none⟩]
  | character :: rest => ⟨before, some character⟩ :: places (some character) rest

def isWord (unicode : Bool) : Option Char → Bool
  | none => false
  | some character =>
      if unicode && 128 ≤ character.toNat then Text.wordCharacters.contains character.toNat
      else character.isAlphanum || character = '_'

def Place.isAt (place : Place) (around : Neighbours) : Bool :=
  match place with
  | textStart => around.before.isNone
  | textEnd => around.after.isNone
  | lineStart => around.before.isNone || around.before == some '\n'
  | lineEnd => around.after.isNone || around.after == some '\n'
  | lineStartReturns =>
      around.before.isNone || around.before == some '\n' ||
        (around.before == some '\r' && around.after != some '\n')
  | lineEndReturns =>
      around.after.isNone || around.after == some '\r' ||
        (around.after == some '\n' && around.before != some '\r')
  | wordBoundary unicode => isWord unicode around.before != isWord unicode around.after
  | noWordBoundary unicode => isWord unicode around.before == isWord unicode around.after
  | wordStart unicode => ! isWord unicode around.before && isWord unicode around.after
  | wordEnd unicode => isWord unicode around.before && ! isWord unicode around.after
  | wordStartHalf unicode => ! isWord unicode around.before
  | wordEndHalf unicode => ! isWord unicode around.after

abbrev Marks := List Bool

def either (left right : Marks) : Marks :=
  List.zipWith (· || ·) left right

def within (left right : Marks) : Bool :=
  (List.zipWith (fun first second => ! first || second) left right).all id

def without (left right : Marks) : Marks :=
  List.zipWith (fun first second => first && ! second) left right

/-- Apply a step a number of times, unless it leaves the marks as they are before. -/
def repeatExactly (step : Marks → Marks) : Nat → Marks → Marks
  | 0, marks => marks
  | count + 1, marks =>
      let next := step marks
      if next = marks then marks else repeatExactly step count next

/-- All places reached by at most so many steps; a step starts from places new at the one before. -/
def repeatUpTo (step : Marks → Marks) : Nat → Marks → Marks → Marks
  | 0, _, reached => reached
  | count + 1, fresh, reached =>
      let next := without (step fresh) reached
      if next.any id then repeatUpTo step count next (either reached next) else reached

mutual

def ends (around : List Neighbours) : Pattern → Marks → Marks
  | .oneOf set, starts =>
      false :: (List.zipWith (fun place start =>
        start && place.after.any fun character => set.contains character.toNat)
          around starts).dropLast
  | .at place, starts => List.zipWith (fun near start => start && place.isAt near) around starts
  | .sequence parts, starts => endsOfAll around parts starts
  | .choice branches, starts => endsOfAny around branches starts
  | .repeated least most inner, starts =>
      let first := repeatExactly (ends around inner) least starts
      let further := match most with
        | some most => most - least
        | none => around.length
      repeatUpTo (ends around inner) further first first
  | .marked inner, starts => ends around inner starts

def endsOfAll (around : List Neighbours) : List Pattern → Marks → Marks
  | [], starts => starts
  | part :: rest, starts =>
      let next := ends around part starts
      if next.any id then endsOfAll around rest next else next

def endsOfAny (around : List Neighbours) : List Pattern → Marks → Marks
  | [], starts => starts.map fun _ => false
  | branch :: rest, starts => either (ends around branch starts) (endsOfAny around rest starts)

end

def occursIn (pattern : Pattern) (text : List Char) : Bool :=
  let around := places none text
  (ends around pattern (around.map fun _ => true)).any id

end Pattern

end PackageSearch
