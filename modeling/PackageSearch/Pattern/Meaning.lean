import PackageSearch.Pattern.Engine
import PackageSearch.Pattern.Matching
import PackageSearch.Pattern.Reader
import PackageSearch.Text.ClassName
import PackageSearch.Text.LetterCase

/-!
# The meaning of expressions

An expression becomes a pattern under the flags that hold where it stands. Without the flag `u`
classes are sets of bytes, and only those are allowed that keep to ASCII, so that every match ends
at a character. A pattern must not be too large when it is unfolded.
-/

set_option autoImplicit false

namespace PackageSearch.Pattern

open Text (CharacterSet)

/-- The flags that hold at a place. -/
structure Settings where
  ignoreCase : Bool
  multipleLines : Bool
  dotMatchesAll : Bool
  carriageReturns : Bool
  unicode : Bool

def Settings.initial : Settings := ⟨false, false, false, false, true⟩

def Settings.set (settings : Settings) (flag : Flag) (value : Bool) : Settings :=
  match flag with
  | .ignoreCase => { settings with ignoreCase := value }
  | .multipleLines => { settings with multipleLines := value }
  | .dotMatchesAll => { settings with dotMatchesAll := value }
  | .carriageReturns => { settings with carriageReturns := value }
  | .unicode => { settings with unicode := value }
  | .swapGreed => settings
  | .ignoreBlanks => settings

def Settings.change (settings : Settings) (changes : FlagChanges) : Settings :=
  changes.foldl (fun settings change => settings.set change.1 change.2) settings

/-! ## Classes -/

/-- A set with both letter cases of its ASCII letters. -/
def foldAscii (set : CharacterSet) : CharacterSet :=
  let isPartner := fun (code : Nat) =>
    ((65 ≤ code && code ≤ 90) && set.contains (code + 32)) ||
      ((97 ≤ code && code ≤ 122) && set.contains (code - 32))
  set.union (.ofRanges (((List.range 128).filter isPartner).map fun code => (code, code)))

/-- A set with all letter cases of its characters, where the flags ask for it. -/
def Settings.foldCase (settings : Settings) (set : CharacterSet) : CharacterSet :=
  if ! settings.ignoreCase then set
  else if settings.unicode then set.foldCase
  else foldAscii set

/-- A set folded and, if negated, complemented. The complement of a set of bytes has bytes beyond
ASCII. -/
def Settings.finish? (settings : Settings) (negated : Bool) (set : CharacterSet) :
    Option CharacterSet :=
  if ! negated then some (settings.foldCase set)
  else if settings.unicode then
    some ((settings.foldCase set).complement CharacterSet.lastCode)
  else none

/-- The code of a letter. A letter written as a byte is one only without the flag `u`, and must be
ASCII then. -/
def Settings.code? (settings : Settings) (letter : Letter) : Option Nat :=
  if ! settings.unicode && letter.asByte && 127 < letter.value.toNat then none
  else some letter.value.toNat

def Settings.classCode? (settings : Settings) (letter : Letter) : Option Nat :=
  if ! settings.unicode && 127 < letter.value.toNat then none else some letter.value.toNat

def ShortClass.codes (unicode : Bool) : ShortClass → CharacterSet
  | .digit => if unicode then Text.Category.codes .decimalNumber else .ofRanges [(48, 57)]
  | .space => if unicode then Text.whiteSpace else .ofRanges [(9, 13), (32, 32)]
  | .word =>
      if unicode then Text.wordCharacters
      else .ofRanges [(48, 57), (65, 90), (95, 95), (97, 122)]

def SetOperation.apply (operation : SetOperation) (left right : CharacterSet) : CharacterSet :=
  match operation with
  | .intersection => left.intersection right
  | .difference => left.difference right
  | .symmetricDifference => left.symmetricDifference right

/-- The codes of the class that a property or one of its values names. -/
def propertyCodes? (name : List Char) : Option (List Char) → Option CharacterSet
  | some value => Text.valueCodes? name value
  | none => Text.namedCodes? name

mutual

def itemCodes? (settings : Settings) : ClassItem → Option CharacterSet
  | .range first last => do
      let first ← settings.classCode? first
      let last ← settings.classCode? last
      return .ofRanges [(first, last)]
  | .named negated ranges => settings.finish? negated (.ofRanges ranges)
  | .property negated name value =>
      if ! settings.unicode then none
      else do settings.finish? negated (← propertyCodes? name value)
  | .short negated kind =>
      let set := kind.codes settings.unicode
      if ! negated then some set
      else if settings.unicode then some (set.complement CharacterSet.lastCode)
      else none
  | .nested negated set => do settings.finish? negated (← setCodes? settings set)

def setCodes? (settings : Settings) : ClassSet → Option CharacterSet
  | .items items => do return .unionAll (← itemsCodes? settings items)
  | .joined operation left right => do
      let left ← setCodes? settings left
      let right ← setCodes? settings right
      return operation.apply (settings.foldCase left) (settings.foldCase right)

def itemsCodes? (settings : Settings) : List ClassItem → Option (List CharacterSet)
  | [] => some []
  | item :: rest => do return (← itemCodes? settings item) :: (← itemsCodes? settings rest)

end

/-! ## Expressions -/

def Settings.place (settings : Settings) : Assertion → Place
  | .lineStart =>
      if ! settings.multipleLines then .textStart
      else if settings.carriageReturns then .lineStartReturns
      else .lineStart
  | .lineEnd =>
      if ! settings.multipleLines then .textEnd
      else if settings.carriageReturns then .lineEndReturns
      else .lineEnd
  | .textStart => .textStart
  | .textEnd => .textEnd
  | .wordBoundary => .wordBoundary settings.unicode
  | .noWordBoundary => .noWordBoundary settings.unicode
  | .wordStart => .wordStart settings.unicode
  | .wordEnd => .wordEnd settings.unicode
  | .wordStartHalf => .wordStartHalf settings.unicode
  | .wordEndHalf => .wordEndHalf settings.unicode

def Settings.dot? (settings : Settings) : Option CharacterSet :=
  if ! settings.unicode then none
  else if settings.dotMatchesAll then some .all
  else if settings.carriageReturns then
    some (.ofRanges [(0, 9), (11, 12), (14, CharacterSet.lastCode)])
  else some (.ofRanges [(0, 9), (11, CharacterSet.lastCode)])

/-- What is to be repeated in an unbounded repetition of a pattern: repetitions in it that change
nothing are left out. -/
def loopBody : Pattern → Pattern
  | .marked inner => loopBody inner
  | .repeated 0 none inner => loopBody inner
  | .repeated 1 none inner => loopBody inner
  | .repeated 0 (some 1) inner => loopBody inner
  | pattern => pattern

mutual

/-- Whether a pattern matches at places only, no characters. -/
def isEmptyOnly : Pattern → Bool
  | .oneOf _ => false
  | .at _ => true
  | .sequence parts => areEmptyOnly parts
  | .choice branches => areEmptyOnly branches
  | .repeated _ most inner => most = some 0 || isEmptyOnly inner
  | .marked inner => isEmptyOnly inner

def areEmptyOnly : List Pattern → Bool
  | [] => true
  | part :: rest => isEmptyOnly part && areEmptyOnly rest

end

/-- A repetition; what matches no characters is repeated at most once. -/
def repetition (least : Nat) (most : Option Nat) (pattern : Pattern) : Pattern :=
  let (least, most) :=
    if isEmptyOnly pattern then (min least 1, some (min (most.getD 1) 1)) else (least, most)
  match least, most with
  | 0, some 0 => .sequence []
  | 1, some 1 => pattern
  | 0, none => .repeated 0 none (loopBody pattern)
  | least, most => .repeated least most pattern

mutual

/-- The pattern of an expression, and the flags that hold behind it. -/
def patternOf? (settings : Settings) : Expression → Option (Pattern × Settings)
  | .flags changes => some (.sequence [], settings.change changes)
  | .letter letter => do
      let code ← settings.code? letter
      return (.oneOf (settings.foldCase (.singleton code)), settings)
  | .dot => do return (.oneOf (← settings.dot?), settings)
  | .assertion kind => some (.at (settings.place kind), settings)
  | .oneOf item => do return (.oneOf (← itemCodes? settings item), settings)
  | .repeated least most inner => do
      let (pattern, after) ← patternOf? settings inner
      return (repetition least most pattern, after)
  | .group captures changes inner => do
      let (pattern, _) ← patternOf? (settings.change changes) inner
      return (if captures then .marked pattern else pattern, settings)
  | .sequence parts => do
      let (patterns, after) ← patternsOf? settings parts
      return (.sequence patterns, after)
  | .choice branches => do
      let (patterns, after) ← patternsOf? settings branches
      return (.choice patterns, after)

def patternsOf? (settings : Settings) : List Expression → Option (List Pattern × Settings)
  | [] => some ([], settings)
  | part :: rest => do
      let (pattern, between) ← patternOf? settings part
      let (patterns, after) ← patternsOf? between rest
      return (pattern :: patterns, after)

end

/-! ## Size

A pattern is unfolded into states that read one byte each. The measure of a pattern is the number
of bytes that they take. -/

/-- The size of a state, of a step to another one by a range of bytes, and of a plain step. -/
def stateSize : Nat := 32
def rangeSize : Nat := 8
def stepSize : Nat := 4

def maxSize : Nat := 10 * 1024 * 1024

def codeBytes (code : Nat) : List Nat :=
  if code < 0x80 then [code]
  else if code < 0x800 then [0xc0 + code / 64, 0x80 + code % 64]
  else if code < 0x10000 then [0xe0 + code / 4096, 0x80 + code / 64 % 64, 0x80 + code % 64]
  else [0xf0 + code / 262144, 0x80 + code / 4096 % 64, 0x80 + code / 64 % 64, 0x80 + code % 64]

def cutAt (bound : Nat) (range : Nat × Nat) : List (Nat × Nat) :=
  if range.1 < bound && bound ≤ range.2 then [(range.1, bound - 1), (bound, range.2)] else [range]

/-- Cut a range so that codes of a part that differ above their last `count` six-bit groups have all
values in those. -/
def cutAligned (count : Nat) (range : Nat × Nat) : List (Nat × Nat) :=
  let unit := Nat.pow 64 count
  if range.2 < 0x80 || range.1 / unit = range.2 / unit then [range]
  else
    let first := if range.1 % unit = 0 then range.1 else (range.1 / unit + 1) * unit
    let last := if range.2 % unit = unit - 1 then range.2 + 1 else range.2 / unit * unit
    ([(range.1, first - 1), (first, last - 1), (last, range.2)]).filter fun part => part.1 ≤ part.2

/-- The ranges of bytes, one behind the other, that a set of characters consists of. -/
def byteRanges (set : CharacterSet) : List (List (Nat × Nat)) :=
  let parts := set.ranges.flatMap fun range =>
    (((cutAt 0x80 range).flatMap (cutAt 0x800)).flatMap (cutAt 0xd800)).flatMap (cutAt 0xe000)
      |>.flatMap (cutAt 0x10000) |>.filter fun part => part.1 < 0xd800 || 0xe000 ≤ part.1
  let aligned := ((parts.flatMap (cutAligned 3)).flatMap (cutAligned 2)).flatMap (cutAligned 1)
  aligned.map fun part => List.zip (codeBytes part.1) (codeBytes part.2)

def beginnings (sequences : List (List (Nat × Nat))) : Nat :=
  (sequences.foldl (fun (found : Nat × List (Nat × Nat)) sequence =>
    let shared := (List.zip sequence found.2).takeWhile fun pair => pair.1 = pair.2
    (found.1 + (sequence.length - shared.length), sequence)) (0, [])).1

/-- The size of a set of characters. A single character is one state for each of its bytes, ASCII
ranges share one state, and other ranges share the states of equal beginnings. -/
def setSize (set : CharacterSet) : Nat :=
  match set.ranges with
  | [] => stateSize
  | [(first, last)] =>
      if first = last then stateSize * (codeBytes first).length
      else if last < 0x80 then 2 * stateSize + rangeSize
      else
        let sequences := byteRanges set
        stateSize * (beginnings sequences + 2) + stepSize * sequences.length
  | ranges =>
      if (ranges.all fun range => range.2 < 0x80) then 2 * stateSize + rangeSize * ranges.length
      else
        let sequences := byteRanges set
        stateSize * (beginnings sequences + 2) + stepSize * sequences.length

mutual

def size : Pattern → Nat
  | .oneOf set => setSize set
  | .at _ => stateSize
  | .sequence parts => sizes parts
  | .choice branches => sizes branches + 2 * stateSize + stepSize * branches.length
  | .repeated least most inner =>
      let once := size inner
      if once = 0 then 0
      else match most with
        | none => max 1 least * once + 2 * stateSize
        | some most => most * once + (most - least) * (stateSize + 2 * stepSize) + stateSize
  | .marked inner => size inner + 2 * stateSize

def sizes : List Pattern → Nat
  | [] => 0
  | part :: rest => size part + sizes rest

end

/-- The size of a pattern with what every pattern has: two states before it, so that it begins at
any place, two that mark what it matches, and one behind it. -/
def wholeSize (pattern : Pattern) : Nat := size pattern + 5 * stateSize + 2 * stepSize

/-- The pattern that a text stands for, if it is one. -/
def ofText? (text : String) : Option Pattern := do
  let (pattern, _) ← patternOf? .initial (← Expression.ofText? text.toList)
  if wholeSize pattern ≤ maxSize then return pattern else none

def escapedCharacter (character : Char) : List Char :=
  if metaCharacters.contains character then ['\\', character] else [character]

/-- The engine of these patterns. A text is escaped by backslashes before the characters that have a
meaning in patterns. -/
def engine : PatternEngine where
  compile? text := (ofText? text).map fun pattern name => pattern.occursIn name.toList
  escape text := String.ofList (text.toList.flatMap escapedCharacter)

end PackageSearch.Pattern
