import PackageSearch.Index.Expression
import PackageSearch.Text.Blank

/-!
# Reading query texts

`Expression.ofText` gives every text a meaning: what cannot be read is left out. Words stand
between blanks; a word or a phrase in quotes may name a field in front and a factor behind, and
plays a part by a sign or by an operator between two members. Every blank ends a word, but only the
ASCII spaces may stand between members: another blank ends what is read. Every reader takes the
characters that are left and gives what is left behind it.
-/

set_option autoImplicit false

namespace PackageSearch.Index

open Text (isBlank)

/-! ## Words -/

def isSpacing (character : Char) : Bool :=
  character = ' ' || character = '\t' || character = '\n' || character = '\r'

def skipSpacing (text : List Char) : List Char :=
  text.dropWhile isSpacing

/-- The characters that have no place in the name of a field unless escaped. -/
def reservedInField : List Char := "+^\x60:\x7b\x7d\"'[]()!\\* ".toList

def reservedInWord : List Char := "^\x60:\x7b\x7d\"'[]()\\".toList

def fieldSpan : List Char → List Char × List Char
  | [] => ([], [])
  | '\\' :: next :: rest =>
      if reservedInField.contains next then
        let (name, rest) := fieldSpan rest
        (next :: name, rest)
      else
        let (name, rest) := fieldSpan (next :: rest)
        ('\\' :: name, rest)
  | '\\' :: [] => (['\\'], [])
  | character :: rest =>
      if reservedInField.contains character then ([], character :: rest)
      else
        let (name, rest) := fieldSpan rest
        (character :: name, rest)

/-- Whether the name of a field can start so: not with a sign, and a backslash escapes. -/
def startsField : List Char → Bool
  | '\\' :: next :: _ => reservedInField.contains next
  | character :: _ => ! reservedInField.contains character && character != '-'
  | [] => false

def readField? (text : List Char) : Option (String × List Char) :=
  if startsField text then
    let (name, rest) := fieldSpan text
    match skipSpacing rest with
    | ':' :: rest => some (String.ofList name, skipSpacing rest)
    | _ => none
  else none

/-- A word with its escapes, up to a blank or one of the characters that stop it. -/
def wordSpan (stops : List Char) : List Char → List Char × List Char
  | [] => ([], [])
  | '\\' :: next :: rest =>
      let (word, rest) := wordSpan stops rest
      ('\\' :: next :: word, rest)
  | character :: rest =>
      if isBlank character || stops.contains character then ([], character :: rest)
      else
        let (word, rest) := wordSpan stops rest
        (character :: word, rest)

/-- A word without its escapes; a backslash stays where it escapes nothing. -/
def unescaped : List Char → List Char
  | '\\' :: next :: rest =>
      if isBlank next || next = '-' || reservedInWord.contains next then next :: unescaped rest
      else '\\' :: next :: unescaped rest
  | '\\' :: [] => []
  | character :: rest => character :: unescaped rest
  | [] => []

def readWord (stops : List Char) (text : List Char) : Option (List Char) × List Char :=
  let (word, rest) := wordSpan stops (skipSpacing text)
  if word.isEmpty then (none, text) else (some (unescaped word), rest)

def quotedSpan (quote : Char) : List Char → List Char × List Char
  | [] => ([], [])
  | '\\' :: next :: rest =>
      let (phrase, rest) := quotedSpan quote rest
      (next :: phrase, rest)
  | character :: rest =>
      if character = quote then ([], rest)
      else
        let (phrase, rest) := quotedSpan quote rest
        (character :: phrase, rest)

def readTerm (stops : List Char) (text : List Char) : Option (Quoting × List Char) × List Char :=
  match text with
  | '"' :: rest =>
      let (phrase, rest) := quotedSpan '"' rest
      (some (.double, phrase), rest)
  | '\'' :: rest =>
      let (phrase, rest) := quotedSpan '\'' rest
      (some (.single, phrase), rest)
  | text =>
      let (word, rest) := readWord stops text
      (word.map fun word => (.none, word), rest)

/-! ## Phrases, ranges and sets -/

def maxSlop : Nat := Nat.pow 2 32 - 1

/-- The mark behind a quoted phrase: a distance, or a star for an open end. -/
def readPhraseMark (text : List Char) : (Nat × Bool) × List Char :=
  match text with
  | '*' :: rest => ((0, true), rest)
  | '~' :: rest =>
      let (digits, after) := leadingDigits rest
      if digits.isEmpty || maxSlop < numeralValue digits then ((0, false), text)
      else ((numeralValue digits, false), after)
  | text => ((0, false), text)

def readPhrase (field : Option String) (text : List Char) : Option Leaf × List Char :=
  let (term, rest) := readTerm [')', '^'] text
  let ((slop, isOpen), rest) := readPhraseMark rest
  match term with
  | some (quoting, phrase) =>
      (some (.phrase field quoting (String.ofList phrase) slop isOpen), rest)
  | none => (if slop = 0 then none else some (.phrase field .none "" slop isOpen), rest)

def readSetMembers : Nat → List Char → List String × List Char
  | 0, text => ([], text)
  | fuel + 1, text =>
      match text with
      | [] => ([], [])
      | ']' :: rest => ([], rest)
      | text =>
          let (term, rest) := readTerm [']'] text
          let (members, rest) := readSetMembers fuel (skipSpacing rest)
          ((term.map fun term => String.ofList term.2).toList ++ members, rest)

def openedSet? (text : List Char) : Option (List Char) :=
  match text with
  | 'I' :: 'N' :: rest =>
      match skipSpacing rest with
      | '[' :: rest => some rest
      | _ => none
  | _ => none

def boundOf (isIncluded : Bool) : Option (List Char) → Bound String
  | none => .unbounded
  | some ['*'] => .unbounded
  | some word =>
      if isIncluded then .included (String.ofList word) else .excluded (String.ofList word)

def readHalfRange (field : Option String) (isLower isIncluded : Bool) (text : List Char) :
    Leaf × List Char :=
  let (word, rest) := readWord [')'] text
  let bound := boundOf isIncluded word
  (if isLower then .range field bound .unbounded else .range field .unbounded bound, rest)

def readTo (text : List Char) : Bool × List Char :=
  match text with
  | 'T' :: 'O' :: rest =>
      if rest.isEmpty || rest.head?.any isSpacing then (true, skipSpacing rest) else (false, text)
  | text => (false, text)

/-- A range with two ends, behind its bracket; without a bracket at its end that end belongs to
it. -/
def readFullRange (field : Option String) (isIncluded : Bool) (text : List Char) :
    Leaf × List Char :=
  let (lower, rest) := readWord [']', '\x7d'] text
  let (between, rest) := readTo (skipSpacing rest)
  let (upper, rest) := readWord [']', '\x7d'] rest
  let lower := if lower = some ['T', 'O'] && ! between then none else lower
  let (isUpperIncluded, rest) := match rest with
    | '\x7d' :: rest => (false, rest)
    | ']' :: rest => (true, rest)
    | rest => (true, rest)
  (.range field (boundOf isIncluded lower) (boundOf isUpperIncluded upper), rest)

def afterPattern : List Char → List Char
  | '\\' :: '/' :: rest => afterPattern rest
  | '/' :: rest => rest
  | _ :: rest => afterPattern rest
  | [] => []

/-- One thing to look for, perhaps in a field. Patterns are not looked for. -/
def readTarget (text : List Char) : Option Leaf × List Char :=
  let (field, rest) := match readField? text with
    | some (field, rest) => (some field, rest)
    | none => (none, skipSpacing text)
  match openedSet? rest with
  | some opened =>
      let (members, rest) := readSetMembers (opened.length + 1) opened
      (some (.set field members), rest)
  | none =>
      let taken := fun (found : Leaf × List Char) => (some found.1, found.2)
      match rest with
      | '>' :: '=' :: rest => taken (readHalfRange field true true rest)
      | '<' :: '=' :: rest => taken (readHalfRange field false true rest)
      | '>' :: rest => taken (readHalfRange field true false rest)
      | '<' :: rest => taken (readHalfRange field false false rest)
      | '[' :: rest => taken (readFullRange field true rest)
      | '\x7b' :: rest => taken (readFullRange field false rest)
      | '/' :: rest => (some .nothing, afterPattern rest)
      | rest => readPhrase field rest

/-! ## Members and groups -/

/-- An operator between two members. -/
inductive Operator where
  | and
  | or
  deriving DecidableEq

/-- A member as it is read: the operator and the sign before it. -/
structure Element where
  operator : Option Operator
  occurrence : Option Occurrence
  expression : Expression

def afterOperator? : List Char → Option (List Char)
  | [] => some []
  | ' ' :: rest => some (skipSpacing rest)
  | _ => none

def readOperator (text : List Char) : Option Operator × List Char :=
  match text with
  | 'A' :: 'N' :: 'D' :: rest =>
      match afterOperator? rest with
      | some rest => (some .and, rest)
      | none => (none, text)
  | 'O' :: 'R' :: rest =>
      match afterOperator? rest with
      | some rest => (some .or, rest)
      | none => (none, text)
  | text => (none, text)

def readSign (text : List Char) : Option Occurrence × List Char :=
  match text with
  | '-' :: rest => (some .mustNot, rest)
  | '+' :: rest => (some .must, rest)
  | text => (none, text)

def readFactor (text : List Char) : Option Factor × List Char :=
  match text with
  | '^' :: rest =>
      let (whole, rest) := leadingDigits rest
      if whole.isEmpty then (none, text)
      else match rest with
        | '.' :: after =>
            let (places, after) := leadingDigits after
            if places.isEmpty then (some ⟨numeralValue whole, 0⟩, rest)
            else (some ⟨numeralValue (whole ++ places), places.length⟩, after)
        | rest => (some ⟨numeralValue whole, 0⟩, rest)
  | text => (none, text)

/-- Whether a star stands alone: a blank, a reserved character or nothing follows. -/
def standsAlone (rest : List Char) : Bool :=
  rest.head?.all fun next => isSpacing next || reservedInWord.contains next

/-- The text behind a bracket that closes a group; the bracket may be missing. -/
def afterGroup (text : List Char) : List Char :=
  match skipSpacing text with
  | ')' :: rest => rest
  | _ => text

/-- The part a member plays when it has no sign, by the operators on both of its sides. -/
def defaultOccurrence : Option Operator → Option Operator → Option Occurrence
  | some .and, _ => some .must
  | some .or, some .and => some .must
  | some .or, _ => some .should
  | none, some .and => some .must
  | none, some .or => some .should
  | none, none => none

def joinedMembers : List Element → List (List Member)
  | [] => []
  | element :: rest =>
      let next := rest.head?.bind Element.operator
      let member := (element.occurrence <|> defaultOccurrence element.operator next,
        element.expression)
      match joinedMembers rest with
      | group :: groups =>
          if next = some .and then (member :: group) :: groups else [member] :: group :: groups
      | [] => [[member]]

def expressionOf : List Element → Expression
  | [] => .group []
  | [element] =>
      if element.occurrence = some .mustNot then .group [(some .mustNot, element.expression)]
      else element.expression
  | elements =>
      match joinedMembers elements with
      | [members] => .group members
      | groups => .group <| groups.map fun members =>
          match members with
          | [member] => member
          | members => (some .should, .group members)

/-- The elements of a group, up to where nothing more can be read. -/
def readElements : Nat → List Char → List Element × List Char
  | 0, text => ([], text)
  | fuel + 1, text =>
      let start := skipSpacing text
      let (operator, rest) := readOperator start
      let (occurrence, rest) := readSign rest
      let (expression, rest) := readLeaf fuel rest
      let (factor, rest) := readFactor rest
      if rest.length < start.length then
        let expression := match factor with
          | some factor => expression.map (Expression.boost factor)
          | none => expression
        let element := expression.map fun expression => ⟨operator, occurrence, expression⟩
        let (elements, rest) := readElements fuel rest
        (element.toList ++ elements, rest)
      else ([], text)
where
  /-- A group, a star, an exclusion, or one thing to look for. -/
  readLeaf : Nat → List Char → Option Expression × List Char
    | 0, text => (none, text)
    | fuel + 1, text =>
        let plain := fun (_ : Unit) =>
          let (leaf, rest) := readTarget text
          (leaf.map Expression.leaf, rest)
        match text with
        | '(' :: rest =>
            let (elements, rest) := readElements fuel rest
            (some (expressionOf elements), afterGroup rest)
        | '*' :: rest => if standsAlone rest then (some (.leaf .everything), rest) else plain ()
        | 'N' :: 'O' :: 'T' :: next :: rest =>
            if isSpacing next then
              let (expression, rest) := readLeaf fuel (skipSpacing rest)
              (expression.map fun expression => .group [(some .mustNot, expression)], rest)
            else plain ()
        | text =>
            match readField? text with
            | some (field, '(' :: rest) =>
                let (elements, rest) := readElements fuel rest
                (some ((expressionOf elements).inField field), afterGroup rest)
            | some (_, '*' :: rest) =>
                if standsAlone rest then (some (.leaf .nothing), rest) else plain ()
            | _ => plain ()

/-- The meaning of a query text. At most two steps are taken for each character. -/
def Expression.ofText (text : List Char) : Expression :=
  (expressionOf (readElements (2 * text.length + 2) text).1).simplify

end PackageSearch.Index
