import PackageSearch.Pattern.Expression
import PackageSearch.Text.Blank
import PackageSearch.Text.Property

/-!
# Reading patterns

The grammar of patterns: `Expression.ofText?` gives the tree of a text, or nothing when the text is
no pattern. Every reader takes the characters that are left and gives what is left behind it. With
the flag `x`, blanks and comments between the parts of a pattern are skipped.
-/

set_option autoImplicit false

namespace PackageSearch.Pattern

open Text (isBlank isAlphanumeric)

/-- The text behind blanks and comments; a comment runs from a number sign to the line's end. -/
def skipIgnored : Bool → List Char → List Char
  | _, [] => []
  | inComment, character :: rest =>
      if inComment then skipIgnored (character != '\n') rest
      else if isBlank character then skipIgnored false rest
      else if character = '#' then skipIgnored true rest
      else character :: rest

def skip (blanks : Bool) (text : List Char) : List Char :=
  if blanks then skipIgnored false text else text

/-! ## Numbers and escapes -/

def maxCount : Nat := Nat.pow 2 32 - 1

/-- The digits at the start of a text; with the flag for blanks, blanks may stand between them. -/
def countDigits (blanks : Bool) : Nat → List Char → List Char × List Char
  | 0, text => ([], text)
  | fuel + 1, text =>
      match text with
      | digit :: rest =>
          if digit.isDigit then
            let (digits, after) := countDigits blanks fuel (skip blanks rest)
            (digit :: digits, after)
          else ([], text)
      | [] => ([], [])

/-- A count between blanks: nothing if there are no digits, and no pattern if it is too large. -/
def readCount? (blanks : Bool) (text : List Char) : Option (Option Nat × List Char) :=
  let text := text.dropWhile isBlank
  let (digits, rest) := countDigits blanks (text.length + 1) text
  let value := digits.foldl (fun value digit => value * 10 + (digit.toNat - 48)) 0
  let rest := if blanks then skipIgnored false (rest.dropWhile isBlank) else rest.dropWhile isBlank
  if digits.isEmpty then some (none, rest)
  else if value ≤ maxCount then some (some value, rest)
  else none

def isHexDigit (character : Char) : Bool :=
  character.isDigit || ('a' ≤ character && character ≤ 'f') || ('A' ≤ character && character ≤ 'F')

def characterOf? (digits : List Char) : Option Char :=
  let code := Text.CharacterSet.hexNumber digits
  if h : code.isValidChar then some (Char.ofNatAux code h) else none

def readHexDigits? (blanks : Bool) : Nat → List Char → Option (List Char × List Char)
  | 0, text => some ([], text)
  | count + 1, text =>
      match text with
      | digit :: rest =>
          if isHexDigit digit then
            (readHexDigits? blanks count (skip blanks rest)).map fun found =>
              (digit :: found.1, found.2)
          else none
      | [] => none

def readHexBraces? (blanks : Bool) : Nat → List Char → Option (List Char × List Char)
  | 0, _ => none
  | fuel + 1, text =>
      match skip blanks text with
      | [] => none
      | character :: rest =>
          if character = '\x7d' then some ([], skip blanks rest)
          else if isHexDigit character then
            (readHexBraces? blanks fuel rest).map fun found => (character :: found.1, found.2)
          else none

/-- A character given by its code, behind the letter that tells how many digits it has. -/
def readCode? (blanks : Bool) (kind : Char) (text : List Char) : Option (Letter × List Char) :=
  match skip blanks text with
  | '\x7b' :: rest => do
      let (digits, rest) ← readHexBraces? blanks (rest.length + 1) rest
      if digits.isEmpty then none
      else return (⟨← characterOf? digits, false⟩, rest)
  | text => do
      let (digits, rest) ←
        readHexDigits? blanks (if kind = 'x' then 2 else if kind = 'u' then 4 else 8) text
      return (⟨← characterOf? digits, kind = 'x'⟩, rest)

def metaCharacters : List Char :=
  "\\.+*?()|[]\x7b\x7d^$#&-~".toList

def isEscapable (character : Char) : Bool :=
  metaCharacters.contains character ||
    (character.toNat < 128 && ! character.isAlphanum && character != '<' && character != '>')

def controlOf? (letter : Char) : Option Char :=
  [('a', '\x07'), ('f', '\x0c'), ('t', '\t'), ('n', '\n'), ('r', '\r'), ('v', '\x0b')].lookup letter

def shortClass? (letter : Char) : Option (Bool × ShortClass) :=
  [('d', (false, ShortClass.digit)), ('D', (true, .digit)), ('s', (false, .space)),
    ('S', (true, .space)), ('w', (false, .word)), ('W', (true, .word))].lookup letter

def plainAssertion? (letter : Char) : Option Assertion :=
  [('A', Assertion.textStart), ('z', .textEnd), ('B', .noWordBoundary), ('<', .wordStart),
    ('>', .wordEnd)].lookup letter

/-- What the name of a property in braces asks for: its negation, a name and perhaps a value. -/
def propertyItem (negated : Bool) (name : List Char) : ClassItem :=
  let rec cut (before : List Char) : List Char → Option (List Char × List Char)
    | '!' :: '=' :: after => some (before.reverse, after)
    | character :: rest => cut (character :: before) rest
    | [] => none
  match cut [] name with
  | some (name, value) => .property (! negated) name (some value)
  | none =>
      let divider := if name.contains ':' then ':' else '='
      if name.contains divider then
        .property negated (name.takeWhile (· != divider))
          (some ((name.dropWhile (· != divider)).drop 1))
      else .property negated name none

def readName? (blanks : Bool) : Nat → List Char → Option (List Char × List Char)
  | 0, _ => none
  | fuel + 1, text =>
      match skip blanks text with
      | [] => none
      | character :: rest =>
          if character = '\x7d' then some ([], rest)
          else (readName? blanks fuel rest).map fun found => (character :: found.1, found.2)

def readProperty? (blanks negated : Bool) (text : List Char) : Option (ClassItem × List Char) :=
  match skip blanks text with
  | [] => none
  | '\x7b' :: rest => do
      let (name, rest) ← readName? blanks (rest.length + 1) rest
      return (propertyItem negated name, rest)
  | '\\' :: _ => none
  | letter :: rest => some (.property negated [letter] none, skip blanks rest)

def boundaryName (blanks : Bool) : Nat → List Char → List Char × List Char
  | 0, text => ([], text)
  | fuel + 1, text =>
      match text with
      | character :: rest =>
          if character.isAlpha || character = '-' then
            let (name, after) := boundaryName blanks fuel (skip blanks rest)
            (character :: name, after)
          else ([], text)
      | [] => ([], [])

/-- A word boundary, which a name in braces may make a special one. -/
def readBoundary? (blanks : Bool) (text : List Char) : Option (Assertion × List Char) :=
  match text with
  | '\x7b' :: rest =>
      match skip blanks rest with
      | [] => none
      | first :: more =>
          if first.isAlpha || first = '-' then
            let (name, after) := boundaryName blanks (more.length + 2) (first :: more)
            match after with
            | '\x7d' :: after => do
                let kind ← [("start", Assertion.wordStart), ("end", .wordEnd),
                  ("start-half", .wordStartHalf), ("end-half", .wordEndHalf)].lookup
                    (String.ofList name)
                return (kind, after)
            | _ => none
          else some (.wordBoundary, text)
  | _ => some (.wordBoundary, text)

def readEscape? (blanks : Bool) : List Char → Option (Expression × List Char)
  | [] => none
  | letter :: rest =>
      if letter.isDigit then none
      else if letter = 'x' || letter = 'u' || letter = 'U' then do
        let (letter, rest) ← readCode? blanks letter rest
        return (.letter letter, rest)
      else if letter = 'p' || letter = 'P' then do
        let (item, rest) ← readProperty? blanks (letter = 'P') rest
        return (.oneOf item, rest)
      else if letter = 'b' then do
        let (kind, rest) ← readBoundary? blanks rest
        return (.assertion kind, rest)
      else match shortClass? letter, controlOf? letter, plainAssertion? letter with
        | some (negated, kind), _, _ => some (.oneOf (.short negated kind), rest)
        | _, some control, _ => some (.letter ⟨control, false⟩, rest)
        | _, _, some kind => some (.assertion kind, rest)
        | _, _, _ => if isEscapable letter then some (.letter ⟨letter, false⟩, rest) else none

/-! ## Bracketed classes -/

def namedClasses : List (String × List (Nat × Nat)) :=
  [("alnum", [(48, 57), (65, 90), (97, 122)]), ("alpha", [(65, 90), (97, 122)]),
    ("ascii", [(0, 127)]), ("blank", [(9, 9), (32, 32)]), ("cntrl", [(0, 31), (127, 127)]),
    ("digit", [(48, 57)]), ("graph", [(33, 126)]), ("lower", [(97, 122)]), ("print", [(32, 126)]),
    ("punct", [(33, 47), (58, 64), (91, 96), (123, 126)]),
    ("space", [(9, 13), (32, 32)]), ("upper", [(65, 90)]),
    ("word", [(48, 57), (65, 90), (95, 95), (97, 122)]),
    ("xdigit", [(48, 57), (65, 70), (97, 102)])]

def readNamed? (text : List Char) : Option (ClassItem × List Char) :=
  let (negated, text) := match text with
    | '^' :: rest => (true, rest)
    | _ => (false, text)
  let name := text.takeWhile (· != ':')
  match text.drop name.length with
  | ':' :: ']' :: rest =>
      (namedClasses.lookup (String.ofList name)).map fun ranges => (.named negated ranges, rest)
  | _ => none

def readClassPart? (blanks : Bool) : List Char → Option (Expression × List Char)
  | [] => none
  | '\\' :: rest => readEscape? blanks rest
  | character :: rest => some (.letter ⟨character, false⟩, rest)

/-- The character behind the first one that is not ignored. A comment hides only its first word. -/
def peek? (blanks : Bool) (text : List Char) : Option Char :=
  if blanks then
    match text.dropWhile isBlank with
    | '#' :: rest =>
        match rest.dropWhile isBlank with
        | character :: _ => some character
        | [] => text.head?
    | character :: _ => some character
    | [] => text.head?
  else text.head?

/-- An item of a class: one letter, one class, or a range. -/
def readItem? (blanks : Bool) (text : List Char) : Option (ClassItem × List Char) := do
  let (first, rest) ← readClassPart? blanks text
  let single := match first with
    | .letter letter => some (ClassItem.range letter letter)
    | .oneOf item => some item
    | _ => none
  match skip blanks rest with
  | [] => none
  | '-' :: after =>
      if peek? blanks after = some ']' || peek? blanks after = some '-' then
        return (← single, '-' :: after)
      else
        let (last, rest) ← readClassPart? blanks (skip blanks after)
        match first, last with
        | .letter low, .letter high =>
            if low.value ≤ high.value then return (.range low high, rest) else none
        | _, _ => none
  | rest => return (← single, rest)

/-- The hyphens at the start of a class, and a closing bracket right at its start. -/
def leadingItems (blanks : Bool) : Nat → List ClassItem → List Char → List ClassItem × List Char
  | 0, items, text => (items, text)
  | fuel + 1, items, text =>
      match text with
      | '-' :: rest =>
          leadingItems blanks fuel (items ++ [.range ⟨'-', false⟩ ⟨'-', false⟩]) (skip blanks rest)
      | ']' :: rest =>
          if items.isEmpty then ([.range ⟨']', false⟩ ⟨']', false⟩], skip blanks rest)
          else (items, text)
      | _ => (items, text)

def joinedWith (pending : Option (SetOperation × ClassSet)) (items : List ClassItem) : ClassSet :=
  match pending with
  | some (operation, left) => .joined operation left (.items items)
  | none => .items items

def operation? : List Char → Option (SetOperation × List Char)
  | '&' :: '&' :: rest => some (.intersection, rest)
  | '-' :: '-' :: rest => some (.difference, rest)
  | '~' :: '~' :: rest => some (.symmetricDifference, rest)
  | _ => none

/-- The rest of a class behind the given items; `pending` is the set before the last operation. -/
def readItems? (blanks : Bool) :
    Nat → Option (SetOperation × ClassSet) → List ClassItem → List Char →
      Option (ClassSet × List Char)
  | 0, _, _, _ => none
  | fuel + 1, pending, items, text =>
      let text := skip blanks text
      match operation? text with
      | some (operation, rest) =>
          readItems? blanks fuel (some (operation, joinedWith pending items)) [] rest
      | none =>
          match text with
          | [] => none
          | ']' :: rest => some (joinedWith pending items, rest)
          | '[' :: rest =>
              let named := match rest with
                | ':' :: name => readNamed? name
                | _ => none
              match named with
              | some (item, rest) => readItems? blanks fuel pending (items ++ [item]) rest
              | none => do
                  let opened := skip blanks rest
                  let (negated, opened) := match opened with
                    | '^' :: rest => (true, skip blanks rest)
                    | _ => (false, opened)
                  let (first, opened) := leadingItems blanks (opened.length + 1) [] opened
                  let (set, rest) ← readItems? blanks fuel none first opened
                  readItems? blanks fuel pending (items ++ [.nested negated set]) rest
          | text => do
              let (item, rest) ← readItem? blanks text
              readItems? blanks fuel pending (items ++ [item]) rest

def readClass? (blanks : Bool) (text : List Char) : Option (ClassItem × List Char) := do
  let opened := skip blanks text
  let (negated, opened) := match opened with
    | '^' :: rest => (true, skip blanks rest)
    | _ => (false, opened)
  let (first, opened) := leadingItems blanks (opened.length + 1) [] opened
  let (set, rest) ← readItems? blanks (opened.length + 1) none first opened
  return (.nested negated set, rest)

/-! ## Groups and repetitions -/

def flagOf? (letter : Char) : Option Flag :=
  [('i', Flag.ignoreCase), ('m', .multipleLines), ('s', .dotMatchesAll), ('U', .swapGreed),
    ('u', .unicode), ('R', .carriageReturns), ('x', .ignoreBlanks)].lookup letter

/-- Flags up to a colon or a closing parenthesis, which stays. Each flag stands once, and a minus
stands once and before a flag. -/
def readFlags? (negated : Bool) (dangling : Bool) (changes : FlagChanges) :
    List Char → Option (FlagChanges × List Char)
  | [] => none
  | character :: rest =>
      if character = ':' || character = ')' then
        if dangling then none else some (changes, character :: rest)
      else if character = '-' then
        if negated then none else readFlags? true true changes rest
      else match flagOf? character with
        | some flag =>
            if changes.any fun change => change.1 = flag then none
            else readFlags? negated false (changes ++ [(flag, ! negated)]) rest
        | none => none

def readGroupName? (text : List Char) : Option (List Char × List Char) :=
  let name := text.takeWhile (· != '>')
  let isFirst := fun (character : Char) =>
    character = '_' || Text.alphabetic.contains character.toNat
  let isLater := fun (character : Char) =>
    "_.[]".toList.contains character || isAlphanumeric character
  match text.drop name.length, name with
  | _ :: rest, first :: later =>
      if isFirst first && later.all isLater then some (name, rest) else none
  | _, _ => none

/-- How a parenthesis begins: a change of flags for the rest of the group around it, or a group. -/
inductive Opening where
  | change (changes : FlagChanges)
  | group (captures : Bool) (changes : FlagChanges) (name : Option (List Char))

def readOpening? (text : List Char) : Option (Opening × List Char) :=
  match text with
  | '?' :: 'P' :: '<' :: rest =>
      (readGroupName? rest).map fun found => (.group true [] (some found.1), found.2)
  | '?' :: '<' :: '=' :: _ => none
  | '?' :: '<' :: '!' :: _ => none
  | '?' :: '<' :: rest =>
      (readGroupName? rest).map fun found => (.group true [] (some found.1), found.2)
  | '?' :: rest =>
      match readFlags? false false [] rest with
      | some (changes, ')' :: rest) =>
          if changes.isEmpty then none else some (.change changes, rest)
      | some (changes, _ :: rest) => some (.group false changes none, rest)
      | _ => none
  | _ => some (.group true [] none, text)

def blanksAfter (blanks : Bool) (changes : FlagChanges) : Bool :=
  (changes.lookup .ignoreBlanks).getD blanks

def readBounds? (blanks : Bool) (text : List Char) : Option ((Nat × Option Nat) × List Char) :=
  match skip blanks text with
  | [] => none
  | text => do
      let (least, rest) ← readCount? blanks text
      match rest with
      | ',' :: rest =>
          let rest := skip blanks rest
          match rest with
          | '\x7d' :: rest => return ((← least, none), rest)
          | [] => none
          | rest =>
              let least ← least
              let (most, rest) ← readCount? blanks rest
              let most ← most
              match rest with
              | '\x7d' :: rest => if least ≤ most then return ((least, some most), rest) else none
              | _ => none
      | '\x7d' :: rest =>
          let count ← least
          return ((count, some count), rest)
      | _ => none

/-- Repeat the last part of a sequence given last first. -/
def repeatLast? (least : Nat) (most : Option Nat) : List Expression → Option (List Expression)
  | .flags _ :: _ => none
  | last :: before => some (.repeated least most last :: before)
  | [] => none

def sequenceOf (parts : List Expression) : Expression :=
  match parts with
  | [part] => part
  | parts => .sequence parts.reverse

def choiceOf (branches : List Expression) : Expression :=
  match branches with
  | [branch] => branch
  | branches => .choice branches.reverse

/-- What is left of a text while it is read, the flag for blanks, and the names of groups. -/
structure Reading where
  rest : List Char
  blanks : Bool
  names : List (List Char)

def dropLazyMark : List Char → List Char
  | '?' :: rest => rest
  | text => text

/-- The text up to the end of a group or of the pattern, behind given parts and branches. -/
def readChoice? : Nat → Reading → List Expression → List Expression →
    Option (Expression × Reading)
  | 0, _, _, _ => none
  | fuel + 1, reading, parts, branches =>
      let text := skip reading.blanks reading.rest
      let finished := choiceOf (sequenceOf parts :: branches)
      match text with
      | [] => some (finished, { reading with rest := [] })
      | ')' :: _ => some (finished, { reading with rest := text })
      | '|' :: rest =>
          readChoice? fuel { reading with rest } [] (sequenceOf parts :: branches)
      | '(' :: rest => do
          match ← readOpening? (skip reading.blanks rest) with
          | (.change changes, rest) =>
              readChoice? fuel
                { reading with rest, blanks := blanksAfter reading.blanks changes }
                (.flags changes :: parts) branches
          | (.group captures changes name, rest) =>
              if name.any reading.names.contains then none
              else
                let (inner, ended) ← readChoice? fuel
                  { rest, blanks := blanksAfter reading.blanks changes
                    names := name.toList ++ reading.names } [] []
                match ended.rest with
                | ')' :: rest =>
                    readChoice? fuel { ended with rest, blanks := reading.blanks }
                      (.group captures changes inner :: parts) branches
                | _ => none
      | '[' :: rest => do
          let (item, rest) ← readClass? reading.blanks rest
          readChoice? fuel { reading with rest } (.oneOf item :: parts) branches
      | '?' :: rest => do
          readChoice? fuel { reading with rest := dropLazyMark rest }
            (← repeatLast? 0 (some 1) parts) branches
      | '*' :: rest => do
          readChoice? fuel { reading with rest := dropLazyMark rest }
            (← repeatLast? 0 none parts) branches
      | '+' :: rest => do
          readChoice? fuel { reading with rest := dropLazyMark rest }
            (← repeatLast? 1 none parts) branches
      | '\x7b' :: rest => do
          let ((least, most), rest) ← readBounds? reading.blanks rest
          readChoice? fuel { reading with rest := dropLazyMark (skip reading.blanks rest) }
            (← repeatLast? least most parts) branches
      | '\\' :: rest => do
          let (part, rest) ← readEscape? reading.blanks rest
          readChoice? fuel { reading with rest } (part :: parts) branches
      | '.' :: rest => readChoice? fuel { reading with rest } (.dot :: parts) branches
      | '^' :: rest =>
          readChoice? fuel { reading with rest } (.assertion .lineStart :: parts) branches
      | '$' :: rest =>
          readChoice? fuel { reading with rest } (.assertion .lineEnd :: parts) branches
      | character :: rest =>
          readChoice? fuel { reading with rest } (.letter ⟨character, false⟩ :: parts) branches

def maxDepth : Nat := 250

/-- The tree of a pattern. Each step of the reader takes a character. -/
def Expression.ofText? (text : List Char) : Option Expression := do
  let (expression, reading) ← readChoice? (text.length + 1) ⟨text, false, []⟩ [] []
  if reading.rest.isEmpty && expression.depth ≤ maxDepth then return expression else none

end PackageSearch.Pattern
