import PackageSearch.Toml.Quoted

/-!
# TOML documents

`Toml.ofText?` reads a document as a table, or finds that the text is none. A document is a sequence
of lines: headers that open a table, and keys with their values. Every reader takes the characters
that are left and gives what is left behind it.
-/

set_option autoImplicit false

namespace PackageSearch.Toml

/-! ## Keys and gaps -/

def skipComment? (text : List Char) : Option (List Char) :=
  match text with
  | '#' :: rest =>
      let rest := rest.dropWhile isPrintable
      if rest.isEmpty || (afterNewline? rest).isSome then some rest else none
  | text => some text

def skipGap? : Nat → List Char → Option (List Char)
  | 0, _ => none
  | fuel + 1, text => do
      let rest ← skipComment? (skipBlanks text)
      match afterNewline? rest with
      | some rest => skipGap? fuel rest
      | none => some rest

/-- What follows blanks, line ends and comments; each turn takes a line end. -/
def afterGap? (text : List Char) : Option (List Char) :=
  skipGap? (text.length + 1) text

def isBareCharacter (character : Char) : Bool :=
  character.isAlphanum || character = '_' || character = '-'

def readKeyPart? (text : List Char) : Option (String × List Char) :=
  match text with
  | '"' :: _ => readSingle? text
  | '\'' :: _ => readSingle? text
  | text =>
      let name := text.takeWhile isBareCharacter
      if name.isEmpty then none else some (String.ofList name, text.drop name.length)

/-- A key with its dots: the path to its table, and its last part. -/
def readKey? : Nat → List Char → Option ((List String × String) × List Char)
  | 0, _ => none
  | fuel + 1, text => do
      let (part, rest) ← readKeyPart? (skipBlanks text)
      match skipBlanks rest with
      | '.' :: rest =>
          let ((path, last), rest) ← readKey? fuel rest
          some ((part :: path, last), rest)
      | rest => some (([], part), rest)

/-! ## Values -/

def maxLevels : Nat := 80

mutual

/-- A value inside at most so many lists and inline tables. -/
def readValue? : Nat → Nat → List Char → Option (Value × List Char)
  | 0, _, _ => none
  | fuel + 1, levels, text =>
      match text with
      | '"' :: _ => (readQuoted? text).map fun found => (.text found.1, found.2)
      | '\'' :: _ => (readQuoted? text).map fun found => (.text found.1, found.2)
      | '[' :: rest =>
          match levels with
          | 0 => none
          | levels + 1 => (readItems? fuel levels rest).map fun found => (.list found.1, found.2)
      | '\x7b' :: rest =>
          match levels with
          | 0 => none
          | levels + 1 =>
              (readMembers? fuel levels .empty rest).map fun found => (found.1.toValue, found.2)
      | text => readScalar? text

def readItems? : Nat → Nat → List Char → Option (List Value × List Char)
  | 0, _, _ => none
  | fuel + 1, levels, text => do
      match ← afterGap? text with
      | ']' :: rest => some ([], rest)
      | text =>
          let (item, rest) ← readValue? fuel levels text
          match ← afterGap? rest with
          | ',' :: rest =>
              let (items, rest) ← readItems? fuel levels rest
              some (item :: items, rest)
          | ']' :: rest => some ([item], rest)
          | _ => none

/-- The members of an inline table up to its brace, behind those already read. -/
def readMembers? : Nat → Nat → Table → List Char → Option (Table × List Char)
  | 0, _, _, _ => none
  | fuel + 1, levels, table, text => do
      match ← afterGap? text with
      | '\x7d' :: rest => some (table, rest)
      | text =>
          let ((path, key), rest) ← readKey? (text.length + 1) text
          match rest with
          | '=' :: rest =>
              let (value, rest) ← readValue? fuel levels (skipBlanks rest)
              let table ← table.assign path key value
              match ← afterGap? rest with
              | ',' :: rest => readMembers? fuel levels table rest
              | '\x7d' :: rest => some (table, rest)
              | _ => none
          | _ => none

end

/-! ## Lines -/

def afterLine? (text : List Char) : Option (List Char) := do
  let rest ← skipComment? (skipBlanks text)
  if rest.isEmpty then some [] else afterNewline? rest

/-- What is left of a document, the tables read so far, and the path of the last header. -/
structure Reading where
  rest : List Char
  table : Table
  path : List String

def readAssignment? (reading : Reading) (text : List Char) : Option Reading := do
  let ((path, key), rest) ← readKey? (text.length + 1) text
  match rest with
  | '=' :: rest =>
      let (value, rest) ← readValue? (rest.length + 1) maxLevels (skipBlanks rest)
      let table ← reading.table.change false (Table.assign path key value) reading.path
      some { reading with rest := ← afterLine? rest, table }
  | _ => none

def readLineOf? (reading : Reading) : Option Reading :=
  match skipBlanks reading.rest with
  | '[' :: '[' :: rest => do
      let ((path, key), rest) ← readKey? (rest.length + 1) rest
      match rest with
      | ']' :: ']' :: rest =>
          some ⟨← afterLine? rest, ← reading.table.appendTable path key, path ++ [key]⟩
      | _ => none
  | '[' :: rest => do
      let ((path, key), rest) ← readKey? (rest.length + 1) rest
      match rest with
      | ']' :: rest =>
          some ⟨← afterLine? rest, ← reading.table.openTable path key, path ++ [key]⟩
      | _ => none
  | text =>
      match afterLine? text with
      | some rest => some { reading with rest }
      | none => readAssignment? reading text

def readLines : Nat → Reading → Option Table
  | 0, _ => none
  | fuel + 1, reading =>
      if reading.rest.isEmpty then some reading.table
      else (readLineOf? reading).bind (readLines fuel)

def withoutMark : List Char → List Char
  | '\ufeff' :: rest => rest
  | text => text

/-- The table of a document. Each line takes a character. -/
def ofText? (text : String) : Option Value :=
  let text := withoutMark text.toList
  (readLines (text.length + 1) ⟨text, .empty, []⟩).map Table.toValue

end PackageSearch.Toml
