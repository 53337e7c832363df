import PackageSearch.Toml.Scalar

/-!
# Quoted texts of TOML

A text stands in double quotes with escapes or in single quotes as it is, on one line or, in three
quotes, on several. Every reader takes what follows the opening quotes.
-/

set_option autoImplicit false

namespace PackageSearch.Toml

def isPrintable (character : Char) : Bool :=
  character = '\t' || (0x20 ≤ character.toNat && character.toNat ≠ 0x7f)

def isBlank (character : Char) : Bool :=
  character = ' ' || character = '\t'

def skipBlanks (text : List Char) : List Char :=
  text.dropWhile isBlank

def afterNewline? : List Char → Option (List Char)
  | '\n' :: rest => some rest
  | '\r' :: '\n' :: rest => some rest
  | _ => none

def codePoint? (count : Nat) (text : List Char) : Option (Char × List Char) := do
  let digits := text.take count
  if digits.length = count then
    let code ← based? 16 (digits.filter (· != '_'))
    if h : code.isValidChar ∧ '_' ∉ digits then some (Char.ofNatAux code h.1, text.drop count)
    else none
  else none

/-- The character that an escape stands for, behind its backslash. -/
def readEscape? : List Char → Option (Char × List Char)
  | 'b' :: rest => some ('\x08', rest)
  | 't' :: rest => some ('\t', rest)
  | 'n' :: rest => some ('\n', rest)
  | 'f' :: rest => some ('\x0c', rest)
  | 'r' :: rest => some ('\r', rest)
  | 'e' :: rest => some ('\x1b', rest)
  | '"' :: rest => some ('"', rest)
  | '\\' :: rest => some ('\\', rest)
  | 'x' :: rest => codePoint? 2 rest
  | 'u' :: rest => codePoint? 4 rest
  | 'U' :: rest => codePoint? 8 rest
  | _ => none

def readLine? (hasEscapes : Bool) (quote : Char) : Nat → List Char → Option (List Char × List Char)
  | 0, _ => none
  | fuel + 1, text =>
      match text with
      | [] => none
      | character :: rest =>
          if character = quote then some ([], rest)
          else if hasEscapes && character = '\\' then do
            let (escaped, rest) ← readEscape? rest
            let (found, rest) ← readLine? hasEscapes quote fuel rest
            some (escaped :: found, rest)
          else if isPrintable character then do
            let (found, rest) ← readLine? hasEscapes quote fuel rest
            some (character :: found, rest)
          else none

def afterContinuation? (text : List Char) : Option (List Char) :=
  (afterNewline? (skipBlanks text)).map fun rest =>
    rest.dropWhile fun character => isBlank character || character = '\n' || character = '\r'

/-- A text on several lines, up to three closing quotes; one or two more belong to the text. -/
def readLines? (hasEscapes : Bool) (quote : Char) : Nat → List Char → Option (List Char × List Char)
  | 0, _ => none
  | fuel + 1, text =>
      match text with
      | [] => none
      | '\r' :: '\n' :: rest => do
          let (found, rest) ← readLines? hasEscapes quote fuel rest
          some ('\r' :: '\n' :: found, rest)
      | character :: rest =>
          if character = quote then
            let quotes := text.takeWhile (· = quote)
            let after := text.dropWhile (· = quote)
            if quotes.length < 3 then do
              let (found, rest) ← readLines? hasEscapes quote fuel after
              some (quotes ++ found, rest)
            else if quotes.length ≤ 5 then some (quotes.drop 3, after)
            else none
          else if hasEscapes && character = '\\' then
            match afterContinuation? rest with
            | some rest => readLines? hasEscapes quote fuel rest
            | none => do
                let (escaped, rest) ← readEscape? rest
                let (found, rest) ← readLines? hasEscapes quote fuel rest
                some (escaped :: found, rest)
          else if character = '\n' || isPrintable character then do
            let (found, rest) ← readLines? hasEscapes quote fuel rest
            some (character :: found, rest)
          else none

/-- A text in one pair of quotes. Each step takes a character. -/
def readSingle? (text : List Char) : Option (String × List Char) :=
  match text with
  | '"' :: rest =>
      (readLine? true '"' (rest.length + 1) rest).map fun found => (String.ofList found.1, found.2)
  | '\'' :: rest =>
      (readLine? false '\'' (rest.length + 1) rest).map fun found =>
        (String.ofList found.1, found.2)
  | _ => none

/-- A text in quotes; a line end right behind three quotes does not belong to it. -/
def readQuoted? (text : List Char) : Option (String × List Char) :=
  let lines := fun (hasEscapes : Bool) (quote : Char) (rest : List Char) =>
    let rest := (afterNewline? rest).getD rest
    (readLines? hasEscapes quote (rest.length + 1) rest).map fun found =>
      (String.ofList found.1, found.2)
  match text with
  | '"' :: '"' :: '"' :: rest => lines true '"' rest
  | '\'' :: '\'' :: '\'' :: rest => lines false '\'' rest
  | text => readSingle? text

end PackageSearch.Toml
