import PackageSearch.Json.Value
import PackageSearch.Text.Utf8

/-!
# JSON text as a tree

Reading a text gives a tree that reaches up to the text's first break. A break is a place where
no continuation could be JSON text; the tree has nothing after it. Three properties of a value do
not break the text and matter only to one who reads that value: a number outside the range of
doubles, a text that is no sequence of Unicode characters, and too deep a nesting. So the order in
which a reader of the tree meets breaks, such values and values of a wrong type is the order of
the text.
-/

set_option autoImplicit false

namespace PackageSearch.Json

/-- Why a document does not give a value: its text ends early, its text is not JSON, or a value in
it does not have the wanted type. -/
inductive Fault where
  | ended
  | malformed
  | mismatched
  deriving DecidableEq, Inhabited

/-- A place where the text stops to be JSON: the fault found by one who reads the value there, and
by one who skips it. They differ for a number cut off by the end of the text, and for a text with a
lone surrogate before the break, which only a reader minds. -/
structure Break where
  read : Fault
  skipped : Fault
  deriving DecidableEq

def Fault.break (fault : Fault) : Break := ⟨fault, fault⟩

/-- The tree of a text up to its first break. The ending of a list or record is the break in it,
or nothing when it is closed. -/
inductive Node where
  | null
  | boolean (value : Bool)
  | number (value : Except Fault Number)
  | text (value : Except Fault String)
  | list (items : List Node) (ending : Option Break)
  | record (members : List (Except Fault String × Node)) (ending : Option Break)
  | broken (place : Break)
  deriving Inhabited

def Node.break? : Node → Option Break
  | .list _ ending => ending
  | .record _ ending => ending
  | .broken place => some place
  | _ => none

def isSpace (byte : UInt8) : Bool :=
  byte = 0x20 || byte = 0x0a || byte = 0x09 || byte = 0x0d

def skipSpaces (text : Bytes) : Bytes :=
  text.dropWhile isSpace

def isDigitByte (byte : UInt8) : Bool :=
  0x30 ≤ byte && byte ≤ 0x39

def expectWord : Bytes → Bytes → Except Fault Bytes
  | [], text => .ok text
  | _ :: _, [] => .error .ended
  | expected :: word, byte :: text =>
      if byte = expected then expectWord word text else .error .malformed

/-! ## Numbers -/

/-- The parts of a number's text. -/
structure Numeral where
  negative : Bool
  whole : Bytes
  fraction : Bytes
  exponent : Option (Bool × Bytes)

def digitRun (text : Bytes) : Except Break (Bytes × Bytes) :=
  match text.takeWhile isDigitByte with
  | [] => .error (if text.isEmpty then ⟨.ended, .malformed⟩ else Fault.malformed.break)
  | run => .ok (run, text.dropWhile isDigitByte)

/-- The digits before the point: a zero alone, or a run that does not start with one. -/
def wholeRun (text : Bytes) : Except Break (Bytes × Bytes) := do
  let (run, rest) ← digitRun text
  match run with
  | 0x30 :: _ :: _ => .error Fault.malformed.break
  | run => .ok (run, rest)

def fractionRun : Bytes → Except Break (Bytes × Bytes)
  | 0x2e :: rest => digitRun rest
  | text => .ok ([], text)

/-- The sign and digits of an exponent, if there is one. -/
def exponentRun : Bytes → Except Break (Option (Bool × Bytes) × Bytes)
  | [] => .ok (none, [])
  | mark :: rest =>
      if mark = 0x65 ∨ mark = 0x45 then do
        let (negative, rest) := match rest with
          | 0x2b :: rest => (false, rest)
          | 0x2d :: rest => (true, rest)
          | rest => (false, rest)
        let (run, rest) ← digitRun rest
        .ok (some (negative, run), rest)
      else .ok (none, mark :: rest)

def readNumeral (text : Bytes) : Except Break (Numeral × Bytes) := do
  let (negative, text) := match text with
    | 0x2d :: rest => (true, rest)
    | text => (false, text)
  let (whole, text) ← wholeRun text
  let (fraction, text) ← fractionRun text
  let (exponent, text) ← exponentRun text
  .ok (⟨negative, whole, fraction, exponent⟩, text)

def maxUnsigned : Nat := Nat.pow 2 64 - 1

/-- Digits taken while the value fits 64 bits, and how many are left over. -/
def significandOf : Nat → Bytes → Nat × Nat
  | value, [] => (value, 0)
  | value, digit :: rest =>
      let next := 10 * value + (digit.toNat - 0x30)
      if next ≤ maxUnsigned then significandOf next rest else (value, rest.length + 1)

def exponentValue (digits : Bytes) : Nat :=
  digits.foldl (fun value digit => 10 * value + (digit.toNat - 0x30)) 0

/-- Scale by a power of ten: one multiplication or division by a rounded power of at most 308,
after divisions by that power for smaller exponents. Too large a value is no double. -/
def scaleByTen : Nat → Binary64 → Int → Except Fault Binary64
  | 0, value, _ => .ok value
  | fuel + 1, value, exponent =>
      if exponent.natAbs ≤ 308 then
        if 0 ≤ exponent then
          let scaled := value.times (Binary64.powerOfTen exponent.natAbs)
          if scaled.isFinite then .ok scaled else .error .malformed
        else .ok (value.dividedBy (Binary64.powerOfTen exponent.natAbs))
      else if value = Binary64.zero then .ok value
      else if 0 ≤ exponent then .error .malformed
      else scaleByTen fuel (value.dividedBy (Binary64.powerOfTen 308)) (exponent + 308)

def realOf (negative : Bool) (significand : Nat) (exponent : Int) : Except Fault Number := do
  let value ← scaleByTen (exponent.natAbs / 308 + 1) (Binary64.ofNat significand) exponent
  .ok (.real (if negative then value.negated else value))

/-- The largest power of ten that is counted; one beyond decides the value by itself. -/
def maxExponent : Nat := Nat.pow 2 31 - 1

/-- The value of a number: an integer where the text has neither point nor exponent and the value
fits, a double otherwise. Of a double's digits those count that fit 64 bits. -/
def Numeral.value (numeral : Numeral) : Except Fault Number :=
  let (significand, beyond) := significandOf 0 numeral.whole
  if numeral.fraction.isEmpty ∧ numeral.exponent.isNone ∧ beyond = 0 ∧
      (! numeral.negative ∨ (0 < significand ∧ significand ≤ Nat.pow 2 63)) then
    .ok (.integer (if numeral.negative then -(significand : Int) else significand))
  else
    let (significand, unused) := significandOf significand numeral.fraction
    let places : Int := (beyond : Int) - (numeral.fraction.length - unused : Nat)
    match numeral.exponent with
    | none => realOf numeral.negative significand places
    | some (negative, digits) =>
        let exponent := exponentValue digits
        if maxExponent < exponent then
          if significand = 0 ∨ negative then
            .ok (.real (Binary64.ofBits numeral.negative 0))
          else .error .malformed
        else
          realOf numeral.negative significand
            (if negative then places - exponent else places + exponent)

/-! ## Texts -/

def hexValue? (byte : UInt8) : Option Nat :=
  if isDigitByte byte then some (byte.toNat - 0x30)
  else if 0x61 ≤ byte && byte ≤ 0x66 then some (byte.toNat - 0x61 + 10)
  else if 0x41 ≤ byte && byte ≤ 0x46 then some (byte.toNat - 0x41 + 10)
  else none

def hexUnit : Bytes → Except Fault (Nat × Bytes)
  | first :: second :: third :: fourth :: rest =>
      match hexValue? first, hexValue? second, hexValue? third, hexValue? fourth with
      | some a, some b, some c, some d => .ok (((a * 16 + b) * 16 + c) * 16 + d, rest)
      | _, _, _, _ => .error .malformed
  | _ => .error .ended

/-- What stands in a text: bytes as they are, and units of UTF-16 given by number. -/
inductive Piece where
  | byte (value : UInt8)
  | unit (value : Nat)

def escapeByte? (letter : UInt8) : Option UInt8 :=
  if letter = 0x22 ∨ letter = 0x5c ∨ letter = 0x2f then some letter
  else if letter = 0x62 then some 0x08
  else if letter = 0x66 then some 0x0c
  else if letter = 0x6e then some 0x0a
  else if letter = 0x72 then some 0x0d
  else if letter = 0x74 then some 0x09
  else none

def isHighSurrogate (value : Nat) : Bool :=
  0xd800 ≤ value && value < 0xdc00

def isLowSurrogate (value : Nat) : Bool :=
  0xdc00 ≤ value && value < 0xe000

def characterBytes (code : Nat) : Bytes :=
  (Char.ofNat code).toString.toUTF8.toList

/-- The bytes of the pieces, given last first, before the given bytes. Surrogates must stand in
pairs. -/
def pieceBytes? : List Piece → Bytes → Option Bytes
  | [], bytes => some bytes
  | .byte value :: rest, bytes => pieceBytes? rest (value :: bytes)
  | .unit low :: .unit high :: rest, bytes =>
      if isLowSurrogate low then
        if isHighSurrogate high then
          pieceBytes? rest
            (characterBytes (0x10000 + (high - 0xd800) * 0x400 + (low - 0xdc00)) ++ bytes)
        else none
      else if isHighSurrogate low then none
      else pieceBytes? (.unit high :: rest) (characterBytes low ++ bytes)
  | .unit value :: rest, bytes =>
      if isLowSurrogate value || isHighSurrogate value then none
      else pieceBytes? rest (characterBytes value ++ bytes)

/-- The text of the pieces, given last first, if it is one. -/
def textOf (pieces : List Piece) : Except Fault String :=
  match (pieceBytes? pieces []).bind Text.utf8? with
  | some text => .ok text
  | none => .error .malformed

/-- A text that breaks after the given pieces. One who reads it has met a surrogate without its
partner before; only of the last piece the partner may be missing because of the break. -/
def textBreak (fault : Fault) (pieces : List Piece) : Break :=
  let settled := match pieces with
    | .unit value :: rest => if isHighSurrogate value then rest else pieces
    | _ => pieces
  if (pieceBytes? settled []).isSome then fault.break else ⟨.malformed, fault⟩

/-- The pieces of a text up to its closing quotation mark, last first, and what follows. -/
def readPieces : Nat → List Piece → Bytes → Except Break (List Piece × Bytes)
  | 0, pieces, _ => .error (textBreak .ended pieces)
  | _ + 1, pieces, [] => .error (textBreak .ended pieces)
  | fuel + 1, pieces, byte :: rest =>
      if byte = 0x22 then .ok (pieces, rest)
      else if byte = 0x5c then
        match rest with
        | [] => .error (textBreak .ended pieces)
        | letter :: rest =>
            if letter = 0x75 then
              match hexUnit rest with
              | .ok (value, rest) => readPieces fuel (.unit value :: pieces) rest
              | .error fault => .error (textBreak fault pieces)
            else match escapeByte? letter with
              | some value => readPieces fuel (.byte value :: pieces) rest
              | none => .error (textBreak .malformed pieces)
      else if byte < 0x20 then .error (textBreak .malformed pieces)
      else readPieces fuel (.byte byte :: pieces) rest

/-- The text behind an opening quotation mark, and what follows. -/
def readText (text : Bytes) : Except Break (Except Fault String × Bytes) := do
  let (pieces, rest) ← readPieces (text.length + 1) [] text
  .ok (textOf pieces, rest)

/-! ## Trees -/

def readWord (word : Bytes) (value : Node) (text : Bytes) : Node × Bytes :=
  match expectWord word text with
  | .ok rest => (value, rest)
  | .error fault => (.broken fault.break, [])

mutual

/-- The tree at the start of a text, and the text behind it. -/
def readNode : Nat → Bytes → Node × Bytes
  | 0, _ => (.broken Fault.ended.break, [])
  | fuel + 1, text =>
      match skipSpaces text with
      | [] => (.broken Fault.ended.break, [])
      | byte :: rest =>
          if byte = 0x6e then readWord [0x75, 0x6c, 0x6c] .null rest
          else if byte = 0x74 then readWord [0x72, 0x75, 0x65] (.boolean true) rest
          else if byte = 0x66 then readWord [0x61, 0x6c, 0x73, 0x65] (.boolean false) rest
          else if byte = 0x2d ∨ isDigitByte byte then
            match readNumeral (byte :: rest) with
            | .ok (numeral, rest) => (.number numeral.value, rest)
            | .error place => (.broken place, [])
          else if byte = 0x22 then
            match readText rest with
            | .ok (value, rest) => (.text value, rest)
            | .error place => (.broken place, [])
          else if byte = 0x5b then
            let (items, ending, rest) := readItems fuel true rest
            (.list items ending, rest)
          else if byte = 0x7b then
            let (members, ending, rest) := readMembers fuel true rest
            (.record members ending, rest)
          else (.broken Fault.malformed.break, [])

def readItems : Nat → Bool → Bytes → List Node × Option Break × Bytes
  | 0, _, _ => ([], some Fault.ended.break, [])
  | fuel + 1, first, text =>
      match skipSpaces text with
      | [] => ([], some Fault.ended.break, [])
      | byte :: rest =>
          if byte = 0x5d then ([], none, rest)
          else if first || byte = 0x2c then
            let (item, rest) := readNode fuel (if first then byte :: rest else rest)
            match item.break? with
            | some place => ([item], some place, [])
            | none =>
                let (items, ending, rest) := readItems fuel false rest
                (item :: items, ending, rest)
          else ([], some Fault.malformed.break, [])

def readMembers : Nat → Bool → Bytes → List (Except Fault String × Node) × Option Break × Bytes
  | 0, _, _ => ([], some Fault.ended.break, [])
  | fuel + 1, first, text =>
      match skipSpaces text with
      | [] => ([], some Fault.ended.break, [])
      | byte :: rest =>
          if byte = 0x7d then ([], none, rest)
          else if first || byte = 0x2c then
            match skipSpaces (if first then byte :: rest else rest) with
            | [] => ([], some Fault.ended.break, [])
            | 0x22 :: rest =>
                match readText rest with
                | .error place => ([], some place, [])
                | .ok (key, rest) =>
                    match skipSpaces rest with
                    | 0x3a :: rest =>
                        let (value, rest) := readNode fuel rest
                        match value.break? with
                        | some place => ([(key, value)], some place, [])
                        | none =>
                            let (members, ending, rest) := readMembers fuel false rest
                            ((key, value) :: members, ending, rest)
                    | [] => ([(key, .broken Fault.ended.break)], some Fault.ended.break, [])
                    | _ => ([(key, .broken Fault.malformed.break)], some Fault.malformed.break, [])
            | _ => ([], some Fault.malformed.break, [])
          else ([], some Fault.malformed.break, [])

end

/-- A document: the tree of its text, and whether more than blanks follows it. -/
structure Document where
  root : Node
  trailing : Bool

/-- Read a text as a document. Each step of the reader takes a byte or steps down to a part of
the text, so twice the length bounds the steps. -/
def Document.ofBytes (text : Bytes) : Document :=
  let (root, rest) := readNode (2 * text.length + 2) text
  { root, trailing := ! (skipSpaces rest).isEmpty }

end PackageSearch.Json
