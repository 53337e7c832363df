import PackageSearch.Json.Node

/-!
# Finding the results in an answer

An uplink's answer is a record whose member `objects` lists the results. The scanner takes the
answer byte by byte and gives each list item that is a record or a list as soon as its closing
bracket has come, without keeping the rest. It counts the open brackets and follows quotation marks
and escapes; the last text that stood directly in the root is the key of what follows.
-/

set_option autoImplicit false

namespace PackageSearch.Uplink

/-- What the scanner knows of the bytes so far. `key` and `element` hold their bytes last first:
the text being read directly in the root, and the list item being read. -/
structure Scanner where
  depth : Nat
  inText : Bool
  escaped : Bool
  root : Option UInt8
  key : Bytes
  lastKey : Bytes
  inObjects : Bool
  element : Bytes
  deriving DecidableEq

namespace Scanner

def start : Scanner := ⟨0, false, false, none, [], [], false, []⟩

/-- The bytes of the key whose list holds the results. -/
def objectsKey : Bytes := "objects".toUTF8.toList

def quotationMark : UInt8 := 0x22

def reverseSolidus : UInt8 := 0x5c

def isOpening (byte : UInt8) : Bool := byte = 0x7b || byte = 0x5b

def isClosing (byte : UInt8) : Bool := byte = 0x7d || byte = 0x5d

/-- Whether the bytes at this place belong to a list item. -/
def isCapturing (scanner : Scanner) : Bool :=
  scanner.inObjects && 3 ≤ scanner.depth

def capture (scanner : Scanner) (byte : UInt8) : Scanner :=
  { scanner with element := byte :: scanner.element }

/-- Take a byte of a text. At the end of a text directly in the root, that text is the last key. -/
def stepInText (scanner : Scanner) (byte : UInt8) : Scanner :=
  let kept :=
    if scanner.isCapturing then scanner.capture byte
    else if scanner.depth = 1 then { scanner with key := byte :: scanner.key }
    else scanner
  if kept.escaped then { kept with escaped := false }
  else if byte = reverseSolidus then { kept with escaped := true }
  else if byte = quotationMark then
    if kept.depth = 1 then
      { kept with inText := false, lastKey := (kept.key.drop 1).reverse, key := [] }
    else { kept with inText := false }
  else kept

def openText (scanner : Scanner) : Scanner :=
  let begun := { scanner with inText := true }
  if scanner.isCapturing then begun.capture quotationMark
  else if scanner.depth = 1 then { begun with key := [] }
  else begun

def openBracket (scanner : Scanner) (byte : UInt8) : Scanner :=
  { scanner with
    element :=
      if scanner.inObjects && 2 ≤ scanner.depth then byte :: scanner.element else scanner.element
    root := if scanner.depth = 0 ∧ scanner.root.isNone then some byte else scanner.root
    inObjects :=
      scanner.inObjects ||
        (byte = 0x5b && scanner.depth = 1 && scanner.lastKey = objectsKey)
    depth := scanner.depth + 1 }

/-- Take a closing bracket, which may complete a list item. -/
def closeBracket (scanner : Scanner) (byte : UInt8) : Scanner × Option Bytes :=
  let closed := { scanner with depth := scanner.depth - 1 }
  if closed.inObjects then
    if closed.depth = 2 then ({ closed with element := [] }, some (byte :: closed.element).reverse)
    else if 2 < closed.depth then (closed.capture byte, none)
    else ({ closed with inObjects := false }, none)
  else (closed, none)

/-- Take one byte; a list item that it completes is given. -/
def step (scanner : Scanner) (byte : UInt8) : Scanner × Option Bytes :=
  if scanner.inText then (scanner.stepInText byte, none)
  else if byte = quotationMark then (scanner.openText, none)
  else if isOpening byte then (scanner.openBracket byte, none)
  else if isClosing byte then scanner.closeBracket byte
  else if scanner.isCapturing then (scanner.capture byte, none)
  else (scanner, none)

/-- Take bytes in order; `found` holds the list items completed before, last first. -/
def feedAll (scanner : Scanner) (found : List Bytes) : Bytes → Scanner × List Bytes
  | [] => (scanner, found)
  | byte :: rest =>
      let (next, element) := scanner.step byte
      next.feedAll (element.toList ++ found) rest

/-- Take the next bytes of an answer; the list items they complete are given in order. -/
def feed (scanner : Scanner) (chunk : Bytes) : Scanner × List Bytes :=
  let (next, found) := scanner.feedAll [] chunk
  (next, found.reverse)

/-- Whether a root record was opened and everything is closed again. -/
def isComplete (scanner : Scanner) : Bool :=
  scanner.root = some 0x7b && scanner.depth = 0 && ! scanner.inText

end Scanner

end PackageSearch.Uplink
