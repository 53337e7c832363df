import PackageSearch.Text.Blank
import PackageSearch.Number.Numeral
import PackageSearch.Uplink.Form

/-!
# Addresses of uplinks

The parts of an `http` or `https` address that matter for a request: the authority, the path
without dot segments, and the query, percent-encoded where needed. Tabs and line breaks do not
count, a reverse solidus stands for a slash, and a fragment is cut off.
-/

set_option autoImplicit false

namespace PackageSearch.Uplink

/-- Where a request goes and what it asks for. -/
structure Target where
  secure : Bool
  userInfo : Option (List Char)
  host : List Char
  portNumber : Nat
  path : List Char
  query : Option (List Char)
  deriving DecidableEq

namespace Target

/-- Control characters and the blank, which do not count at either end of an address. -/
def isOuterBlank (character : Char) : Bool := character.toNat ≤ 0x20

/-- Tabs and line breaks, which do not count anywhere. -/
def isDropped (character : Char) : Bool :=
  character = '\t' || character = '\n' || character = '\r'

def cleaned (text : List Char) : List Char :=
  (((text.dropWhile isOuterBlank).reverse.dropWhile isOuterBlank).reverse).filter
    fun character => ! isDropped character

def isSlash (character : Char) : Bool := character = '/' || character = '\\'

def endsPath (character : Char) : Bool := character = '?' || character = '#'

def isPathSafe (byte : UInt8) : Bool :=
  0x21 ≤ byte && byte < 0x7f &&
    ! ("\"#<>?`\x7b\x7d".toUTF8.toList.contains byte)

def isQuerySafe (byte : UInt8) : Bool :=
  0x21 ≤ byte && byte < 0x7f && ! ("\"#<>'".toUTF8.toList.contains byte)

def encoded (safe : UInt8 → Bool) (text : List Char) : List Char :=
  percentEncode safe (String.ofList text).toUTF8.toList

/-- A segment with its encoded periods decoded, to recognise dot segments. -/
def plainDots : List Char → List Char
  | '%' :: '2' :: mark :: rest =>
      if mark = 'e' ∨ mark = 'E' then '.' :: plainDots rest
        else '%' :: '2' :: mark :: plainDots rest
  | character :: rest => character :: plainDots rest
  | [] => []

/-- Put the segments of a path in order; `before` holds the segments so far, last first. A single
dot stands for its directory, two dots for the one above; at the end both leave an empty segment. -/
def resolveDots (before : List (List Char)) : List (List Char) → List (List Char)
  | [] => before.reverse
  | segment :: rest =>
      if plainDots segment = ['.', '.'] then
        resolveDots (if rest.isEmpty then [] :: before.drop 1 else before.drop 1) rest
      else if plainDots segment = ['.'] then
        resolveDots (if rest.isEmpty then [] :: before else before) rest
      else resolveDots (encoded isPathSafe segment :: before) rest

def pathOf (text : List Char) : List Char :=
  let segments := match Text.pieces isSlash text with
    | [] :: segments => segments
    | segments => segments
  (resolveDots [] segments).flatMap fun segment => '/' :: segment

/-- The number behind the colon of an authority; without one it is that of the scheme. -/
def portNumber? (secure : Bool) : List Char → Option Nat
  | [] => some (if secure then 443 else 80)
  | _ :: digits =>
      if digits.isEmpty then some (if secure then 443 else 80)
      else (numeral? digits).bind fun number => if number < 65536 then some number else none

/-- The parts of an authority: user information up to the last at sign, the host, and the number
of its service. -/
def authorityOf? (secure : Bool) (text : List Char) :
    Option (Option (List Char) × List Char × Nat) := do
  let reversed := text.reverse
  let behind := (reversed.takeWhile (· != '@')).reverse
  let userInfo := match reversed.dropWhile (· != '@') with
    | [] => none
    | _ :: rest => some rest.reverse
  let host := behind.takeWhile (· != ':')
  let portNumber ← portNumber? secure (behind.dropWhile (· != ':'))
  if host.isEmpty || host.any (fun character => isOuterBlank character) then none
  else some (userInfo, host.map Char.toLower, portNumber)

/-- What follows the scheme, and whether the scheme is the secure one. -/
def schemeOf? (text : List Char) : Option (Bool × List Char) :=
  let scheme := String.ofList ((text.takeWhile (· != ':')).map Char.toLower)
  let rest := (text.dropWhile (· != ':')).drop 1
  if scheme = "http" then some (false, rest.dropWhile isSlash)
  else if scheme = "https" then some (true, rest.dropWhile isSlash)
  else none

def parse? (address : String) : Option Target := do
  let (secure, rest) ← schemeOf? (cleaned address.toList)
  let endsAuthority (character : Char) : Bool := isSlash character || endsPath character
  let (userInfo, host, portNumber) ← authorityOf? secure (rest.takeWhile fun c => ! endsAuthority c)
  let rest := rest.dropWhile fun c => ! endsAuthority c
  let path := rest.takeWhile fun c => ! endsPath c
  let query := match rest.dropWhile fun c => ! endsPath c with
    | '?' :: query => some (encoded isQuerySafe (query.takeWhile (· != '#')))
    | _ => none
  some { secure, userInfo, host, portNumber, path := pathOf path, query }

def addForm (target : Target) (form : String) : Target :=
  let query := match target.query with
    | some query => if query.isEmpty then form.toList else query ++ '&' :: form.toList
    | none => form.toList
  { target with query := if query.isEmpty then none else some query }

def requestTarget (target : Target) : String :=
  String.ofList <| target.path ++ match target.query with
    | some query => '?' :: query
    | none => []

end Target

end PackageSearch.Uplink
