import PackageSearch.Query
import PackageSearch.Uplink.Batches
import PackageSearch.Uplink.Error
import PackageSearch.Uplink.Url

/-!
# Requests to an uplink

An uplink is asked with a query and the headers of the inbound request. Headers that describe the
inbound connection are not passed on. A request can be sent only if the address and all headers
are legal; its answer is the failure of its status, or the batches of its body.
-/

set_option autoImplicit false

namespace PackageSearch.Uplink

open Package (Listing)

/-- The headers and address of the inbound request. -/
structure RequestContext where
  headers : List (String × String)
  address : Option String
  deriving DecidableEq, Inhabited

/-- A registry that can be asked over HTTP. -/
structure HttpUplink where
  name : String
  base : String
  maxBatch : Nat

namespace HttpUplink

def searchPath : String := "/-/v1/search"

/-- An uplink at an address, whose trailing slashes do not count. -/
def ofAddress (name address : String) (maxBatch : Nat) : HttpUplink :=
  ⟨name, String.ofList (address.toList.reverse.dropWhile (· == '/')).reverse, max 1 maxBatch⟩

def searchAddress (uplink : HttpUplink) : String := uplink.base ++ searchPath

end HttpUplink

/-- Headers that describe a connection and not a request. -/
def connectionHeaders : List String :=
  ["connection", "keep-alive", "proxy-authenticate", "proxy-authorization", "te", "trailer",
    "transfer-encoding", "upgrade", "host", "content-length"]

def lowered (text : String) : String := String.ofList (text.toList.map Char.toLower)

def isForwarded (name : String) : Bool :=
  ! connectionHeaders.contains (lowered name)

def isHeaderNameCharacter (character : Char) : Bool :=
  character.isAlphanum || "!#$%&'*+-.^_`|~".toList.contains character

def isHeaderName (name : String) : Bool :=
  ! name.isEmpty && name.toList.all isHeaderNameCharacter && name.length < 65536

/-- The characters of a header's value: no controls but the tab. -/
def isHeaderValueCharacter (character : Char) : Bool :=
  character = '\t' || (0x20 ≤ character.toNat && character.toNat != 0x7f)

def isHeaderValue (value : String) : Bool :=
  value.toList.all isHeaderValueCharacter

def userAgent : String := "registry-search/0.1.0"

/-- A header with a given value unless the headers have one of its name. -/
def withDefault (name value : String) (headers : List (String × String)) :
    List (String × String) :=
  if headers.any fun header => header.1 == name then headers else headers ++ [(name, value)]

def headerLe (left right : String × String) : Bool :=
  left.1 < right.1 || (left.1 == right.1 && ! (right.2 < left.2))

def base64Digits : List Char :=
  "ABCDEFGHIJKLMNOPQRSTUVWXYZabcdefghijklmnopqrstuvwxyz0123456789+/".toList

def base64Digit (value : Nat) : Char := (base64Digits.drop (value % 64)).headD '='

def base64 : Bytes → List Char
  | first :: second :: third :: rest =>
      let bits := (first.toNat * 256 + second.toNat) * 256 + third.toNat
      base64Digit (bits / 262144) :: base64Digit (bits / 4096) :: base64Digit (bits / 64) ::
        base64Digit bits :: base64 rest
  | [first, second] =>
      let bits := (first.toNat * 256 + second.toNat) * 256
      [base64Digit (bits / 262144), base64Digit (bits / 4096), base64Digit (bits / 64), '=']
  | [first] =>
      let bits := first.toNat * 65536
      [base64Digit (bits / 262144), base64Digit (bits / 4096), '=', '=']
  | [] => []

/-- The header that the user information of an address stands for. -/
def credentials (userInfo : Option (List Char)) : List (String × String) :=
  match userInfo with
  | none => []
  | some text =>
      let joined := if text.contains ':' then text else text ++ [':']
      [("authorization", "Basic " ++ String.ofList (base64 (String.ofList joined).toUTF8.toList))]

/-- A request as it is sent. -/
structure Request where
  target : Target
  headers : List (String × String)

/-- The request for a query, if it can be made. Forwarded headers keep their values; defaults are
added to them. -/
def makeRequest? (uplink : HttpUplink) (query : Query) (context : RequestContext) :
    Option Request := do
  let target ← Target.parse? uplink.searchAddress
  let forwarded := context.headers.filter fun header => isForwarded header.1
  if forwarded.all fun header => isHeaderName header.1 && isHeaderValue header.2 then
    let given := forwarded.map fun header => (lowered header.1, header.2)
    let headers := withDefault "user-agent" userAgent <| withDefault "accept" "*/*" <|
      credentials target.userInfo ++ given
    some ⟨target.addForm (formText query.toParameters), headers.mergeSort headerLe⟩
  else none

def Request.line (request : Request) : String :=
  "GET " ++ request.target.requestTarget ++ " HTTP/1.1"

/-- How the server's answer goes: it never comes, or it has a status and a body. -/
inductive Answer where
  | silent
  | status (code : Nat) (body : List Arrival)

def isSuccess (code : Nat) : Bool := 200 ≤ code && code < 300

def isInformational (code : Nat) : Bool := 100 ≤ code && code < 200 && code != 101

def hasNoBody (code : Nat) : Bool := code = 204 || code = 304

/-- What an answer gives: a failure before any batch, or what the body delivers. -/
def Answer.deliver (uplink : HttpUplink) : Answer → Except UplinkError Delivery
  | .silent => .error (.transport uplink.name "no answer in time")
  | .status code body =>
      if code < 100 ∨ 999 < code ∨ isInformational code then
        .error (.transport uplink.name "no final answer")
      else if isSuccess code then
        .ok (Uplink.deliver uplink.maxBatch (if hasNoBody code then [] else body))
      else .error (.status uplink.name code)

end PackageSearch.Uplink
