import PackageSearch.Json.Node

/-!
# Form encoding and percent encoding

Bytes outside a set of safe ones are written as a percent sign and two hexadecimal digits. In a
form, a blank is written as a plus sign, and pairs are joined by equals signs and ampersands.
-/

set_option autoImplicit false

namespace PackageSearch.Uplink

def upperHexDigit (value : Nat) : Char :=
  (Nat.toDigits 16 value).headD '0' |>.toUpper

def percentEncoded (byte : UInt8) : List Char :=
  ['%', upperHexDigit (byte.toNat / 16), upperHexDigit (byte.toNat % 16)]

/-- The text with bytes that are not safe percent-encoded. -/
def percentEncode (safe : UInt8 → Bool) (bytes : Bytes) : List Char :=
  bytes.flatMap fun byte => if safe byte then [Char.ofNat byte.toNat] else percentEncoded byte

def isAlphanumericByte (byte : UInt8) : Bool :=
  (0x30 ≤ byte && byte ≤ 0x39) || (0x41 ≤ byte && byte ≤ 0x5a) || (0x61 ≤ byte && byte ≤ 0x7a)

/-- The bytes a form leaves as they are: letters, digits and `*-._`. -/
def isFormSafe (byte : UInt8) : Bool :=
  isAlphanumericByte byte || byte = 0x2a || byte = 0x2d || byte = 0x2e || byte = 0x5f

def formEncode (text : String) : List Char :=
  text.toUTF8.toList.flatMap fun byte =>
    if byte = 0x20 then ['+'] else if isFormSafe byte then [Char.ofNat byte.toNat]
    else percentEncoded byte

def formText (pairs : List (String × String)) : String :=
  String.intercalate "&" <| pairs.map fun (key, value) =>
    String.ofList (formEncode key ++ '=' :: formEncode value)

end PackageSearch.Uplink
