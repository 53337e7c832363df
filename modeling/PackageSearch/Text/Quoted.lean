import PackageSearch.Text.Property
import PackageSearch.Text.Utf8

/-!
# Quoted texts

A text in double quotes for a reader's eye. Quotes, backslashes and the common controls have short
escapes; characters without a visible form of their own, and marks that would join a character
before them, are given by number; malformed bytes by two hexadecimal digits.
-/

set_option autoImplicit false

namespace PackageSearch.Text

def hexText (digits : List Char) (value : Nat) : List Char :=
  (Nat.toDigits 16 value).flatMap fun digit => (digits.drop (CharacterSet.hexNumber [digit])).take 1

def isHidden (character : Char) : Bool :=
  if character.toNat < 128 then character.toNat < 0x20 || character.toNat = 0x7f
  else graphemeExtend.contains character.toNat || unprintable.contains character.toNat

def quotedCharacter (character : Char) : List Char :=
  if character = '"' then ['\\', '"']
  else if character = '\\' then ['\\', '\\']
  else if character = '\n' then ['\\', 'n']
  else if character = '\r' then ['\\', 'r']
  else if character = '\t' then ['\\', 't']
  else if character.toNat = 0 then ['\\', '0']
  else if isHidden character then
    ['\\', 'u', '\x7b'] ++ hexText "0123456789abcdef".toList character.toNat ++ ['\x7d']
  else [character]

def quoted (text : String) : String :=
  String.ofList ('"' :: text.toList.flatMap quotedCharacter ++ ['"'])

def quotedByte (byte : UInt8) : List Char :=
  let digits := hexText "0123456789ABCDEF".toList byte.toNat
  ['\\', 'x'] ++ (if digits.length < 2 then '0' :: digits else digits)

def quotedBytes (bytes : Bytes) : String :=
  String.ofList ('"' :: (portions bytes).flatMap (fun portion =>
    match portion with
    | .character value => quotedCharacter value
    | .malformed stretch => stretch.flatMap quotedByte) ++ ['"'])

end PackageSearch.Text
