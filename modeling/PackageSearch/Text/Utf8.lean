/-!
# Bytes as UTF-8

A sequence of bytes is cut into characters and malformed stretches. A malformed stretch is the
longest beginning of a character's bytes that is cut short, or one byte that begins no character.
Shown as a text, each malformed stretch becomes one replacement character.
-/

set_option autoImplicit false

namespace PackageSearch

abbrev Bytes := List UInt8

namespace Text

def utf8? (bytes : Bytes) : Option String :=
  String.fromUTF8? bytes.toByteArray

def followers? (first : UInt8) : Option Nat :=
  if first < 0x80 then some 0
  else if 0xc2 ≤ first && first ≤ 0xdf then some 1
  else if 0xe0 ≤ first && first ≤ 0xef then some 2
  else if 0xf0 ≤ first && first ≤ 0xf4 then some 3
  else none

/-- Whether a byte may stand second behind a first byte of a longer character. Overlong forms,
surrogates and codes beyond the last character are excluded here. -/
def isSecond (first second : UInt8) : Bool :=
  (if first = 0xe0 then 0xa0 else if first = 0xf0 then 0x90 else 0x80) ≤ second &&
    second ≤ (if first = 0xed then 0x9f else if first = 0xf4 then 0x8f else 0xbf)

def isFollower (byte : UInt8) : Bool :=
  0x80 ≤ byte && byte ≤ 0xbf

/-- The bytes that continue a character with a given first byte, at most `wanted`. -/
def followersOf (first : UInt8) (wanted : Nat) : Bytes → Bytes
  | [] => []
  | second :: rest =>
      if 0 < wanted && isSecond first second then
        second :: (rest.take (wanted - 1)).takeWhile isFollower
      else []

def leadingBits (first : UInt8) (wanted : Nat) : Nat :=
  if wanted = 0 then first.toNat else first.toNat % Nat.pow 2 (6 - wanted)

/-- A character, or a malformed stretch of bytes. -/
inductive Portion where
  | character (value : Char)
  | malformed (bytes : Bytes)

/-- The first portion of a non-empty sequence of bytes, and what follows it. -/
def firstPortion (first : UInt8) (rest : Bytes) : Portion × Bytes :=
  match followers? first with
  | none => (.malformed [first], rest)
  | some wanted =>
      let others := followersOf first wanted rest
      (if others.length = wanted then
        .character (Char.ofNat
          (others.foldl (fun code byte => code * 64 + byte.toNat % 64) (leadingBits first wanted)))
      else .malformed (first :: others), rest.drop others.length)

theorem length_firstPortion_le (first : UInt8) (rest : Bytes) :
    (firstPortion first rest).2.length ≤ rest.length := by
  unfold firstPortion
  split
  · exact Nat.le_refl _
  · simp

def portions : Bytes → List Portion
  | [] => []
  | first :: rest => (firstPortion first rest).1 :: portions (firstPortion first rest).2
termination_by bytes => bytes.length
decreasing_by
  exact Nat.lt_succ_of_le (length_firstPortion_le first rest)

/-- The bytes as a text, with a replacement character for each malformed stretch. -/
def lossyText (bytes : Bytes) : String :=
  String.ofList ((portions bytes).map fun portion =>
    match portion with
    | .character value => value
    | .malformed _ => Char.ofNat 0xfffd)

end Text

end PackageSearch
