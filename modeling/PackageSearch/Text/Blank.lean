/-!
# White space, words and occurrences

Blank characters are those with the Unicode property White_Space. A text is split into the words
between them; `occursIn` is containment as a contiguous part.
-/

set_option autoImplicit false

namespace PackageSearch.Text

def isBlank (character : Char) : Bool :=
  let code := character.toNat
  (0x09 ≤ code && code ≤ 0x0d) || code = 0x20 || code = 0x85 || code = 0xa0 || code = 0x1680 ||
    (0x2000 ≤ code && code ≤ 0x200a) || code = 0x2028 || code = 0x2029 || code = 0x202f ||
    code = 0x205f || code = 0x3000

def trimLeft (text : List Char) : List Char :=
  text.dropWhile isBlank

def trim (text : List Char) : List Char :=
  (trimLeft (trimLeft text).reverse).reverse

/-- The parts of a text between separators, empty ones included. -/
def pieces {α : Type} (separator : α → Bool) : List α → List (List α)
  | [] => [[]]
  | character :: rest =>
      if separator character then [] :: pieces separator rest
      else match pieces separator rest with
        | first :: others => (character :: first) :: others
        | [] => [[character]]

def runs {α : Type} (separator : α → Bool) (text : List α) : List (List α) :=
  (pieces separator text).filter fun piece => ! piece.isEmpty

/-- The words of a text: the longest runs without blanks. -/
def words (text : List Char) : List (List Char) :=
  runs isBlank text

/-- Whether `needle` is a contiguous part of the text. -/
def occursIn (needle : List Char) : List Char → Bool
  | [] => needle.isEmpty
  | character :: rest =>
      needle.isPrefixOf (character :: rest) || occursIn needle rest

/-- Containment is the relation of infixes. -/
theorem occursIn_iff {needle text : List Char} :
    occursIn needle text = true ↔ needle <:+: text := by
  induction text with
  | nil => cases needle <;> simp [occursIn]
  | cons character rest ih =>
      simp [occursIn, List.infix_cons_iff, ih]

def joinWith (separator : String) (texts : List String) : String :=
  String.intercalate separator texts

end PackageSearch.Text
