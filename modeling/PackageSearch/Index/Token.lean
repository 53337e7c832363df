import PackageSearch.Text.Blank
import PackageSearch.Text.LetterCase

/-!
# Tokens

What the index compares: the runs of letters and digits of a text in lower case. A document's text
is lowered character by character, the runs of a query text as whole words.
-/

set_option autoImplicit false

namespace PackageSearch.Index

open Text (isAlphanumeric lowerEach lowerText)

abbrev Token := List Char

def alphanumericRuns (text : List Char) : List (List Char) :=
  Text.runs (fun character => ! isAlphanumeric character) text

def tokensOf (text : List Char) : List Token :=
  (alphanumericRuns text).map lowerEach

/-- The lowered runs of a query text, looked for inside the tokens of names. -/
def infixTokens (text : List Char) : List Token :=
  (alphanumericRuns text).map lowerText

end PackageSearch.Index
