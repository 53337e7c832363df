import PackageSearch.Package.Listing
import PackageSearch.Query

/-!
# Matching summaries

The words of a query text must all match. A word behind `author:` is looked for in the texts of the
author, any other word in the name, the display name and the description. Looking for means
containment, letter case included.
-/

set_option autoImplicit false

namespace PackageSearch

open Package (Person Summary)

/-- What one word of a query asks for. -/
inductive Term where
  | author (value : List Char)
  | anywhere (value : List Char)
  deriving DecidableEq

namespace Term

def authorMark : List Char := "author:".toList

def ofWord (word : List Char) : Term :=
  if authorMark.isPrefixOf word then .author (word.drop authorMark.length) else .anywhere word

def foundIn (value : List Char) (text : String) : Bool :=
  Text.occursIn value text.toList

def holds (summary : Summary) : Term → Bool
  | author value => match summary.author with
      | some person => person.texts.any (foundIn value)
      | none => false
  | anywhere value =>
      foundIn value summary.name || summary.displayName.any (foundIn value) ||
        summary.description.any (foundIn value)

end Term

/-- The words of a query text. -/
structure Matcher where
  terms : List Term
  deriving DecidableEq

namespace Matcher

def compile (text : String) : Matcher :=
  ⟨(Text.words text.toList).map Term.ofWord⟩

def accepts (pattern : Matcher) (summary : Summary) : Bool :=
  pattern.terms.all (Term.holds summary)

def isMatchAll (pattern : Matcher) : Bool :=
  pattern.terms.isEmpty

end Matcher

end PackageSearch
