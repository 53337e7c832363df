import PackageSearch.Text.Age
import PackageSearch.Text.Boundary

/-!
# Names of character classes

A class may be named by a general category or a group of them, by a two-valued property, by a
script, by an age, or by its value at text boundaries. In names the letter case, blanks, hyphens,
low lines and a leading `is` do not count.
-/

set_option autoImplicit false

namespace PackageSearch.Text

def plainName (name : List Char) : String :=
  let (stripped, rest) := match name with
    | first :: second :: rest =>
        if first.toLower = 'i' && second.toLower = 's' then (true, rest) else (false, name)
    | _ => (false, name)
  let kept := (rest.filter fun character =>
    character.toNat < 128 && ! [' ', '_', '-'].contains character).map Char.toLower
  if stripped && kept = ['c'] then "isc" else String.ofList kept

/-- The categories that have no name of their own as a class, but a common one. -/
def categoryGroups : List (List String × List Category) :=
  [(["l", "letter"],
      [.uppercaseLetter, .lowercaseLetter, .titlecaseLetter, .modifierLetter, .otherLetter]),
    (["lc", "casedletter"], [.uppercaseLetter, .lowercaseLetter, .titlecaseLetter]),
    (["lu", "uppercaseletter"], [.uppercaseLetter]),
    (["ll", "lowercaseletter"], [.lowercaseLetter]),
    (["lt", "titlecaseletter"], [.titlecaseLetter]),
    (["lm", "modifierletter"], [.modifierLetter]),
    (["lo", "otherletter"], [.otherLetter]),
    (["m", "mark", "combiningmark"], [.nonspacingMark, .spacingMark, .enclosingMark]),
    (["mn", "nonspacingmark"], [.nonspacingMark]),
    (["mc", "spacingmark"], [.spacingMark]),
    (["me", "enclosingmark"], [.enclosingMark]),
    (["n", "number"], [.decimalNumber, .letterNumber, .otherNumber]),
    (["nd", "decimalnumber", "digit"], [.decimalNumber]),
    (["nl", "letternumber"], [.letterNumber]),
    (["no", "othernumber"], [.otherNumber]),
    (["p", "punctuation", "punct"],
      [.connectorPunctuation, .dashPunctuation, .openPunctuation, .closePunctuation,
        .initialPunctuation, .finalPunctuation, .otherPunctuation]),
    (["pc", "connectorpunctuation"], [.connectorPunctuation]),
    (["pd", "dashpunctuation"], [.dashPunctuation]),
    (["ps", "openpunctuation"], [.openPunctuation]),
    (["pe", "closepunctuation"], [.closePunctuation]),
    (["pi", "initialpunctuation"], [.initialPunctuation]),
    (["pf", "finalpunctuation"], [.finalPunctuation]),
    (["po", "otherpunctuation"], [.otherPunctuation]),
    (["s", "symbol"], [.mathSymbol, .currencySymbol, .modifierSymbol, .otherSymbol]),
    (["sm", "mathsymbol"], [.mathSymbol]),
    (["sc", "currencysymbol"], [.currencySymbol]),
    (["sk", "modifiersymbol"], [.modifierSymbol]),
    (["so", "othersymbol"], [.otherSymbol]),
    (["z", "separator"], [.spaceSeparator, .lineSeparator, .paragraphSeparator]),
    (["zs", "spaceseparator"], [.spaceSeparator]),
    (["zl", "lineseparator"], [.lineSeparator]),
    (["zp", "paragraphseparator"], [.paragraphSeparator]),
    (["cc", "control", "cntrl"], [.control]),
    (["cf", "format"], [.format]),
    (["co", "privateuse"], [.privateUse])]

def categoryCodes? (name : String) : Option CharacterSet :=
  let unassigned := CharacterSet.complement CharacterSet.lastCode assigned
  if name = "any" then some .all
  else if name = "ascii" then some (.ofRanges [(0, 127)])
  else if name = "assigned" then some assigned
  else if name = "cn" || name = "unassigned" then some unassigned
  else if name = "c" || name = "other" then
    some (unassigned.union (codesOf [.control, .format, .privateUse]))
  else (categoryGroups.find? fun group => group.1.contains name).map fun group => codesOf group.2

/-- The codes of a class given by one name. Three short names that properties share with
categories stand for the categories. -/
def namedCodes? (name : List Char) : Option CharacterSet :=
  let name := plainName name
  (if ["cf", "sc", "lc"].contains name then none else propertyCodes? name).or
    ((categoryCodes? name).or ((script? name).map Script.codes))

/-- The codes of a class given by a property and one of its values. -/
def valueCodes? (property value : List Char) : Option CharacterSet :=
  let value := plainName value
  match plainName property with
  | "gc" | "generalcategory" => categoryCodes? value
  | "sc" | "script" => (script? value).map Script.codes
  | "scx" | "scriptextensions" => (script? value).map Script.extendedCodes
  | "age" => ageCodes? value
  | "gcb" | "graphemeclusterbreak" => graphemeBreakCodes? value
  | "wb" | "wordbreak" => wordBreakCodes? value
  | "sb" | "sentencebreak" => sentenceBreakCodes? value
  | _ => none

end PackageSearch.Text
