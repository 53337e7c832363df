import PackageSearch.Text.Property
import PackageSearch.Text.Script

/-!
# Classes of characters at text boundaries

The values of the Unicode properties Grapheme_Cluster_Break, Word_Break and Sentence_Break but the
value `Other`. Each is told by other properties with the codes that those miss, and a code belongs
to the first class of a list that has it.
-/

set_option autoImplicit false

namespace PackageSearch.Text

/-- The codes of the named class of a list, less those of the classes before it. -/
def firstClass? (name : String) :
    List (List String × CharacterSet) → CharacterSet → Option CharacterSet
  | [], _ => none
  | (names, codes) :: rest, taken =>
      if names.contains name then some (codes.difference taken)
      else firstClass? name rest (taken.union codes)

def propertyCodes (name : String) : CharacterSet := (propertyCodes? name).getD .empty

def scriptCodes (name : String) : CharacterSet := ((script? name).map Script.codes).getD .empty

/-- Marks that belong to the number after them. -/
def numberSigns : CharacterSet := .ofTable ["600-605 6dd 890-891 8e2 110bd 110cd"]

/-- Spacing marks that do not belong to what stands before them. -/
def separateMarks : CharacterSet := .ofTable
  ["102b-102c 1038 1062-1064 1067-106d 1083 1087-108c 108f 109a-109c 1a61 1a63-1a64 aa7b aa7d",
  "11720-11721"]

/-- The Hangul syllables without a final consonant. Behind each stand those that have one. -/
def openSyllables : CharacterSet :=
  .ofRanges ((List.range 399).map fun index => (0xac00 + 28 * index, 0xac00 + 28 * index))

def graphemeBreaks : List (List String × CharacterSet) :=
  [(["cr"], .singleton 0xd),
   (["lf"], .singleton 0xa),
   (["zwj"], .singleton 0x200d),
   (["extend", "ex"], graphemeExtend.union (propertyCodes "emojimodifier")),
   (["regionalindicator", "ri"], propertyCodes "regionalindicator"),
   (["prepend", "pp"],
    numberSigns.union (.ofTable
      ["70f d4e 111c2-111c3 113d1 1193f 11941 11a84-11a89 11d46 11f02"])),
   (["control", "cn"],
    (codesOf [.control, .format, .surrogate, .lineSeparator, .paragraphSeparator]).union
      ((propertyCodes "defaultignorablecodepoint").difference assigned)),
   (["spacingmark", "sm"],
    ((codesOf [.spacingMark]).difference separateMarks).union (.ofTable ["e33 eb3"])),
   (["l"], .ofTable ["1100-115f a960-a97c"]),
   (["v"], .ofTable ["1160-11a7 d7b0-d7c6 16d63 16d67-16d6a"]),
   (["t"], .ofTable ["11a8-11ff d7cb-d7fb"]),
   (["lv"], openSyllables),
   (["lvt"], .ofTable ["ac00-d7a3"])]

/-- Letters of scripts that set no mark between words. -/
def unspacedLetters : CharacterSet := .ofTable
  ["e01-e3a e40-e4e e81-e82 e84 e86-e8a e8c-ea3 ea5 ea7-ebd ec0-ec4 ec6 ec8-ece edc-edf 1000-103f",
  "1050-108f 109a-109f 1780-17d3 17d7 17dc-17dd 1950-196d 1970-1974 1980-19ab 19b0-19c9 19de-19df",
  "1a20-1a5e 1a60-1a7c 1aa0-1aad a9e0-a9ef a9fa-a9fe aa60-aac2 aadb-aadf 11700-1171a 1171d-1172b",
  "1173a-1173b 1173f-11746"]

def digits : CharacterSet :=
  .unionAll [codesOf [.decimalNumber], numberSigns, .ofTable ["66b-66c 19da"]]

def wordExtenders : CharacterSet :=
  ((graphemeExtend.union (codesOf [.spacingMark])).union (propertyCodes "emojimodifier")).difference
    (.singleton 0x200d)

def katakana : CharacterSet :=
  (scriptCodes "katakana").union (.ofTable ["3031-3035 309b-309c 30a0 30fc ff70"])

def wordBreaks : List (List String × CharacterSet) :=
  [(["cr"], .singleton 0xd),
   (["lf"], .singleton 0xa),
   (["newline", "nl"], .ofTable ["b-c 85 2028-2029"]),
   (["extend"], wordExtenders),
   (["zwj"], .singleton 0x200d),
   (["regionalindicator", "ri"], propertyCodes "regionalindicator"),
   (["katakana", "ka"], katakana),
   (["hebrewletter", "hl"], (scriptCodes "hebrew").intersection (codesOf [.otherLetter])),
   (["aletter", "le"],
    (alphabetic.union (.ofTable
      ["b8 2c2-2c5 2d2-2d7 2de-2df 2e5-2eb 2ed 2ef-2ff 55a-55c 55e 58a 5f3 70f a708-a716 a720-a721",
      "a789-a78a ab5b"])).difference
      (.unionAll [propertyCodes "ideographic", scriptCodes "hiragana", unspacedLetters])),
   (["singlequote", "sq"], .singleton 0x27),
   (["doublequote", "dq"], .singleton 0x22),
   (["midnumlet", "mb"], .ofTable ["2e 2018-2019 2024 fe52 ff07 ff0e"]),
   (["midletter", "ml"], .ofTable ["3a b7 387 55f 5f4 2027 fe13 fe55 ff1a"]),
   (["midnum", "mn"],
    .ofTable ["2c 3b 37e 589 60c-60d 66c 7f8 2044 fe50 fe54 ff0c ff1b"]),
   (["numeric", "nu"], digits),
   (["extendnumlet", "ex"], (codesOf [.connectorPunctuation]).union (.singleton 0x202f)),
   (["wsegspace"], (codesOf [.spaceSeparator]).difference (.ofTable ["a0 2007 202f"])),
   (["format", "fo"], (codesOf [.format]).difference (.ofTable ["200b-200d"]))]

def sentenceBreaks : List (List String × CharacterSet) :=
  [(["cr"], .singleton 0xd),
   (["lf"], .singleton 0xa),
   (["sep", "se"], .ofTable ["85 2028-2029"]),
   (["extend", "ex"], (graphemeExtend.union (codesOf [.spacingMark])).union (.singleton 0x200d)),
   (["sp"], whiteSpace),
   (["lower", "lo"], lowercase.difference (.ofTable ["10d0-10fa 10fd-10ff"])),
   (["upper", "up"],
    (uppercase.union (codesOf [.titlecaseLetter])).difference (.ofTable ["1c90-1cba 1cbd-1cbf"])),
   (["numeric", "nu"], digits),
   (["oletter", "le"], alphabetic.union (.singleton 0x5f3)),
   (["aterm", "at"], .ofTable ["2e 2024 fe52 ff0e"]),
   (["scontinue", "sc"],
    .ofTable
      ["2c-2d 3a-3b 37e 55d 60c-60d 7f8 1802 1808 2013-2014 3001 fe10-fe11 fe13-fe14 fe31-fe32",
      "fe50-fe51 fe54-fe55 fe58 fe63 ff0c-ff0d ff1a-ff1b ff64"]),
   (["sterm", "st"], propertyCodes "sentenceterminal"),
   (["close", "cl"],
    (codesOf [.openPunctuation, .closePunctuation, .initialPunctuation, .finalPunctuation]).union
      (.ofTable ["22 27 275b-2760 2e00-2e01 2e06-2e08 2e0b 1f676-1f678"])),
   (["format", "fo"], (codesOf [.format]).difference (.ofTable ["200c-200d"]))]

def graphemeBreakCodes? (name : String) : Option CharacterSet :=
  firstClass? name graphemeBreaks .empty

def wordBreakCodes? (name : String) : Option CharacterSet :=
  firstClass? name wordBreaks .empty

def sentenceBreakCodes? (name : String) : Option CharacterSet :=
  firstClass? name sentenceBreaks .empty

end PackageSearch.Text
