import PackageSearch.Package.Manifest
import PackageSearch.Package.Name
import PackageSearch.Time.Instant

/-!
# Package listings

A summary is what a search shows of a package, whatever source it comes from; a listing is a
summary with its scores. A local manifest is lifted into a listing with fixed scores. Members of an
uplink's summary that are not known are kept and written back behind the known ones.
-/

set_option autoImplicit false

namespace PackageSearch.Package

open Json (Value Node Fault Decoder Field Shape optionalMember)

structure Links where
  npm : String
  homepage : Option String
  repository : Option String
  bugs : Option String
  deriving DecidableEq, Inhabited

namespace Links

def blank : Links := ⟨"", none, none, none⟩

def shape : Shape Links := Shape.skipping blank
  [Field.optional "npm" Decoder.text fun held npm => { held with npm },
    Field.optional "homepage" (Decoder.option Decoder.text)
      fun held homepage => { held with homepage },
    Field.optional "repository" (Decoder.option Decoder.text)
      fun held repository => { held with repository },
    Field.optional "bugs" (Decoder.option Decoder.text) fun held bugs => { held with bugs }]

def toValue (links : Links) : Value :=
  .record <|
    [("npm", .text links.npm)] ++
    optionalMember "homepage" .text links.homepage ++
    optionalMember "repository" .text links.repository ++
    optionalMember "bugs" .text links.bugs

end Links

/-- What is shown of a package. -/
structure Summary where
  name : String
  scope : String
  version : String
  description : Option String
  displayName : Option String
  date : String
  links : Links
  author : Option Person
  publisher : Option Contact
  maintainer : Option Contact
  extra : Dictionary Value
  deriving Inhabited

namespace Summary

def blank : Summary :=
  { name := "", scope := "", version := "", description := none, displayName := none, date := ""
    links := Links.blank, author := none, publisher := none, maintainer := none, extra := .empty }

def fields : List (Json.Field Summary) :=
  [Field.mandatory "name" Decoder.text fun held name => { held with name },
    Field.optional "scope" Decoder.text fun held scope => { held with scope },
    Field.optional "version" Decoder.text fun held version => { held with version },
    Field.optional "description" (Decoder.option Decoder.text)
      fun held description => { held with description },
    Field.optional "displayName" (Decoder.option Decoder.text)
      fun held displayName => { held with displayName },
    Field.optional "date" Decoder.text fun held date => { held with date },
    Field.optional "links" Links.shape.decoder fun held links => { held with links },
    Field.optional "author" (Decoder.option Person.decoder) fun held author => { held with author },
    Field.optional "publisher" (Decoder.option Contact.shape.decoder)
      fun held publisher => { held with publisher },
    Field.optional "maintainer" (Decoder.option Contact.shape.decoder)
      fun held maintainer => { held with maintainer }]

/-- Members with other keys are read completely and kept, the last of a repeated key. -/
def shape : Shape Summary :=
  ⟨blank, fields, fun levels held key node =>
    (node.value levels).map fun value => { held with extra := held.extra.insert key value }⟩

/-- A summary is always a record, since its members are not known beforehand. -/
def decoder : Decoder Summary := shape.ofRecord

def toValue (summary : Summary) : Value :=
  .record <|
    [("name", .text summary.name), ("scope", .text summary.scope),
      ("version", .text summary.version)] ++
    optionalMember "description" .text summary.description ++
    optionalMember "displayName" .text summary.displayName ++
    [("date", .text summary.date), ("links", summary.links.toValue)] ++
    optionalMember "author" Person.toValue summary.author ++
    optionalMember "publisher" Contact.toValue summary.publisher ++
    optionalMember "maintainer" Contact.toValue summary.maintainer ++
    summary.extra.entries

/-- The accounts that maintain the current version, or the package if it names none. -/
def maintainers (manifest : Manifest) (current : Option Release) : List Account :=
  match current with
  | some release =>
      if release.maintainers.isEmpty then manifest.maintainers else release.maintainers
  | none => manifest.maintainers

/-- The time of the last change or of the current version, else the fallback. -/
def dateOf (manifest : Manifest) (version : String) (fallback : Option Instant) : String :=
  ((manifest.times.get? "modified" <|> manifest.times.get? version) <|>
    fallback.map Instant.timestamp).getD ""

/-- The summary of a local manifest. The current version's entry goes before the package's own
fields. -/
def ofManifest (manifest : Manifest) (fallback : Option Instant) : Summary :=
  let version := manifest.currentVersion?.getD ""
  let current := manifest.versions.get? version
  { name := manifest.name
    scope := scopeOf manifest.name
    version
    description := (current.bind Release.description) <|> manifest.description
    displayName := none
    date := dateOf manifest version fallback
    links :=
      { npm := ""
        homepage := current.bind Release.homepage
        repository := (current.bind Release.repository).map Location.address
        bugs := (current.bind Release.bugs).map Location.address }
    author := (current.bind Release.author) <|> manifest.author
    publisher := (current.bind Release.publisher).map Account.toContact
    maintainer := (maintainers manifest current).head?.map Account.toContact
    extra := .empty }

end Summary

/-- Marks on a listing. -/
structure Flags where
  unstable : Option Bool
  deriving DecidableEq, Inhabited

namespace Flags

def shape : Shape Flags := Shape.skipping ⟨none⟩
  [Field.optional "unstable" (Decoder.option Decoder.boolean) fun _ unstable => { unstable }]

def toValue (flags : Flags) : Value :=
  .record (optionalMember "unstable" .boolean flags.unstable)

end Flags

def realValue (number : Binary64) : Value := .number (.real number)

structure ScoreDetail where
  quality : Binary64
  popularity : Binary64
  maintenance : Binary64
  deriving DecidableEq, Inhabited

namespace ScoreDetail

def blank : ScoreDetail := ⟨.zero, .zero, .zero⟩

def shape : Shape ScoreDetail := Shape.skipping blank
  [Field.mandatory "quality" Decoder.real fun held quality => { held with quality },
    Field.mandatory "popularity" Decoder.real fun held popularity => { held with popularity },
    Field.mandatory "maintenance" Decoder.real fun held maintenance => { held with maintenance }]

def toValue (detail : ScoreDetail) : Value :=
  .record [("quality", realValue detail.quality), ("popularity", realValue detail.popularity),
    ("maintenance", realValue detail.maintenance)]

end ScoreDetail

structure Score where
  total : Binary64
  detail : ScoreDetail
  deriving DecidableEq, Inhabited

namespace Score

def blank : Score := ⟨.zero, ScoreDetail.blank⟩

def shape : Shape Score := Shape.skipping blank
  [Field.mandatory "final" Decoder.real fun held total => { held with total },
    Field.mandatory "detail" ScoreDetail.shape.decoder fun held detail => { held with detail }]

def toValue (score : Score) : Value :=
  .record [("final", realValue score.total), ("detail", score.detail.toValue)]

end Score

/-- One entry of a search answer. -/
structure Listing where
  package : Summary
  flags : Option Flags
  isLocal : Bool
  score : Score
  searchScore : Binary64
  deriving Inhabited

namespace Listing

def name (listing : Listing) : String := listing.package.name

def blank : Listing := ⟨Summary.blank, none, false, Score.blank, .zero⟩

def shape : Shape Listing := Shape.skipping blank
  [Field.mandatory "package" Summary.decoder fun held package => { held with package },
    Field.optional "flags" (Decoder.option Flags.shape.decoder)
      fun held flags => { held with flags },
    Field.optional "local" Decoder.boolean fun held isLocal => { held with isLocal },
    Field.optional "score" Score.shape.decoder fun held score => { held with score },
    Field.optional "searchScore" Decoder.real fun held searchScore => { held with searchScore }]

def toValue (listing : Listing) : Value :=
  .record <|
    [("package", listing.package.toValue)] ++
    optionalMember "flags" Flags.toValue listing.flags ++
    [("local", .boolean listing.isLocal), ("score", listing.score.toValue),
      ("searchScore", realValue listing.searchScore)]

def localSearchScore : Binary64 := .ofNat 100000

/-- The listing of a local manifest, marked unstable unless a stable version is published. -/
def ofManifest (manifest : Manifest) (fallback : Option Instant) : Listing :=
  { package := Summary.ofManifest manifest fallback
    flags := some ⟨if manifest.hasStableVersion then none else some true⟩
    isLocal := true
    score := ⟨.ofNat 1, ⟨.ofNat 1, .ofNat 1, .zero⟩⟩
    searchScore := localSearchScore }

end Listing

/-- A search answer: its entries, their number, and the time it was made. -/
structure ResultPage where
  objects : List Listing
  total : Nat
  time : String
  deriving Inhabited

namespace ResultPage

def blank : ResultPage := ⟨[], 0, ""⟩

def shape : Shape ResultPage := Shape.skipping blank
  [Field.mandatory "objects" (Decoder.list Listing.shape.decoder)
      fun held objects => { held with objects },
    Field.mandatory "total" Decoder.natural fun held total => { held with total },
    Field.mandatory "time" Decoder.text fun held time => { held with time }]

def toValue (page : ResultPage) : Value :=
  .record [("objects", .list (page.objects.map Listing.toValue)),
    ("total", .number (.integer page.total)), ("time", .text page.time)]

/-- The answer with the given entries, made at an instant. -/
def ofListings (objects : List Listing) (made : Instant) : ResultPage :=
  ⟨objects, objects.length, made.httpDate⟩

end ResultPage

end PackageSearch.Package
