import PackageSearch.Package.Person
import PackageSearch.Package.Version

/-!
# Package manifests

The metadata document of a package: one entry per published version, the tags that name versions,
and the times of publication. The current version is the one tagged `latest` if it is published,
else the highest semantic version, else the last key.
-/

set_option autoImplicit false

namespace PackageSearch.Package

open Json (Value Decoder Field Shape optionalMember)

/-- One published version. -/
structure Release where
  name : String
  version : String
  description : Option String
  keywords : List String
  author : Option Person
  homepage : Option String
  repository : Option Location
  bugs : Option Location
  maintainers : List Account
  publisher : Option Account
  deriving Inhabited

/-- The metadata of a package. -/
structure Manifest where
  name : String
  description : Option String
  versions : Dictionary Release
  tags : Dictionary String
  times : Dictionary String
  readme : Option String
  author : Option Person
  maintainers : List Account
  deriving Inhabited

namespace Release

def blank : Release :=
  { name := "", version := "", description := none, keywords := [], author := none
    homepage := none, repository := none, bugs := none, maintainers := [], publisher := none }

def shape : Shape Release := Shape.skipping blank
  [Field.optional "name" Decoder.text fun held name => { held with name },
    Field.optional "version" Decoder.text fun held version => { held with version },
    Field.optional "description" (Decoder.option Decoder.text)
      fun held description => { held with description },
    Field.optional "keywords" (Decoder.list Decoder.text)
      fun held keywords => { held with keywords },
    Field.optional "author" (Decoder.option Person.decoder) fun held author => { held with author },
    Field.optional "homepage" (Decoder.option Decoder.text)
      fun held homepage => { held with homepage },
    Field.optional "repository" (Decoder.option Location.decoder)
      fun held repository => { held with repository },
    Field.optional "bugs" (Decoder.option Location.decoder) fun held bugs => { held with bugs },
    Field.optional "maintainers" (Decoder.list Account.shape.decoder)
      fun held maintainers => { held with maintainers },
    Field.optional "_npmUser" (Decoder.option Account.shape.decoder)
      fun held publisher => { held with publisher }]

def toValue (release : Release) : Value :=
  .record <|
    [("name", .text release.name), ("version", .text release.version)] ++
    optionalMember "description" .text release.description ++
    [("keywords", .list (release.keywords.map .text))] ++
    optionalMember "author" Person.toValue release.author ++
    optionalMember "homepage" .text release.homepage ++
    optionalMember "repository" Location.toValue release.repository ++
    optionalMember "bugs" Location.toValue release.bugs ++
    [("maintainers", .list (release.maintainers.map Account.toValue))] ++
    optionalMember "_npmUser" Account.toValue release.publisher

end Release

namespace Manifest

def blank : Manifest :=
  { name := "", description := none, versions := .empty, tags := .empty, times := .empty
    readme := none, author := none, maintainers := [] }

def shape : Shape Manifest := Shape.skipping blank
  [Field.mandatory "name" Decoder.text fun held name => { held with name },
    Field.optional "description" (Decoder.option Decoder.text)
      fun held description => { held with description },
    Field.optional "versions" (Decoder.dictionary Release.shape.decoder)
      fun held versions => { held with versions },
    Field.optional "dist-tags" (Decoder.dictionary Decoder.text)
      fun held tags => { held with tags },
    Field.optional "time" (Decoder.dictionary Decoder.text) fun held times => { held with times },
    Field.optional "readme" (Decoder.option Decoder.text) fun held readme => { held with readme },
    Field.optional "author" (Decoder.option Person.decoder) fun held author => { held with author },
    Field.optional "maintainers" (Decoder.list Account.shape.decoder)
      fun held maintainers => { held with maintainers }]

def textsValue (texts : Dictionary String) : Value :=
  .record (texts.map Value.text).entries

def toValue (manifest : Manifest) : Value :=
  .record <|
    [("name", .text manifest.name)] ++
    optionalMember "description" .text manifest.description ++
    [("versions", .record (manifest.versions.map Release.toValue).entries),
      ("dist-tags", textsValue manifest.tags), ("time", textsValue manifest.times)] ++
    optionalMember "readme" .text manifest.readme ++
    optionalMember "author" Person.toValue manifest.author ++
    [("maintainers", .list (manifest.maintainers.map Account.toValue))]

def semanticVersions (manifest : Manifest) : List (Version × String) :=
  manifest.versions.keys.filterMap fun key => (Version.parse? key).map fun version => (version, key)

/-- The higher of two versions, the later one if neither is higher. -/
def higher (held next : Version × String) : Version × String :=
  if Version.compare held.1 next.1 = .gt then held else next

def highest? : List (Version × String) → Option (Version × String)
  | [] => none
  | first :: rest => some (rest.foldl higher first)

/-- The key of the current version, if any version is published. -/
def currentVersion? (manifest : Manifest) : Option String :=
  match (manifest.tags.get? "latest").filter manifest.versions.contains with
  | some latest => some latest
  | none =>
      match highest? manifest.semanticVersions with
      | some (_, key) => some key
      | none => manifest.versions.keys.getLast?

def current? (manifest : Manifest) : Option Release :=
  manifest.currentVersion?.bind manifest.versions.get?

def hasStableVersion (manifest : Manifest) : Bool :=
  manifest.semanticVersions.any fun entry => entry.1.isStable

end Manifest

end PackageSearch.Package
