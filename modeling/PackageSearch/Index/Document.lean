import PackageSearch.Index.Token
import PackageSearch.Package.Manifest

/-!
# Indexed documents

The projection of a package that the index holds, and its searchable fields. Fields differ in
weight; the identifier and the version are one token as they are written, all other fields are
split into tokens.
-/

set_option autoImplicit false

namespace PackageSearch.Index

open Package (Account Manifest Person Release)

/-- What the index holds of a package. -/
structure Document where
  id : String
  name : String
  description : String
  version : String
  keywords : String
  author : String
  readme : String
  deriving DecidableEq, Inhabited

namespace Document

def unknownAuthor : String := "???"

/-- The account that published the current version, else the author named by that version, or by
the package when the version has none. -/
def authorOf? (manifest : Manifest) : Option String :=
  (manifest.current?.bind fun release => release.publisher.map Account.name) <|>
    ((manifest.current?.bind Release.author) <|> manifest.author).bind Person.name?

def ofManifest (manifest : Manifest) : Document :=
  let current := manifest.current?
  { id := manifest.name
    name := manifest.name
    description := ((current.bind Release.description) <|> manifest.description).getD ""
    version := (current.map fun release => "v" ++ release.version).getD ""
    keywords := (current.map fun release => Text.joinWith " " release.keywords).getD ""
    author := (authorOf? manifest).getD unknownAuthor
    readme := manifest.readme.getD "" }

end Document

/-- A field that is searched. -/
inductive Field where
  | id
  | name
  | keywords
  | author
  | description
  | version
  deriving DecidableEq

namespace Field

def ofName? (name : String) : Option Field :=
  [("id", id), ("name", Field.name), ("keywords", keywords), ("author", author),
    ("description", description), ("version", version)].lookup name

def standard : List Field := [name, keywords, author, description, version]

def weight : Field → Nat
  | name => 10
  | keywords => 7
  | author => 6
  | description => 4
  | id | version => 1

def isVerbatim : Field → Bool
  | id | version => true
  | _ => false

def tokensIn (field : Field) (text : List Char) : List Token :=
  if field.isVerbatim then [text] else tokensOf text

end Field

namespace Document

def text (document : Document) : Field → String
  | .id => document.id
  | .name => document.name
  | .keywords => document.keywords
  | .author => document.author
  | .description => document.description
  | .version => document.version

def tokens (document : Document) (field : Field) : List Token :=
  field.tokensIn (document.text field).toList

end Document

end PackageSearch.Index
