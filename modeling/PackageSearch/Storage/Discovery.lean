import PackageSearch.Dictionary
import PackageSearch.Package.Name
import PackageSearch.Pattern.Engine
import PackageSearch.Storage.Error
import PackageSearch.Storage.Leaves

/-!
# Discovery of packages

Every leaf directory of the storage directory may hold a package. The package's name is the path
from the deepest storage root above it, so the names of alternate roots are no part of it. The text
of a query is a pattern that must occur in the name; the engine for patterns is given.
-/

set_option autoImplicit false

namespace PackageSearch.Storage

/-- A directory that holds a package: the package's name, the path, and the time of its last
change. -/
structure Found where
  name : String
  path : Path
  modified : Instant

/-- Where packages are looked for: the storage directory, alternate roots by name, relative to it,
which names packages may have, and what makes patterns of query texts. -/
structure Discovery where
  storage : Path
  storages : Dictionary Path
  accepts : String → Bool
  patterns : PatternEngine

namespace Discovery

def standard (patterns : PatternEngine) (storage : Path) (storages : Dictionary Path) : Discovery :=
  { storage, storages, accepts := Package.isValidName, patterns }

def roots (discovery : Discovery) : List Path :=
  discovery.storages.values.map discovery.storage.join

/-- The root with more components; the second of two equals. -/
def deeper (left right : Path) : Path :=
  if right.components.length < left.components.length then left else right

/-- The deepest alternate root above a path, or else the storage directory. -/
def base (discovery : Discovery) (path : Path) : Path :=
  match discovery.roots.filter path.startsWith with
  | first :: rest => rest.foldl deeper first
  | [] => discovery.storage

def componentText? : Component → Option String
  | .normal name => Text.utf8? name
  | _ => none

/-- The name of the package at a path, as seen from a root. -/
def nameFrom? (path root : Path) : Option String := do
  let texts ← (← path.componentsAfter? root).mapM componentText?
  if texts.isEmpty then none else return Text.joinWith "/" texts

def pathBelow (directory : Path) (names : List FileName) : Path :=
  names.foldl (fun path name => path.join ⟨name⟩) directory

def leaves (tree : FileTree) (directory : Path) : Except StoreError (List (Path × Instant)) :=
  match tree.entry directory with
  | .ok entry => .ok (entry.leaves.map fun leaf => (pathBelow directory leaf.names, leaf.modified))
  | .error cause =>
      .error (.walk ("IO error for operation on " ++ directory.text ++ ": " ++ cause.text))

/-- The package at a leaf directory. A directory that is an alternate root holds none. -/
def foundAt? (discovery : Discovery) (path : Path) (modified : Instant) : Option Found :=
  if discovery.roots.any fun root => root.components = path.components then none
  else do
    let name ← nameFrom? path (discovery.base path)
    if discovery.accepts name then return ⟨name, path, modified⟩ else none

/-- The test that a query text puts to names: that of its pattern, or where the text is refused,
that of the escaped text. An empty text puts none, and neither does one that is refused in both
ways. -/
def nameTest? (discovery : Discovery) (text : String) : Option (String → Bool) :=
  if text.isEmpty then none
  else discovery.patterns.compile? text <|>
    discovery.patterns.compile? (discovery.patterns.escape text)

/-- The packages that a query text asks for, in the order of the directories. -/
def find (discovery : Discovery) (tree : FileTree) (text : String) :
    Except StoreError (List Found) := do
  let leaves ← leaves tree discovery.storage
  let test := discovery.nameTest? text
  return (leaves.filterMap fun leaf => discovery.foundAt? leaf.1 leaf.2).filter fun found =>
    test.all fun passes => passes found.name

def shown (discovery : Discovery) : String :=
  let storages := discovery.storages.entries.map fun entry =>
    Text.quoted entry.1 ++ ": " ++ entry.2.quoted
  "LocalDiscovery \x7b storage_path: " ++ discovery.storage.quoted ++ ", storage_map: \x7b" ++
    Text.joinWith ", " storages ++ "\x7d, .. \x7d"

end Discovery

end PackageSearch.Storage
