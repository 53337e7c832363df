import PackageSearch.Merge.Script
import PackageSearch.Storage.Discovery

/-!
# The store of package files

A package's manifest is the file `package.json` in its directory. The catalog is the list of the
manifests of all packages that have one; the first manifest that cannot be read ends the reading.
-/

set_option autoImplicit false

namespace PackageSearch.Storage

open Package (Manifest)
open Merge (Act Call LocalRecord Script)

def manifestFile : Path := Path.ofText "package.json"

/-- The manifest in a directory, or nothing if it has none. -/
def readManifest (tree : FileTree) (directory : Path) : Except StoreError (Option Manifest) :=
  let path := directory.join manifestFile
  match tree.read path with
  | .error .notFound => .ok none
  | .error cause => .error (.unreadable path.text cause.text)
  | .ok content =>
      match Json.decode Manifest.shape.decoder content with
      | .ok manifest => .ok (some manifest)
      | .error fault => .error (.invalidManifest path.text fault)

/-- The manifests of packages in order, those without a manifest left out. -/
def readManifests (tree : FileTree) : List Found → Except StoreError (List Manifest)
  | [] => .ok []
  | found :: rest => do
      let manifest ← readManifest tree found.path
      let others ← readManifests tree rest
      return manifest.toList ++ others

def Discovery.listAll (discovery : Discovery) (tree : FileTree) :
    Except StoreError (List Manifest) := do
  readManifests tree (← discovery.find tree "")

def Discovery.listNames (discovery : Discovery) (tree : FileTree) :
    Except StoreError (List String) := do
  return (← discovery.listAll tree).map Manifest.name

def readCall (tree : FileTree) (found : Found) : Call StoreError (Option LocalRecord) :=
  match readManifest tree found.path with
  | .ok manifest => ⟨0, .value (manifest.map fun manifest => ⟨manifest, found.modified⟩)⟩
  | .error error => ⟨0, .error error⟩

def Discovery.script (discovery : Discovery) (tree : FileTree) (text : String) :
    Script StoreError LocalRecord :=
  match discovery.find tree text with
  | .ok found => ⟨0, .value none⟩ :: found.map (readCall tree)
  | .error error => Script.failed error

def Discovery.work (discovery : Discovery) (tree : FileTree) (text : String) : List Act :=
  (discovery.script tree text).work .localStore

def Discovery.storeShown (discovery : Discovery) : String :=
  "FsStore \x7b discovery: " ++ discovery.shown ++ " \x7d"

end PackageSearch.Storage
