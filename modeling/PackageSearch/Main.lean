import PackageSearch.CommandLine.Run
import Std.Time.DateTime.Timestamp

/-!
# The program

Takes a picture of what a run depends on, runs, and prints. Of the storage directory the names and
kinds of all entries are taken, and the contents of manifests. No transport to uplinks is built in,
so every uplink counts as one that cannot be reached.
-/

set_option autoImplicit false

namespace PackageSearch.CommandLine

open Storage (Entry FileName FileTree Path)

def variableNames : List String :=
  ["HOME", "XDG_CONFIG_HOME", "REGISTRY_SEARCH_STORAGE", "REGISTRY_SEARCH_AUTH_CONCURRENCY",
    "REGISTRY_SEARCH_MERGE_BUFFER"]

def readEnvironment : IO (Dictionary String) :=
  variableNames.foldlM (fun found name => do
    match ← IO.getEnv name with
    | some value => return found.insert name value
    | none => return found) .empty

def readBytes? (path : String) : IO (Option Bytes) := do
  try
    return some (← IO.FS.readBinFile path).toList
  catch _ => return none

def instantOf (time : IO.FS.SystemTime) : Instant :=
  (Instant.ofCounts? time.sec time.nsec.toNat).getD .epoch

/-- An entry of a directory with all that is below it; links are not followed into directories. -/
partial def entryOf (found : IO.FS.DirEntry) : IO (FileName × Storage.Entry) := do
  let name := found.fileName.toUTF8.toList
  let metadata ← found.path.symlinkMetadata
  match metadata.type with
  | .dir =>
      let below ← found.path.readDir
      return (name, .directory (instantOf metadata.modified) (← below.toList.mapM entryOf))
  | _ =>
      if Storage.Path.mk name = Storage.manifestFile then
        match ← readBytes? found.path.toString with
        | some content => return (name, .file content)
        | none => return (name, .link (Path.ofText ""))
      else return (name, .file [])

def placeStorage (tree : FileTree) (path : Path) : IO FileTree := do
  let place := (← IO.currentDir) / path.text
  if ← place.isDir then
    let metadata ← place.metadata
    let entries ← (← place.readDir).toList.mapM entryOf
    return (tree.makeDirectory path).change path fun _ =>
      some (.directory (instantOf metadata.modified) entries)
  else if ← place.pathExists then return tree.writeFile path []
  else return tree

def placeFile (tree : FileTree) (path : Path) : IO FileTree := do
  match ← readBytes? path.text with
  | some content => return tree.writeFile path content
  | none => return tree

def takeSurroundings (arguments : List String) : IO Surroundings := do
  let environment ← readEnvironment
  let now := (← Std.Time.Timestamp.now).toSecondsSinceUnixEpoch.val
  let here := Path.ofText (← IO.currentDir).toString
  let empty : FileTree := { ((default : FileTree).makeDirectory here) with here := here.parts }
  let bare : Surroundings :=
    { tree := empty, environment, now := (Instant.ofCounts? now 0).getD .epoch
      uplinkWork := fun uplink =>
        [.fail (.uplink (.transport uplink.name "no transport is built in"))] }
  match Invocation.ofArguments arguments with
  | .error _ => return bare
  | .ok invocation =>
      let named := (invocation.configuration.map Path.ofText).toList
      let user := (Configuration.userPath? environment).toList
      let configured := { bare with tree := ← (named ++ user).foldlM placeFile empty }
      match configured.configuration invocation with
      | .error _ => return configured
      | .ok configuration =>
          return { configured with
            tree := ← placeStorage configured.tree configuration.storage }

end PackageSearch.CommandLine

open PackageSearch.CommandLine in
def main (arguments : List String) : IO UInt32 := do
  let output := (← takeSurroundings arguments).run arguments
  IO.print output.printed
  IO.eprint output.complaint
  return output.exitCode.toUInt32
