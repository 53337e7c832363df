import PackageSearch.Search
import PackageSearch.Storage.FileTree
import PackageSearch.Toml.Document
import PackageSearch.Uplink.Request

/-!
# Configuration

Where packages are stored, which uplinks there are, and the tunables of a search: read from a TOML
document, and overridden by the environment. A relative storage directory is relative to the
directory of the document. Without a named document the one of the user is read if there is one.
-/

set_option autoImplicit false

namespace PackageSearch

open Storage (FileError FileTree Path)
open Toml (Value)
open Uplink (HttpUplink)

/-- An uplink as it is configured. -/
structure UplinkSettings where
  name : String
  address : String
  timeoutSeconds : Nat
  maxBatch : Option Nat
  deriving DecidableEq

namespace UplinkSettings

def standardTimeout : Nat := 30

def standardBatch : Nat := 100

def uplink (settings : UplinkSettings) : HttpUplink :=
  HttpUplink.ofAddress settings.name settings.address (settings.maxBatch.getD standardBatch)

end UplinkSettings

structure Configuration where
  storage : Path
  storages : Dictionary Path
  uplinks : List UplinkSettings
  search : SearchSettings

/-- Why a configuration cannot be had. -/
inductive ConfigurationError where
  | unreadable (path : String) (cause : FileError)
  | invalid (path : String)
  deriving DecidableEq

def ConfigurationError.text : ConfigurationError → String
  | unreadable path cause => "failed to read config " ++ path ++ ": " ++ cause.text
  | invalid path => "invalid config " ++ path

/-! ## Values of a document -/

namespace Toml.Value

def text? : Value → Option String
  | .text value => some value
  | _ => none

def count? : Value → Option Nat
  | .integer (.ofNat value) => if value < Nat.pow 2 64 then some value else none
  | _ => none

/-- The fields of a record: under their names in a table, or in their order in a list. -/
def fields? (names : List String) : Value → Option (List (Option Value))
  | .table members => some (names.map fun name => members.lookup name)
  | .list items => some (names.zipIdx.map fun entry => items[entry.2]?)
  | _ => none

def optional? {α : Type} (fallback : α) (read : Value → Option α) : Option Value → Option α
  | some value => read value
  | none => some fallback

end Toml.Value

namespace UplinkSettings

def ofValue? (value : Value) : Option UplinkSettings := do
  match ← value.fields? ["name", "url", "timeout_secs", "max_batch"] with
  | [name, address, timeout, batch] =>
      some
        { name := ← (← name).text?
          address := ← (← address).text?
          timeoutSeconds := ← Toml.Value.optional? standardTimeout Toml.Value.count? timeout
          maxBatch := ← Toml.Value.optional? none (fun value => value.count?.map some) batch }
  | _ => none

end UplinkSettings

namespace SearchSettings

def ofValue? (value : Value) : Option SearchSettings := do
  match ← value.fields? ["auth_concurrency", "merge_buffer"] with
  | [concurrency, buffer] =>
      some
        { authConcurrency :=
            ← Toml.Value.optional? standard.authConcurrency Toml.Value.count? concurrency
          mergeBuffer := ← Toml.Value.optional? standard.mergeBuffer Toml.Value.count? buffer }
  | _ => none

end SearchSettings

namespace Configuration

/-- The configuration of a program that is not configured. -/
def standard : Configuration :=
  { storage := Path.ofText "storage", storages := .empty, uplinks := []
    search := SearchSettings.standard }

def storagesOf? : Value → Option (Dictionary Path)
  | .table members => do
      let entries ← members.mapM fun (name, value) => value.text?.map fun text =>
        (name, Path.ofText text)
      some (Dictionary.ofList entries)
  | _ => none

def uplinksOf? : Value → Option (List UplinkSettings)
  | .list items => items.mapM UplinkSettings.ofValue?
  | _ => none

/-- The configuration that a document holds; keys that are not known do not count. -/
def ofValue? (value : Value) : Option Configuration := do
  match ← value.fields? ["storage", "storages", "uplinks", "search"] with
  | [storage, storages, uplinks, search] =>
      some
        { storage := ← Toml.Value.optional? standard.storage
            (fun value => value.text?.map Path.ofText) storage
          storages := ← Toml.Value.optional? .empty storagesOf? storages
          uplinks := ← Toml.Value.optional? [] uplinksOf? uplinks
          search := ← Toml.Value.optional? .standard SearchSettings.ofValue? search }
  | _ => none

def ofText? (text : String) (path : Path) : Option Configuration := do
  let configuration ← ofValue? (← Toml.ofText? text)
  some { configuration with storage := path.parent.join configuration.storage }

def readAt (tree : FileTree) (path : Path) : Except ConfigurationError Configuration :=
  match tree.read path with
  | .error cause => .error (.unreadable path.text cause)
  | .ok content =>
      match Text.utf8? content with
      | none => .error (.unreadable path.text .notUnicode)
      | some text =>
          match ofText? text path with
          | some configuration => .ok configuration
          | none => .error (.invalid path.text)

/-! ## The environment -/

/-- The positive number that a text of digits stands for, perhaps behind a plus sign. -/
def overrideCount? (text : String) : Option Nat := do
  let digits := match text.toList with
    | '+' :: rest => rest
    | digits => digits
  let value ← numeral? digits
  if 0 < value && value < Nat.pow 2 64 then some value else none

/-- The configuration with what the environment says; texts that are no positive numbers do not
count. -/
def overridden (environment : Dictionary String) (configuration : Configuration) :
    Configuration :=
  let count := fun (name : String) (held : Nat) =>
    ((environment.get? name).bind overrideCount?).getD held
  { configuration with
    storage := ((environment.get? "REGISTRY_SEARCH_STORAGE").map Path.ofText).getD
      configuration.storage
    search :=
      { authConcurrency := count "REGISTRY_SEARCH_AUTH_CONCURRENCY"
          configuration.search.authConcurrency
        mergeBuffer := count "REGISTRY_SEARCH_MERGE_BUFFER" configuration.search.mergeBuffer } }

/-- The directory of the user's configurations: the one in the environment if it is absolute, else
one in the user's home. -/
def userDirectory? (environment : Dictionary String) : Option Path :=
  (((environment.get? "XDG_CONFIG_HOME").map Path.ofText).filter Path.isAbsolute) <|>
    ((environment.get? "HOME").filter (· ≠ "")).map fun home =>
      (Path.ofText home).join (Path.ofText ".config")

def userPath? (environment : Dictionary String) : Option Path :=
  (userDirectory? environment).map fun directory =>
    directory.join (Path.ofText "registry-search/config.toml")

/-- The configuration at a path, or else the user's if there is one, or else the standard one, with
what the environment says. -/
def load (tree : FileTree) (environment : Dictionary String) (path : Option Path) :
    Except ConfigurationError Configuration := do
  let user := (userPath? environment).filter fun path => (tree.entry path).toOption.isSome
  let found ← match path <|> user with
    | some path => readAt tree path
    | none => .ok standard
  .ok (found.overridden environment)

end Configuration

end PackageSearch
