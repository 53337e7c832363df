import PackageSearch.CommandLine.Usage
import PackageSearch.Configuration
import PackageSearch.Index
import PackageSearch.Pattern.Meaning
import PackageSearch.Storage.FileStore

/-!
# Running the program

What the program prints for its arguments, in an environment and over a tree of files. Results go to
the standard output as indented JSON; a failure is told on the standard error with what was being
done and why that failed.
-/

set_option autoImplicit false

namespace PackageSearch.CommandLine

open Access (Identity Oracle)
open Json (Value)
open Package (ResultPage)
open Storage (Discovery FileTree Path)

/-- What a run leaves behind. -/
structure Output where
  exitCode : Nat
  printed : String
  complaint : String
  deriving DecidableEq

namespace Output

def success (printed : String) : Output := ⟨0, printed, ""⟩

def failure (doing cause : String) : Output :=
  ⟨1, "", "Error: " ++ doing ++ "\n\nCaused by:\n    " ++ cause ++ "\n"⟩

/-- A run with wrong arguments, or with arguments that ask about the program. -/
def ofUsage (error : UsageError) : Output :=
  if error.isAnswer then success error.text else ⟨2, "", error.text⟩

end Output

/-- What surrounds a run: the files, the environment, the time, and how an uplink does its work. -/
structure Surroundings where
  tree : FileTree
  environment : Dictionary String
  now : Instant
  uplinkWork : UplinkSettings → List Merge.Act

namespace Surroundings

def configuration (surroundings : Surroundings) (invocation : Invocation) :
    Except ConfigurationError Configuration := do
  let found ← Configuration.load surroundings.tree surroundings.environment
    (invocation.configuration.map Path.ofText)
  .ok { found with storage := (invocation.storage.map Path.ofText).getD found.storage }

def store (configuration : Configuration) : Discovery :=
  .standard Pattern.engine configuration.storage configuration.storages

def queryOf (words : List String) (size start : Option String) : Query :=
  Query.ofParameters <| Dictionary.ofList <|
    ("text", Text.joinWith " " words) :: (size.map fun size => ("size", size)).toList ++
      (start.map fun start => ("from", start)).toList

def runSearch (surroundings : Surroundings) (configuration : Configuration) (query : Query)
    (isOffline : Bool) : Output :=
  let uplinks := if isOffline then [] else configuration.uplinks.map fun uplink =>
    (uplink.name, surroundings.uplinkWork uplink)
  let report := search configuration.search query .allowAll ⟨none, []⟩
    ⟨(store configuration).work surroundings.tree query.text, uplinks⟩ none
  match report.outcome with
  | .ok listings =>
      .success ((ResultPage.ofListings listings surroundings.now).toValue.renderIndented ++ "\n")
  | .error error => .failure "search failed" error.text

def hitText (hit : Hit) : String :=
  Value.block "\x7b" "\x7d" 1
    ["\"ref\": " ++ Json.quoted hit.name, "\"score\": " ++ hit.scoreText]

def runIndex (surroundings : Surroundings) (configuration : Configuration) (text : String) :
    Output :=
  let (index, count) := Index.empty.rebuild ((store configuration).listAll surroundings.tree)
  match count, index.query text with
  | .error error, _ => .failure "rebuilding index" error.text
  | _, .error error => .failure "querying index" error.text
  | _, .ok hits => .success (Value.block "[" "]" 0 (hits.map hitText) ++ "\n")

def perform (surroundings : Surroundings) (invocation : Invocation) : Output :=
  let configured := fun (next : Configuration → Output) =>
    match surroundings.configuration invocation with
    | .ok configuration => next configuration
    | .error error => .failure "loading configuration" error.text
  match invocation.command with
  | .search words size start isOffline =>
      configured fun configuration =>
        surroundings.runSearch configuration (queryOf words size start) isOffline
  | .index query => configured fun configuration => surroundings.runIndex configuration query
  | .completions shell => .success (completionsText shell)
  | .manual => .success manualText

def run (surroundings : Surroundings) (arguments : List String) : Output :=
  match Invocation.ofArguments arguments with
  | .ok invocation => surroundings.perform invocation
  | .error error => .ofUsage error

end Surroundings

end PackageSearch.CommandLine
