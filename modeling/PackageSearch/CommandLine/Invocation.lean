import PackageSearch.CommandLine.Arguments

/-!
# Invocations

What the arguments of the program ask for. The configuration and the storage directory may be named
before the command or behind it; behind it counts.
-/

set_option autoImplicit false

namespace PackageSearch.CommandLine

/-- A shell that completions can be made for. -/
inductive Shell where
  | bash
  | elvish
  | fish
  | powershell
  | zsh
  deriving DecidableEq

namespace Shell

def all : List Shell := [bash, elvish, fish, powershell, zsh]

def name : Shell → String
  | bash => "bash"
  | elvish => "elvish"
  | fish => "fish"
  | powershell => "powershell"
  | zsh => "zsh"

def ofName? (name : String) : Option Shell :=
  all.find? fun shell => shell.name = name

end Shell

inductive Command where
  | search (words : List String) (size start : Option String) (isOffline : Bool)
  | index (query : String)
  | completions (shell : Shell)
  | manual
  deriving DecidableEq

/-- A command, and the places named for its configuration and for the storage. -/
structure Invocation where
  configuration : Option String
  storage : Option String
  command : Command
  deriving DecidableEq

/-! ## Grammars -/

def globalOptions : List String := ["config", "storage"]

/-- Places must not be empty, and the shell must be known. -/
def acceptsValue (name value : String) : Bool :=
  if globalOptions.contains name then value ≠ ""
  else if name = "shell" then (Shell.ofName? value).isSome
  else true

def commandNames : List String := ["search", "index", "completions", "man", "help"]

def rootGrammar : Grammar :=
  ⟨commandNames, globalOptions, [], .none, true, acceptsValue⟩

def grammarOf (command : String) : Grammar :=
  if command = "search" then
    ⟨[], "size" :: "from" :: globalOptions, ["offline"], .many "text", false, acceptsValue⟩
  else if command = "index" then
    ⟨[], "query" :: globalOptions, [], .none, false, acceptsValue⟩
  else if command = "completions" then
    ⟨[], globalOptions, [], .one "shell", false, acceptsValue⟩
  else ⟨[], globalOptions, [], .none, false, acceptsValue⟩

def commandOf (name : String) (given : Given) : Except UsageError Command :=
  if name = "search" then
    .ok (.search (given.all "text") (given.value? "size") (given.value? "from")
      (given.value? "offline").isSome)
  else if name = "index" then .ok (.index ((given.value? "query").getD "*"))
  else if name = "completions" then
    match (given.value? "shell").bind Shell.ofName? with
    | some shell => .ok (.completions shell)
    | none => .error .missingOperand
  else .ok .manual

def helpError (topics : List String) : UsageError :=
  if topics.length ≤ 1 && topics.all commandNames.contains then .helpWanted else .unknownCommand

def Invocation.ofArguments (arguments : List String) : Except UsageError Invocation := do
  let (outer, found) ← follow rootGrammar false false .empty arguments
  match found with
  | none =>
      let outer ← outer.settle rootGrammar
      .error (if outer.values.isEmpty then .nothingGiven else .missingCommand)
  | some (name, rest) =>
      if name = "help" then .error (helpError rest)
      else
        let grammar := grammarOf name
        let (inner, _) ← follow grammar false false .empty rest
        let inner ← inner.settle grammar
        let command ← commandOf name inner
        let outer ← outer.settle rootGrammar
        .ok
          { configuration := inner.value? "config" <|> outer.value? "config"
            storage := inner.value? "storage" <|> outer.value? "storage"
            command }

end PackageSearch.CommandLine
