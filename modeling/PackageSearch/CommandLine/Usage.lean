import PackageSearch.CommandLine.Invocation
import PackageSearch.Text.Blank

/-!
# Usage

The texts by which the program explains itself: its version, its help, what is wrong with its
arguments, completions for shells, and a manual page.
-/

set_option autoImplicit false

namespace PackageSearch.CommandLine

def programName : String := "registry-search"

def versionText : String := programName ++ " 0.1.0\n"

def purpose : String := "Federated package search over a local store and upstream registries"

def commandSummaries : List (String × String) :=
  [("search", "Search local storage and every uplink, print the result set as JSON"),
    ("index", "Build the local full-text index and query it"),
    ("completions", "Generate shell completions to stdout"),
    ("man", "Generate man page to stdout"),
    ("help", "Print this message")]

def optionSummaries : List (String × String) :=
  [("--config <CONFIG>", "Config file (defaults to the platform config dir)"),
    ("--storage <STORAGE>", "Override the storage directory from the config"),
    ("--size <SIZE>", "End index of the page (search)"),
    ("--from <FROM>", "Start index of the page (search)"),
    ("--offline", "Search local storage only (search)"),
    ("--query <QUERY>", "Index query; \x60*\x60 lists every package (index)"),
    ("-h, --help", "Print help"),
    ("-V, --version", "Print version")]

def summaryLine (entry : String × String) : String :=
  "  " ++ entry.1 ++ String.ofList (List.replicate (22 - entry.1.length) ' ') ++ entry.2 ++ "\n"

def usageLine : String := "Usage: " ++ programName ++ " [OPTIONS] <COMMAND>\n"

def helpText : String :=
  purpose ++ "\n\n" ++ usageLine ++ "\nCommands:\n" ++
    String.join (commandSummaries.map summaryLine) ++ "\nOptions:\n" ++
    String.join (optionSummaries.map summaryLine)

namespace UsageError

def isAnswer (error : UsageError) : Bool :=
  error = helpWanted || error = versionWanted

def text : UsageError → String
  | helpWanted => helpText
  | versionWanted => versionText
  | nothingGiven => helpText
  | missingCommand => "error: a command is required\n\n" ++ usageLine
  | unknownCommand => "error: there is no such command\n\n" ++ usageLine
  | unknownArgument => "error: an argument is not known here\n\n" ++ usageLine
  | invalidValue => "error: an option needs another value\n\n" ++ usageLine
  | repeatedArgument => "error: an argument cannot be given again\n\n" ++ usageLine
  | unwantedValue => "error: an argument takes no value\n\n" ++ usageLine
  | missingOperand => "error: an argument is missing\n\n" ++ usageLine

end UsageError

def commandWords : String := Text.joinWith " " commandNames

def completionsText : Shell → String
  | .bash => "complete -W '" ++ commandWords ++ "' " ++ programName ++ "\n"
  | .elvish =>
      "set edit:completion:arg-completer[" ++ programName ++ "] = \x7b|@words| put " ++
        commandWords ++ " \x7d\n"
  | .fish => "complete -c " ++ programName ++ " -f -a '" ++ commandWords ++ "'\n"
  | .powershell =>
      "Register-ArgumentCompleter -Native -CommandName '" ++ programName ++
        "' -ScriptBlock \x7b -split '" ++ commandWords ++ "' \x7d\n"
  | .zsh => "#compdef " ++ programName ++ "\n_arguments '1:command:(" ++ commandWords ++ ")'\n"

def manualText : String :=
  ".TH " ++ programName ++ " 1\n.SH NAME\n" ++ programName ++ " \\- " ++ purpose ++
    "\n.SH COMMANDS\n" ++
    String.join (commandSummaries.map fun entry => ".TP\n" ++ entry.1 ++ "\n" ++ entry.2 ++ "\n") ++
    ".SH OPTIONS\n" ++
    String.join (optionSummaries.map fun entry => ".TP\n" ++ entry.1 ++ "\n" ++ entry.2 ++ "\n")

end PackageSearch.CommandLine
