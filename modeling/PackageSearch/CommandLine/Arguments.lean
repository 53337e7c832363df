/-!
# Arguments

The arguments of a command stand for options with a value, flags, and operands. A level of commands
has a grammar; an option that has not got its value yet is pending, and what is pending is settled
before anything else is. Everything behind two hyphens alone is an operand.
-/

set_option autoImplicit false

namespace PackageSearch.CommandLine

/-- Why arguments cannot be followed. The first three answer with a text of their own. -/
inductive UsageError where
  | helpWanted
  | versionWanted
  | nothingGiven
  | missingCommand
  | unknownCommand
  | unknownArgument
  | invalidValue
  | repeatedArgument
  | unwantedValue
  | missingOperand
  deriving DecidableEq

/-- The operands of a command. -/
inductive Operands where
  | none
  | one (name : String)
  | many (name : String)
  deriving DecidableEq

/-- What a level of commands accepts. -/
structure Grammar where
  commands : List String
  options : List String
  flags : List String
  operands : Operands
  hasVersion : Bool
  accepts : String → String → Bool

/-- What was given so far: names with their values, and the pending name. -/
structure Given where
  values : List (String × List String)
  pending : Option (String × List String)

namespace Given

def empty : Given := ⟨[], none⟩

/-- Note the values of a name. Only operands may be given again. -/
def note (grammar : Grammar) (name : String) (values : List String) (given : Given) :
    Except UsageError Given :=
  if values.isEmpty then .error .invalidValue
  else
    let before := given.values.lookup name
    if before.isSome && grammar.operands ≠ .many name then .error .repeatedArgument
    else if ! values.all (grammar.accepts name) then .error .invalidValue
    else
      .ok { given with
        values := (name, before.getD [] ++ values) ::
          given.values.filter fun entry => entry.1 ≠ name }

def settle (grammar : Grammar) (given : Given) : Except UsageError Given :=
  match given.pending with
  | some (name, values) => note grammar name values { given with pending := none }
  | none => .ok given

def pend (entry : String × List String) (given : Given) : Given :=
  { given with pending := some entry }

def noteFlag (grammar : Grammar) (name : String) (given : Given) : Except UsageError Given := do
  (← given.settle grammar).note grammar name ["true"]

def all (given : Given) (name : String) : List String :=
  (given.values.lookup name).getD []

def value? (given : Given) (name : String) : Option String :=
  (given.all name).head?

end Given

/-! ## Kinds of arguments -/

/-- A name behind two hyphens, and the value behind an equals sign. -/
def longOf? (argument : String) : Option (String × Option String) :=
  match argument.toList with
  | '-' :: '-' :: rest =>
      let name := rest.takeWhile (· != '=')
      match rest.drop name.length with
      | _ :: value => some (String.ofList name, some (String.ofList value))
      | [] => some (String.ofList name, none)
  | _ => none

def shortOf? (argument : String) : Option Char :=
  match argument.toList with
  | '-' :: letter :: _ => if letter = '-' then none else some letter
  | _ => none

def takeOperand (grammar : Grammar) (isTrailing : Bool) (argument : String) (given : Given) :
    Except UsageError Given :=
  match grammar.operands with
  | .many name =>
      match given.pending with
      | some (pending, values) =>
          if pending = name then .ok (given.pend (name, values ++ [argument]))
          else Given.pend (name, [argument]) <$> given.settle grammar
      | none => .ok (given.pend (name, [argument]))
  | .one name =>
      if given.pending.any (·.1 = name) || (given.values.lookup name).isSome then
        .error .unknownArgument
      else Given.pend (name, [argument]) <$> given.settle grammar
  | .none =>
      if grammar.commands.isEmpty || (isTrailing && grammar.commands.contains argument) then
        .error .unknownArgument
      else .error .unknownCommand

/-- Ask for the help or the version, after what is pending. -/
def ask (grammar : Grammar) (wanted : UsageError) (given : Given) : Except UsageError Given := do
  let _ ← given.settle grammar
  .error wanted

/-- Take a name behind two hyphens; the answer says whether its value is still to come. -/
def takeLong (grammar : Grammar) (name : String) (value : Option String) (given : Given) :
    Except UsageError (Given × Bool) :=
  let isSwitch := grammar.flags.contains name || name = "help" ||
    (name = "version" && grammar.hasVersion)
  if grammar.options.contains name then do
    let given ← given.settle grammar
    match value with
    | some value => return (← given.note grammar name [value], false)
    | none => return (given.pend (name, []), true)
  else if isSwitch && value.isSome then .error .unwantedValue
  else if grammar.flags.contains name then return (← given.noteFlag grammar name, false)
  else if name = "help" then return (← ask grammar .helpWanted given, false)
  else if isSwitch then return (← ask grammar .versionWanted given, false)
  else .error .unknownArgument

def takeShort (grammar : Grammar) (letter : Char) (given : Given) : Except UsageError Given :=
  if letter = 'h' then ask grammar .helpWanted given
  else if letter = 'V' && grammar.hasVersion then ask grammar .versionWanted given
  else .error .unknownArgument

/-- Follow arguments up to the name of a command, which comes with the arguments behind it. -/
def follow (grammar : Grammar) :
    (isTrailing isAwaiting : Bool) → Given → List String →
      Except UsageError (Given × Option (String × List String))
  | _, _, given, [] => .ok (given, none)
  | true, _, given, argument :: rest => do
      follow grammar true false (← takeOperand grammar true argument given) rest
  | false, isAwaiting, given, argument :: rest =>
      if ! isAwaiting && grammar.commands.contains argument then .ok (given, some (argument, rest))
      else if argument = "--" then follow grammar true false given rest
      else match longOf? argument, shortOf? argument with
        | some (name, value), _ => do
            let (given, isAwaiting) ← takeLong grammar name value given
            follow grammar false isAwaiting given rest
        | none, some letter => do
            follow grammar false false (← takeShort grammar letter given) rest
        | none, none =>
            match isAwaiting, given.pending with
            | true, some (name, values) =>
                follow grammar false false (given.pend (name, values ++ [argument])) rest
            | _, _ => do
                follow grammar false false (← takeOperand grammar false argument given) rest

end PackageSearch.CommandLine
