import Criteria.Format

namespace Criteria

inductive HelpTopic where
  | root
  | compile
  deriving DecidableEq

/-- What the compiling command is asked for. -/
structure CompileOptions where
  config : String := "predsql.toml"
  configGiven : Bool := false
  placeholder : Option Placeholder := none
  json : Bool := false
  input : Option String := none
  deriving DecidableEq

inductive Command where
  | help (topic : HelpTopic)
  | compile (options : CompileOptions)
  deriving DecidableEq

inductive ArgumentError where
  | unknownCommand (name : String)
  | unknownTopic (name : String)
  | missingValue (option : String)
  | unknownPlaceholder (value : String)
  | secondInput (first second : String)
  | unknownArgument (token : String)
  deriving DecidableEq

def ArgumentError.message : ArgumentError → String
  | .unknownCommand name => s!"unknown command: {name}"
  | .unknownTopic name => s!"unknown help topic: {name}"
  | .missingValue option => s!"{option} requires a value"
  | .unknownPlaceholder value =>
    s!"invalid --placeholder: {value} (expected question|dollar)"
  | .secondInput first second => s!"only one input file is accepted (got {first} and {second})"
  | .unknownArgument token => s!"unknown argument: {token}"

/-- The rest of a text behind all its leading repeats of a mark; `skip` characters belong to the
repeat before them. -/
def behindRepeats (mark : List Char) : Nat → List Char → List Char
  | _, [] => []
  | skip + 1, _ :: cs => behindRepeats mark skip cs
  | 0, c :: cs =>
    if mark.isPrefixOf (c :: cs) then behindRepeats mark (mark.length - 1) cs else c :: cs

/-- The value that is joined to an option by an equals sign. The option may stand before it more
than once. -/
def joinedValue? (option token : String) : Option String :=
  let mark := option.toList ++ ['=']
  if mark.isPrefixOf token.toList then some (String.ofList (behindRepeats mark 0 token.toList))
  else none

/-- A style by its name or its mark. -/
def readPlaceholder (value : String) : Except ArgumentError Placeholder :=
  if value = "question" ∨ value = "?" then pure .question
  else if value = "dollar" ∨ value = "$" then pure .dollar
  else throw (.unknownPlaceholder value)

namespace CompileOptions

def setConfig (o : CompileOptions) (path : String) : CompileOptions :=
  { o with config := path, configGiven := true }

def setPlaceholder (o : CompileOptions) (value : String) : Except ArgumentError CompileOptions :=
  return { o with placeholder := some (← readPlaceholder value) }

def setInput (o : CompileOptions) (path : String) : Except ArgumentError CompileOptions :=
  match o.input with
  | some first => throw (.secondInput first path)
  | none => pure { o with input := some path }

/-- Takes in one token that stands by itself: an option with its value joined to it, a switch or the
input. -/
def takeToken (o : CompileOptions) (token : String) : Except ArgumentError CompileOptions :=
  match joinedValue? "--config" token, joinedValue? "--placeholder" token with
  | some path, _ => pure (o.setConfig path)
  | none, some value => o.setPlaceholder value
  | none, none =>
    if token = "--json" then pure { o with json := true }
    else if token = "-" ∨ token.toList.head? ≠ some '-' then o.setInput token
    else throw (.unknownArgument token)

/-- Reads tokens from left to right, until one asks for help. -/
def read (o : CompileOptions) : List String → Except ArgumentError Command
  | [] => pure (.compile o)
  | token :: rest =>
    if token = "-h" ∨ token = "--help" then pure (.help .compile)
    else if token = "--config" then
      match rest with
      | [] => throw (.missingValue token)
      | path :: rest => read (o.setConfig path) rest
    else if token = "--placeholder" then
      match rest with
      | [] => throw (.missingValue token)
      | value :: rest => do read (← o.setPlaceholder value) rest
    else do read (← o.takeToken token) rest

end CompileOptions

namespace Command

def readHelp : List String → Except ArgumentError Command
  | [] => pure (.help .root)
  | topic :: _ => if topic = "where" then pure (.help .compile) else throw (.unknownTopic topic)

/-- The command that the arguments behind the program's name ask for. -/
def read : List String → Except ArgumentError Command
  | [] => pure (.help .root)
  | first :: rest =>
    if first = "-h" ∨ first = "--help" ∨ first = "help" then readHelp rest
    else if first = "where" then CompileOptions.read {} rest
    else throw (.unknownCommand first)

end Command

end Criteria
