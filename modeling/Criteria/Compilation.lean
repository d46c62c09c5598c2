import Criteria.Files
import Criteria.HelpText
import Criteria.JsonReader
import Criteria.TomlDocument
import Criteria.TreeNotation
import Criteria.WhereClause

namespace Criteria

/-- Why a command prints nothing. -/
inductive CommandError where
  | arguments (error : ArgumentError)
  | configRead (path : String) (error : ReadError)
  | configParse (path : String)
  | fileRead (path : String) (error : ReadError)
  | inputRead (error : ReadError)
  | invalidJson
  | tree (error : BuildError)

def CommandError.message : CommandError → String
  | .arguments error => error.message
  | .configRead path error => s!"failed to read config file {path}: " ++ error.message
  | .configParse path => s!"failed to parse config file {path}"
  | .fileRead path error => s!"failed to read {path}: " ++ error.message
  | .inputRead error => "failed to read stdin: " ++ error.message
  | .invalidJson => "invalid JSON input"
  | .tree error => error.message

/-- The format that a configuration describes in its only member, which may be left out. An empty
array or table holds no content. -/
def Format.ofToml? (text : String) : Option Format :=
  match TomlDocument.read? text with
  | some [] => some {}
  | some [("format", settings)] =>
    ofSettings? (fun content => match content with | .array [] | .object [] => true | _ => false)
      settings
  | _ => none

/-- A compiled condition with its bound values: the text, then a line with the values as JSON. -/
def Fragment.plainText (f : Fragment) : String :=
  f.sql ++ "\n" ++ (Value.listJson f.params).compact

/-- A compiled condition with its bound values as one JSON object. -/
def Fragment.jsonText (f : Fragment) : String :=
  (Json.object [("sql", .string f.sql), ("params", Value.listJson f.params)]).pretty

def Fragment.text (f : Fragment) (json : Bool) : String :=
  if json then f.jsonText else f.plainText

/-- Compiles the condition tree that a JSON text denotes. -/
def compileText (format : Format) (text : String) : Except CommandError Fragment :=
  match Json.read? text with
  | none => throw .invalidJson
  | some j =>
    match Where.ofJson j >>= fun tree => tree.compile format with
    | .ok fragment => pure fragment
    | .error error => throw (.tree error)

section

variable {m : Type → Type} [Monad m]

/-- The configured format. A configuration that nobody asked for may be missing. -/
def readFormat (surroundings : Surroundings m) (options : CompileOptions) :
    ExceptT CommandError m Format := do
  match ← surroundings.readFile options.config with
  | .error error =>
    if !options.configGiven && error.isAbsence then return {}
    else throw (.configRead options.config error)
  | .ok text =>
    match Format.ofToml? text with
    | some format => return format
    | none => throw (.configParse options.config)

/-- The input, from a file or, by a dash or without a name, from standard input. -/
def readTree (surroundings : Surroundings m) (options : CompileOptions) :
    ExceptT CommandError m String := do
  match options.input with
  | none | some "-" =>
    match ← surroundings.readInput with
    | .ok text => return text
    | .error error => throw (.inputRead error)
  | some path =>
    match ← surroundings.readFile path with
    | .ok text => return text
    | .error error => throw (.fileRead path error)

/-- Runs the compiling command: the configuration is read before the input. -/
def compileCommand (surroundings : Surroundings m) (options : CompileOptions) :
    ExceptT CommandError m String := do
  let configured ← readFormat surroundings options
  let format := { configured with placeholder := options.placeholder.getD configured.placeholder }
  let text ← readTree surroundings options
  match compileText format text with
  | .ok fragment => return fragment.text options.json
  | .error error => throw error

/-- What the arguments behind the program's name print. -/
def runCommand (surroundings : Surroundings m) (arguments : List String) :
    ExceptT CommandError m String := do
  match Command.read arguments with
  | .error error => throw (.arguments error)
  | .ok (.help topic) => return topic.text
  | .ok (.compile options) => compileCommand surroundings options

end

end Criteria
