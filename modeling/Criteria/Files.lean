namespace Criteria

/-- Why a text cannot be read. -/
inductive ReadError where
  | notFound
  | isDirectory
  | notDirectory
  | notText
  | other (message : String)
  deriving DecidableEq

def ReadError.message : ReadError → String
  | .notFound => "No such file or directory (os error 2)"
  | .isDirectory => "Is a directory (os error 21)"
  | .notDirectory => "Not a directory (os error 20)"
  | .notText => "stream did not contain valid UTF-8"
  | .other message => message

/-- Whether nothing stands under the path. -/
def ReadError.isAbsence : ReadError → Bool
  | .notFound | .notDirectory => true
  | _ => false

/-- The text that bytes encode. -/
def decodeText (bytes : ByteArray) : Except ReadError String :=
  match String.fromUTF8? bytes with
  | some text => pure text
  | none => throw .notText

/-- The places a command reads from: files by their paths, and standard input. -/
structure Surroundings (m : Type → Type) where
  readFile : String → m (Except ReadError String)
  readInput : m (Except ReadError String)

end Criteria
