import Criteria.Compilation

namespace Criteria

partial def readAll (stream : IO.FS.Stream) (done : ByteArray) : IO ByteArray := do
  let chunk ← stream.read 65536
  if chunk.isEmpty then return done else readAll stream (done ++ chunk)

/-- The number of a system error; some calls report it negated. -/
def errorNumber (code : UInt32) : UInt32 := if code < 0x80000000 then code else 0 - code

def readErrorOf : IO.Error → ReadError
  | .noFileOrDirectory .. => .notFound
  | .inappropriateType _ code details =>
    if errorNumber code = 20 then .notDirectory
    else if errorNumber code = 21 then .isDirectory
    else .other details
  | error => .other (toString error)

def readBytes (bytes : IO ByteArray) : IO (Except ReadError String) := do
  match ← bytes.toBaseIO with
  | .ok content => return decodeText content
  | .error error => return .error (readErrorOf error)

def standardSurroundings : Surroundings IO where
  readFile path := readBytes (IO.FS.readBinFile path)
  readInput := readBytes do readAll (← IO.getStdin) ByteArray.empty

end Criteria

open Criteria in
def main (arguments : List String) : IO UInt32 := do
  match ← (runCommand standardSurroundings arguments).run with
  | .ok text =>
    IO.println text
    return 0
  | .error error =>
    IO.eprintln error.message
    return 1
