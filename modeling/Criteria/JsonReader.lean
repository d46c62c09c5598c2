import Criteria.JsonToken

namespace Criteria

/-- A container that is being read, with what it holds so far, last first; in an object the value
of `key` comes next. -/
inductive JsonFrame where
  | array (done : List Json)
  | object (done : List (String × Json)) (key : String)

namespace Json

/-- The number of containers that may be open at once. -/
def maxDepth : Nat := 127

mutual

/-- Reads a value inside the open `frames`, and on to the end of the outermost one; the tokens
behind it are left. -/
def readValue (frames : List JsonFrame) : List JsonToken → Option (Json × List JsonToken)
  | .literal value :: rest => resume value frames rest
  | .string s :: rest => resume (.string s) frames rest
  | .openArray :: .closeArray :: rest =>
    if frames.length < maxDepth then resume (.array []) frames rest else none
  | .openObject :: .closeObject :: rest =>
    if frames.length < maxDepth then resume (.object []) frames rest else none
  | .openObject :: .string key :: .colon :: rest =>
    if frames.length < maxDepth then readValue (.object [] key :: frames) rest else none
  | .openArray :: rest =>
    if frames.length < maxDepth then readValue (.array [] :: frames) rest else none
  | _ => none

/-- Goes on behind `value`, which belongs to the innermost frame. -/
def resume (value : Json) : List JsonFrame → List JsonToken → Option (Json × List JsonToken)
  | [], rest => some (value, rest)
  | .array done :: frames, .comma :: rest => readValue (.array (value :: done) :: frames) rest
  | .array done :: frames, .closeArray :: rest =>
    resume (.array (value :: done).reverse) frames rest
  | .object done key :: frames, .comma :: .string next :: .colon :: rest =>
    readValue (.object ((key, value) :: done) next :: frames) rest
  | .object done key :: frames, .closeObject :: rest =>
    resume (.object ((key, value) :: done).reverse) frames rest
  | _, _ => none

end

/-- The value at the start of a text, and whether nothing but blanks follows it. -/
def readFirst? (text : String) : Option (Json × Bool) :=
  (readValue [] (JsonToken.ofText text)).map fun (value, rest) => (value, rest.isEmpty)

/-- The value that a whole text holds. -/
def read? (text : String) : Option Json :=
  match readFirst? text with
  | some (value, true) => some value
  | _ => none

end Json

end Criteria
