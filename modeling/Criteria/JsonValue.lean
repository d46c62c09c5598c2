import Criteria.NumberText

namespace Criteria

/-- A number of a JSON text: integers within `-2 ^ 63` and `2 ^ 64` are kept as such. -/
inductive JsonNumber where
  | integer (n : Int)
  | real (x : Binary64)
  deriving DecidableEq

/-- A JSON value. Members of an object keep their order and their repeats. -/
inductive Json where
  | null
  | bool (b : Bool)
  | number (n : JsonNumber)
  | string (s : String)
  | array (items : List Json)
  | object (members : List (String × Json))

namespace Json

instance : Inhabited Json := ⟨.null⟩

def isString : Json → Bool
  | .string _ => true
  | _ => false

end Json

end Criteria
