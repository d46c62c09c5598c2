import Criteria.JsonWriter
import Criteria.Keyed
import Criteria.QuotedText

namespace Criteria

/-- A value that a statement binds to a placeholder. -/
inductive Value where
  | null
  | int (n : Int64)
  | float (x : Binary64)
  | text (s : String)
  deriving DecidableEq

/-- Columns with their values, in order. -/
abbrev Row := Keyed Value

namespace Value

instance : Inhabited Value := ⟨.null⟩

instance : Coe Int8 Value := ⟨fun n => .int n.toInt64⟩

instance : Coe Int16 Value := ⟨fun n => .int n.toInt64⟩

instance : Coe Int32 Value := ⟨fun n => .int n.toInt64⟩

instance : Coe Int64 Value := ⟨.int⟩

instance : Coe UInt8 Value := ⟨fun n => .int n.toUInt64.toInt64⟩

instance : Coe UInt16 Value := ⟨fun n => .int n.toUInt64.toInt64⟩

instance : Coe UInt32 Value := ⟨fun n => .int n.toUInt64.toInt64⟩

instance : Coe Binary32 Value := ⟨fun x => .float x.widen⟩

instance : Coe Binary64 Value := ⟨.float⟩

instance : Coe String Value := ⟨.text⟩

/-- Nothing is bound as null. -/
def ofOption : Option Value → Value
  | some value => value
  | none => .null

def isNull : Value → Bool
  | .null => true
  | _ => false

/-- Equality as values of a database: numbers of one kind compare as numbers. -/
def same : Value → Value → Bool
  | .null, .null => true
  | .int a, .int b => a == b
  | .float a, .float b => a.same b
  | .text a, .text b => a == b
  | _, _ => false

/-- Numbers for people: never an exponent, no point behind a whole number. -/
def displayStyle : NumberStyle := ⟨.up, fun _ => true, false⟩

def displayFloat : Binary64 → String
  | .nan => "NaN"
  | .infinite negative => if negative then "-inf" else "inf"
  | .finite negative rank => String.ofList (displayStyle.finiteText .double negative rank)

def display : Value → String
  | .null => "NULL"
  | .int n => String.ofList (integerText n.toInt)
  | .float x => displayFloat x
  | .text s => quoted s

/-- The value as it is handed to a database driver; a number that is not finite has no JSON text and
becomes null. -/
def toJson : Value → Json
  | .null => .null
  | .int n => .number (.integer n.toInt)
  | .float (.finite negative rank) => .number (.real (.finite negative rank))
  | .float _ => .null
  | .text s => .string s

/-- An integer that does not fit sixty-four bits with a sign becomes the nearest floating-point
number. -/
def ofNumber : JsonNumber → Value
  | .integer n =>
    if Int64.minValue.toInt ≤ n ∧ n ≤ Int64.maxValue.toInt then .int (Int64.ofInt n)
    else .float (.ofRatio .double (n < 0) n.natAbs 1)
  | .real x => .float x

/-- The scalar that a JSON value holds. -/
def ofJson? : Json → Option Value
  | .null => some .null
  | .number n => some (ofNumber n)
  | .string s => some (.text s)
  | _ => none

/-- A list of values as one JSON array. -/
def listJson (values : List Value) : Json := .array (values.map toJson)

/-- The values of a JSON array of scalars. -/
def listOfJson? : Json → Option (List Value)
  | .array items => items.mapM ofJson?
  | _ => none

end Value

end Criteria
