import Criteria.ConditionKey
import Criteria.JsonWriter
import Criteria.QuotedText

namespace Criteria

/-- How a condition tree misses its shape. -/
inductive ShapeFault where
  | notArray
  | evenLength
  | missingConnective (index : Nat)
  | misplacedConnective (index : Nat)
  | wrapping (index count : Nat)
  | unknownElement (index : Nat) (element : Json)

/-- Why a JSON value is no value of a condition. -/
inductive ValueFault where
  | boolean (b : Bool)
  | nestedList
  | object
  | nullOption

/-- What a statement lacks. -/
inductive MissingData where
  | table
  | assignments
  | rows
  | columnLists
  | columns
  | values

/-- How rows to insert differ in shape. -/
inductive RowFault where
  | columns (index : Nat) (found expected : List String)
  | width (index found expected : Nat)

inductive BuildError where
  | shape (fault : ShapeFault)
  | connective (text : String)
  | operatorArity (column : String) (negated : Bool)
  | nullComparison (column : String) (operator : Operator) (negated : Bool)
  | identifier (role name : String)
  | missingData (missing : MissingData)
  | shapeMismatch (fault : RowFault)
  | invalidValue (column : String) (fault : ValueFault)

def ShapeFault.message : ShapeFault → String
  | .notArray => "WHERE should be an array"
  | .evenLength => "WHERE should be an array with odd items count"
  | .missingConnective index => s!"element at index {index} should be and/or"
  | .misplacedConnective index => s!"element at index {index} should not be and/or"
  | .wrapping index count =>
    s!"element at index {index} should wrap exactly one nested WHERE, got {count} items"
  | .unknownElement index element =>
    s!"element at index {index} should be a group, a nested WHERE or and/or, got " ++
      element.compact

def ValueFault.message : ValueFault → String
  | .boolean b => s!"got boolean {b}, expected text, number or null"
  | .nestedList => "arrays can only hold text, number or null"
  | .object => "objects are not valid condition values"
  | .nullOption => "OPTION values can only be strings or numbers"

def MissingData.message : MissingData → String
  | .table => "SELECT needs a FROM table"
  | .assignments => "UPDATE needs at least one SET column"
  | .rows => "nothing to insert"
  | .columnLists => "no columns given"
  | .columns => "rows have no columns"
  | .values => "no values given"

def RowFault.message : RowFault → String
  | .columns index found expected =>
    s!"row {index} has columns (" ++ ", ".intercalate found ++ "), expected (" ++
      ", ".intercalate expected ++ ")"
  | .width index found expected => s!"value row {index} has {found} values for {expected} columns"

/-- What a comparison with null is called. -/
def Operator.comparisonName : Operator → Bool → String
  | .less, _ => "less than"
  | .lessEqual, _ => "less than or equal to"
  | .greater, _ => "greater than"
  | .greaterEqual, _ => "greater than or equal to"
  | .between, false => "between"
  | .between, true => "not between"
  | .equal, _ | .like, _ => "compared to"

namespace BuildError

def message : BuildError → String
  | .shape fault => "Malformed WHERE: " ++ fault.message
  | .connective text => "Unknown connective found in WHERE: " ++ quoted text
  | .operatorArity column negated =>
    (if negated then "NOT BETWEEN" else "BETWEEN") ++ s!" on '{column}' requires a 2 elements array"
  | .nullComparison column operator negated =>
    s!"Cannot check if '{column}' is " ++ operator.comparisonName negated ++ " NULL"
  | .identifier role name =>
    s!"Invalid identifier '{name}': {role} can only contain a-z 0-9 _ characters"
  | .missingData missing => "No data found: " ++ missing.message
  | .shapeMismatch fault =>
    "Data array should have all objects in the same shape: " ++ fault.message
  | .invalidValue column fault => s!"Invalid value for '{column}': " ++ fault.message

/-- Whether the structure of a condition tree is at fault. -/
def isShape : BuildError → Bool
  | .shape _ | .connective _ => true
  | _ => false

def isNullComparison : BuildError → Bool
  | .nullComparison .. => true
  | _ => false

end BuildError

end Criteria
