namespace Criteria

/-- What a condition compares for. -/
inductive Operator where
  | equal
  | like
  | less
  | lessEqual
  | greater
  | greaterEqual
  | between
  deriving DecidableEq

namespace Operator

def symbol : Operator → String
  | .equal => "="
  | .like => "LIKE"
  | .less => "<"
  | .lessEqual => "<="
  | .greater => ">"
  | .greaterEqual => ">="
  | .between => "BETWEEN"

/-- The operator at the start of a key without negation, and the column behind it; of two marks that
fit, the longer one counts. -/
def ofMark : List Char → Operator × List Char
  | '%' :: column => (.like, column)
  | '<' :: '>' :: column => (.between, column)
  | '<' :: '=' :: column => (.lessEqual, column)
  | '<' :: column => (.less, column)
  | '>' :: '=' :: column => (.greaterEqual, column)
  | '>' :: column => (.greater, column)
  | column => (.equal, column)

end Operator

/-- A key of a condition group, read: the column, what it is compared for, and whether the outcome
is negated. -/
structure ConditionKey where
  column : String
  operator : Operator
  negated : Bool
  deriving DecidableEq

namespace ConditionKey

/-- The opposite condition: an order comparison turns into the one that holds otherwise, any other
operator is negated. -/
def complement (key : ConditionKey) : ConditionKey :=
  match key.operator with
  | .less => { key with operator := .greaterEqual }
  | .lessEqual => { key with operator := .greater }
  | .greater => { key with operator := .lessEqual }
  | .greaterEqual => { key with operator := .less }
  | .equal | .like | .between => { key with negated := !key.negated }

def ofPlainChars (cs : List Char) : ConditionKey :=
  ⟨String.ofList (Operator.ofMark cs).2, (Operator.ofMark cs).1, false⟩

def ofChars : List Char → ConditionKey
  | '!' :: cs => (ofPlainChars cs).complement
  | cs => ofPlainChars cs

/-- An exclamation mark asks for the complement of the key behind it. -/
def ofText (key : String) : ConditionKey := ofChars key.toList

end ConditionKey

end Criteria
