import Criteria.Template
import Criteria.Tree

namespace Criteria

/-- A comparison of a column with one bound value. -/
inductive Comparison where
  | eq
  | ne
  | lt
  | le
  | gt
  | ge
  | like
  | notLike
  deriving DecidableEq

def Comparison.symbol : Comparison → String
  | .eq => "="
  | .ne => "!="
  | .lt => "<"
  | .le => "<="
  | .gt => ">"
  | .ge => ">="
  | .like => "LIKE"
  | .notLike => "NOT LIKE"

/-- A test of a row without AND and OR. -/
inductive Atom where
  | compare (column : String) (comparison : Comparison) (value : Value)
  | isNull (column : String) (negated : Bool)
  | isIn (column : String) (negated : Bool) (values : List Value)
  /-- Two numerals compared for equality; two different ones make a test that no row passes. -/
  | numerals (left right : Nat)
  deriving DecidableEq

/-- A condition on one column: a test, or tests joined in parentheses. -/
inductive Condition where
  | atom (atom : Atom)
  | joined (connective : Connective) (atoms : List Atom)
  deriving DecidableEq

def Atom.template : Atom → Template
  | .compare column comparison value =>
    [.text (column ++ " " ++ comparison.symbol ++ " "), .bound value]
  | .isNull column negated => [.text (column ++ if negated then " IS NOT NULL" else " IS NULL")]
  | .isIn column negated values =>
    .text (column ++ if negated then " NOT IN (" else " IN (") ::
      Template.joined ", " (values.map fun value => [.bound value]) ++ [.text ")"]
  | .numerals left right => [.text s!"{left}={right}"]

def Connective.separator (c : Connective) : String := " " ++ c.keyword ++ " "

def Condition.template : Condition → Template
  | .atom a => a.template
  | .joined c atoms => (Template.joined c.separator (atoms.map Atom.template)).parenthesised

namespace ConditionKey

/-- A list holds one alternative after the other; its negation excludes them all. -/
def alternatives (key : ConditionKey) : Connective := if key.negated then .and else .or

def isNull (key : ConditionKey) : Atom := .isNull key.column key.negated

/-- Equal to the value, or to one of the list. Null is tested for by itself, and nothing is equal to
one of an empty list. -/
def equality (key : ConditionKey) : Operand → Condition
  | .scalar .null => .atom key.isNull
  | .scalar value => .atom (.compare key.column (if key.negated then .ne else .eq) value)
  | .list [] => .atom (.numerals 1 0)
  | .list values =>
    let present := values.filter fun value => !value.isNull
    let isIn : Atom := .isIn key.column key.negated present
    if present.isEmpty then .atom key.isNull
    else if present.length = values.length then .atom isIn
    else .joined key.alternatives [key.isNull, isIn]

/-- Like the value, or like one of the list. -/
def likeness (key : ConditionKey) : Operand → Condition
  | .scalar .null => .atom key.isNull
  | .scalar value => .atom (.compare key.column (if key.negated then .notLike else .like) value)
  | .list [] => .atom (.numerals 1 2)
  | .list values =>
    let present := values.filter fun value => !value.isNull
    let tests := present.map (.compare key.column (if key.negated then .notLike else .like))
    .joined key.alternatives
      (if present.length = values.length then tests else tests ++ [key.isNull])

/-- On one side of the value, or of every value of the list. Null has no sides. -/
def ordering (key : ConditionKey) (comparison : Comparison) :
    Operand → Except BuildError Condition
  | .scalar value =>
    if value.isNull then throw (.nullComparison key.column key.operator key.negated)
    else pure (.atom (.compare key.column comparison value))
  | .list values =>
    if values.any Value.isNull then throw (.nullComparison key.column key.operator key.negated)
    else if values.isEmpty then pure (.atom (.numerals 0 2))
    else pure (.joined .and (values.map (.compare key.column comparison)))

/-- Between the two values of the list, or outside them. -/
def bounds (key : ConditionKey) : Operand → Except BuildError Condition
  | .list [low, high] =>
    if low.isNull ∨ high.isNull then throw (.nullComparison key.column key.operator key.negated)
    else if key.negated then
      pure (.joined .or [.compare key.column .lt low, .compare key.column .gt high])
    else pure (.joined .and [.compare key.column .ge low, .compare key.column .le high])
  | _ => throw (.operatorArity key.column key.negated)

/-- What a key asks of its operand. -/
def condition (key : ConditionKey) (operand : Operand) : Except BuildError Condition :=
  match key.operator with
  | .equal => pure (key.equality operand)
  | .like => pure (key.likeness operand)
  | .between => key.bounds operand
  | .less => key.ordering .lt operand
  | .lessEqual => key.ordering .le operand
  | .greater => key.ordering .gt operand
  | .greaterEqual => key.ordering .ge operand

end ConditionKey

/-- The conditions of a group, in order. -/
def Group.conditions (group : Group) : Except BuildError (List Condition) :=
  group.present.mapM fun (key, operand) => (ConditionKey.ofText key).condition operand

end Criteria
