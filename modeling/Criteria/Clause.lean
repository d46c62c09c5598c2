import Criteria.Condition

namespace Criteria

/-- An operand of a level that asks for something: the conditions of a group, or a nested level,
whose first operand is followed by the others with the connectives before them. -/
inductive Term where
  | group (first : Condition) (rest : List Condition)
  | block (first : Term) (rest : List (Connective × Term))

/-- The outermost level of a condition tree that asks for something. -/
structure Clause where
  first : Term
  rest : List (Connective × Term)

def blanks (n : Nat) : String := String.ofList (List.replicate n ' ')

/-- The conditions of a group; several stand in parentheses. -/
def groupTemplate (first : Condition) (rest : List Condition) : Template :=
  if rest.isEmpty then first.template
  else (Template.joined " AND " ((first :: rest).map Condition.template)).parenthesised

mutual

/-- A term on a level with `depth` levels around it. A nested level stands on lines of its own. -/
def Term.template (indent depth : Nat) : Term → Template
  | .group first rest => groupTemplate first rest
  | .block first rest =>
    .text ("(\n" ++ blanks (indent * (depth + 1))) ::
      (first.template indent (depth + 1) ++ linkedTemplate indent (depth + 1) rest ++
        [.text ("\n" ++ blanks (indent * depth) ++ ")")])

def linkedTemplate (indent depth : Nat) : List (Connective × Term) → Template
  | [] => []
  | (c, term) :: rest =>
    .text c.separator :: (term.template indent depth ++ linkedTemplate indent depth rest)

end

def Clause.template (indent : Nat) (clause : Clause) : Template :=
  clause.first.template indent 0 ++ linkedTemplate indent 0 clause.rest

end Criteria
