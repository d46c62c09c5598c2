import Criteria.Clause

namespace Criteria

/-- The first fault in the order of a level whose elements stand from `index` on. -/
def checkAlternation (index : Nat) : List Node → Except BuildError Unit
  | [] => pure ()
  | node :: rest => do
    checkPosition index node.isConnective
    checkAlternation (index + 1) rest

def checkShape (nodes : List Node) : Except BuildError Unit := do
  checkLength nodes.length
  checkAlternation 0 nodes

/-- A group asks for nothing if none of its entries is present. -/
def Group.term? (group : Group) : Except BuildError (Option Term) := do
  match ← group.conditions with
  | [] => return none
  | first :: rest => return some (.group first rest)

/-- A level by its operands that ask for something; no connective stands before the first. -/
def Clause.ofLinked? : List (Connective × Term) → Option Clause
  | [] => none
  | (_, first) :: rest => some ⟨first, rest⟩

def Clause.term (clause : Clause) : Term := .block clause.first clause.rest

mutual

/-- What an element of a level asks for, if anything. -/
def Node.term? : Node → Except BuildError (Option Term)
  | .group g => g.term?
  | .connective _ => pure none
  | .nested nodes => do
    checkShape nodes
    return (Clause.ofLinked? (← linkedTerms .and nodes)).map Clause.term

/-- The operands of a level that ask for something, each with the connective right before it;
`before` stands before the first element. -/
def linkedTerms (before : Connective) : List Node → Except BuildError (List (Connective × Term))
  | [] => pure []
  | .connective c :: rest => linkedTerms c rest
  | node :: rest => do
    let term ← node.term?
    let terms ← linkedTerms before rest
    return (term.map (before, ·)).toList ++ terms

end

namespace Where

/-- What a tree asks for, if anything. Every level is checked before its elements are visited, and
these from left to right; the first fault counts. -/
def clause? (tree : Where) : Except BuildError (Option Clause) := do
  checkShape tree.nodes
  return Clause.ofLinked? (← linkedTerms .and tree.nodes)

def template (tree : Where) (indent : Nat) : Except BuildError Template := do
  match ← tree.clause? with
  | some clause => return clause.template indent
  | none => return []

/-- The condition as text, with its bound values; `offset` values are bound before it. -/
def compile (tree : Where) (format : Format := {}) (offset : Nat := 0) :
    Except BuildError Fragment :=
  return (← tree.template format.indent).fragment format.placeholder offset

end Where

end Criteria
