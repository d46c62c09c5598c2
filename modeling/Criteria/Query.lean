import Criteria.Statement

namespace Criteria

/-- What is logged when a statement is built for the first time. -/
inductive BuildEvent where
  | built (kind : StatementKind) (paramCount : Nat) (sql : String)
  | failed (kind : StatementKind) (error : String)
  deriving DecidableEq

/-- What a retrieval hands out of a statement that was built: all of it, its text, its bound values,
or text and values side by side. -/
inductive Retrieval where
  | built
  | sql
  | params
  | pair
  deriving DecidableEq

/-- A statement that remembers the outcome of its first build, failures included. -/
structure Query where
  statement : Statement
  outcome : Option (Except BuildError Fragment) := none

def BuildEvent.ofOutcome (kind : StatementKind) : Except BuildError Fragment → BuildEvent
  | .ok fragment => .built kind fragment.params.length fragment.sql
  | .error error => .failed kind error.message

namespace Retrieval

def Part : Retrieval → Type
  | .built => Fragment
  | .sql => String
  | .params => List Value
  | .pair => String × List Value

def part : (r : Retrieval) → Fragment → r.Part
  | .built, f => f
  | .sql, f => f.sql
  | .params, f => f.params
  | .pair, f => (f.sql, f.params)

end Retrieval

namespace Query

/-- Changes the statement and forgets what was built from it. -/
def change (q : Query) (change : Change) : Query := { statement := q.statement.apply change }

/-- The outcome of the build, the events of getting it, and the query that remembers it. -/
def retrieve (q : Query) : Except BuildError Fragment × List BuildEvent × Query :=
  match q.outcome with
  | some outcome => (outcome, [], q)
  | none =>
    let outcome := q.statement.build
    (outcome, [.ofOutcome q.statement.kind outcome], { q with outcome := some outcome })

end Query

end Criteria
