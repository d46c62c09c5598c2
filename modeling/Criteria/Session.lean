import Criteria.Query

namespace Criteria

/-- Queries under the names of their slots. -/
abbrev Session := Keyed Query

/-- One use of the queries of a session. -/
inductive Step where
  | create (slot : String) (statement : Statement)
  | change (slot : String) (change : Change)
  | copy (slot target : String)
  | build (slot : String)
  | retrieve (slot : String) (retrieval : Retrieval := .built)

/-- The outcome of a build that a step answers with, what it logs, and which part of the outcome it
hands out. -/
structure Answer where
  outcome : Except BuildError Fragment
  events : List BuildEvent
  retrieval : Retrieval := .built

def Answer.result (answer : Answer) : Except BuildError answer.retrieval.Part :=
  answer.outcome.map answer.retrieval.part

namespace Session

/-- Puts a query into a slot; the answer is a build of it that nothing remembers. -/
def put (session : Session) (slot : String) (query : Query) : Session × Option Answer :=
  (Keyed.insert session slot query, some { outcome := query.statement.build, events := [] })

/-- A step on an empty slot does nothing and has no answer. A copy takes along what was built. -/
def step (session : Session) : Step → Session × Option Answer
  | .create slot statement => put session slot { statement }
  | .change slot change =>
    match Keyed.get? session slot with
    | some query => put session slot (query.change change)
    | none => (session, none)
  | .copy slot target =>
    match Keyed.get? session slot with
    | some query => put session target query
    | none => (session, none)
  | .build slot =>
    (session, (Keyed.get? session slot).map fun query =>
      { outcome := query.statement.build, events := [] })
  | .retrieve slot retrieval =>
    match Keyed.get? session slot with
    | some query =>
      let (outcome, events, query) := query.retrieve
      (Keyed.insert session slot query, some { outcome, events, retrieval })
    | none => (session, none)

/-- The answers of steps in order. -/
def run (session : Session) : List Step → Session × List (Option Answer)
  | [] => (session, [])
  | s :: steps =>
    let (session, answer) := step session s
    let (session, answers) := run session steps
    (session, answer :: answers)

end Session

end Criteria
