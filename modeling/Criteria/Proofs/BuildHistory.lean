import Criteria.Session

namespace Criteria

namespace Step

def slot : Step → String
  | .create slot _ | .change slot _ | .copy slot _ | .build slot | .retrieve slot _ => slot

def isRevision : Step → Bool
  | .create .. | .change .. => true
  | .copy .. | .build _ | .retrieve .. => false

def isRetrieval : Step → Bool
  | .retrieve .. => true
  | .create .. | .change .. | .copy .. | .build _ => false

end Step

/-- What is logged of a statement when it is built. -/
def Statement.buildEvent (statement : Statement) : BuildEvent :=
  match statement.build with
  | .ok f => .built statement.kind f.params.length f.sql
  | .error error => .failed statement.kind error.message

/-! A history lists steps from the latest to the first. -/

/-- The statement that a history of one query arrives at: what it was created with, changed in
order. -/
def configuration : List Step → Option Statement
  | [] => none
  | .create _ statement :: _ => some statement
  | .change _ change :: past => (configuration past).map fun statement => statement.apply change
  | _ :: past => configuration past

/-- Whether a history of one query has a retrieval behind its latest revision. -/
def isRetrieved (history : List Step) : Bool :=
  (history.takeWhile fun step => !step.isRevision).any Step.isRetrieval

/-- The history of the query that is in a slot behind some steps. Creation begins it; before a copy,
it goes on in the slot that was copied, if there was a query. -/
def history (slot : String) : List Step → List Step
  | [] => []
  | .create target statement :: past =>
    if target = slot then [.create target statement] else history slot past
  | .copy source target :: past =>
    if target = slot ∧ (configuration (history source past)).isSome then history source past
    else history slot past
  | step :: past => if step.slot = slot then step :: history slot past else history slot past

/-- The query that a history arrives at: the statement, remembered with its build if that was
retrieved. -/
def arrival (history : List Step) : Option Query :=
  (configuration history).map fun statement =>
    ⟨statement, if isRetrieved history then some statement.build else none⟩

theorem arrival_create (slot : String) (statement : Statement) (past : List Step) :
    arrival (.create slot statement :: past) = some { statement } := rfl

theorem arrival_change (slot : String) (change : Change) (past : List Step) :
    arrival (.change slot change :: past) = (arrival past).map fun q => q.change change := by
  rw [arrival, arrival, configuration, Option.map_map, Option.map_map]
  rfl

theorem arrival_build (slot : String) (past : List Step) :
    arrival (.build slot :: past) = arrival past := rfl

theorem isSome_arrival (past : List Step) :
    (arrival past).isSome = (configuration past).isSome :=
  Option.isSome_map

theorem arrival_eq_some {past : List Step} {q : Query} (h : arrival past = some q) :
    configuration past = some q.statement ∧
      q.outcome = if isRetrieved past then some q.statement.build else none := by
  obtain ⟨statement, hs, rfl⟩ := Option.map_eq_some_iff.mp h
  exact ⟨hs, rfl⟩

theorem retrieve_of_arrival {past : List Step} {q : Query} (h : arrival past = some q) :
    q.retrieve = (q.statement.build,
      if isRetrieved past then [] else [q.statement.buildEvent],
      { q with outcome := some q.statement.build }) := by
  obtain ⟨statement, _, rfl⟩ := Option.map_eq_some_iff.mp h
  rw [Query.retrieve]
  cases isRetrieved past <;> rfl

theorem arrival_retrieve (slot : String) (retrieval : Retrieval) (past : List Step) :
    arrival (.retrieve slot retrieval :: past) = (arrival past).map fun q => q.retrieve.2.2 := by
  cases h : arrival past with
  | none =>
    rw [arrival, Option.map_eq_none_iff] at h
    rw [arrival, configuration, h]
    · rfl
    all_goals nofun
  | some q =>
    rw [Option.map_some, retrieve_of_arrival h, arrival, configuration, (arrival_eq_some h).1]
    · rfl
    all_goals nofun

namespace Session

theorem get?_step_create (session : Session) (target slot : String) (statement : Statement) :
    Keyed.get? (step session (.create target statement)).1 slot =
      if slot = target then some { statement } else Keyed.get? session slot :=
  Keyed.get?_insert session target slot _

def update (session : Session) (target : String) (f : Query → Query) : Session :=
  match Keyed.get? session target with
  | some q => Keyed.insert session target (f q)
  | none => session

theorem get?_update (session : Session) (target slot : String) (f : Query → Query) :
    Keyed.get? (session.update target f) slot =
      if target = slot then (Keyed.get? session slot).map f else Keyed.get? session slot := by
  rw [update]
  cases h : Keyed.get? session target with
  | none =>
    by_cases hs : target = slot
    · rw [if_pos hs, ← hs, h, Option.map_none]
    · rw [if_neg hs]
  | some q =>
    refine (Keyed.get?_insert session target slot (f q)).trans ?_
    by_cases hs : target = slot
    · rw [if_pos hs.symm, if_pos hs, ← hs, h, Option.map_some]
    · rw [if_neg (Ne.symm hs), if_neg hs]

theorem fst_step_change (session : Session) (target : String) (change : Change) :
    (step session (.change target change)).1 =
      session.update target fun q => q.change change := by
  rw [step, update]
  cases Keyed.get? session target <;> rfl

theorem fst_step_retrieve (session : Session) (target : String) (retrieval : Retrieval) :
    (step session (.retrieve target retrieval)).1 =
      session.update target fun q => q.retrieve.2.2 := by
  rw [step, update]
  cases Keyed.get? session target <;> rfl

theorem get?_step_copy (session : Session) (source target slot : String) :
    Keyed.get? (step session (.copy source target)).1 slot =
      if target = slot ∧ (Keyed.get? session source).isSome then Keyed.get? session source
      else Keyed.get? session slot := by
  rw [step]
  cases h : Keyed.get? session source with
  | none => simp
  | some q =>
    refine (Keyed.get?_insert session target slot q).trans ?_
    simp [eq_comm]

/-- Every slot holds the query that its history arrives at. -/
def Follows (session : Session) (past : List Step) : Prop :=
  ∀ slot, Keyed.get? session slot = arrival (history slot past)

theorem Follows.step {session : Session} {past : List Step} (h : session.Follows past)
    (s : Step) : (step session s).1.Follows (s :: past) := by
  intro slot
  -- each step is compared slot by slot: its own slot moves on, the others keep their history
  cases s with
  | create target statement =>
    rw [get?_step_create, history, h]
    by_cases hs : target = slot
    · rw [if_pos hs.symm, if_pos hs, arrival_create]
    · rw [if_neg (Ne.symm hs), if_neg hs]
  | change target change =>
    have hh : history slot (.change target change :: past) =
        if target = slot then .change target change :: history slot past
        else history slot past := rfl
    rw [fst_step_change, get?_update, hh, h]
    split
    next => rw [arrival_change]
    next => rfl
  | copy source target =>
    -- the copied query brings its memory along, and its history with it
    rw [get?_step_copy, history, h, h, isSome_arrival]
    split <;> rfl
  | build target =>
    have hh : history slot (.build target :: past) =
        if target = slot then .build target :: history slot past else history slot past := rfl
    rw [hh]
    split
    next => exact (h slot).trans (arrival_build target _).symm
    next => exact h slot
  | retrieve target retrieval =>
    have hh : history slot (.retrieve target retrieval :: past) =
        if target = slot then .retrieve target retrieval :: history slot past
        else history slot past := rfl
    rw [fst_step_retrieve, get?_update, hh, h]
    split
    next => rw [arrival_retrieve]
    next => rfl

theorem Follows.run {session : Session} {past : List Step} (h : session.Follows past)
    (steps : List Step) : (run session steps).1.Follows (steps.reverse ++ past) := by
  induction steps generalizing session past with
  | nil => exact h
  | cons s steps ih =>
    rw [List.reverse_cons, List.append_assoc]
    exact ih (h.step s)

theorem follows_run_empty (steps : List Step) : (run {} steps).1.Follows steps.reverse := by
  have h : Follows {} [] := fun slot => rfl
  have hr := h.run steps
  rwa [List.append_nil] at hr

theorem run_cons (session : Session) (s : Step) (steps : List Step) :
    run session (s :: steps) =
      ((run (step session s).1 steps).1, (step session s).2 :: (run (step session s).1 steps).2) :=
  rfl

theorem run_append (session : Session) (steps later : List Step) :
    run session (steps ++ later) =
      ((run (run session steps).1 later).1,
        (run session steps).2 ++ (run (run session steps).1 later).2) := by
  induction steps generalizing session with
  | nil => rfl
  | cons s steps ih => rw [List.cons_append, run_cons, run_cons, ih, List.cons_append]

theorem length_run (session : Session) (steps : List Step) :
    (run session steps).2.length = steps.length := by
  induction steps generalizing session with
  | nil => rfl
  | cons s steps ih => rw [run_cons, List.length_cons, ih, List.length_cons]

theorem run_getElem? (session : Session) (before after : List Step) (s : Step) :
    (run session (before ++ s :: after)).2[before.length]? =
      some (step (run session before).1 s).2 := by
  rw [run_append, run_cons, ← length_run session before,
    List.getElem?_append_right (Nat.le_refl _), Nat.sub_self, List.getElem?_cons_zero]

theorem Follows.snd_step_retrieve {session : Session} {past : List Step}
    (h : session.Follows past) (slot : String) (retrieval : Retrieval) :
    (session.step (.retrieve slot retrieval)).2 =
      (configuration (history slot past)).map fun statement =>
        { outcome := statement.build
          events := if isRetrieved (history slot past) then [] else [statement.buildEvent]
          retrieval } := by
  rw [Session.step, h slot]
  cases ha : arrival (history slot past) with
  | none => rw [Option.map_eq_none_iff.mp ha, Option.map_none]
  | some q =>
    dsimp only
    rw [(arrival_eq_some ha).1, retrieve_of_arrival ha, Option.map_some]

theorem Follows.snd_step_build {session : Session} {past : List Step}
    (h : session.Follows past) (slot : String) :
    (session.step (.build slot)).2 =
      (configuration (history slot past)).map fun statement =>
        { outcome := statement.build, events := [] } := by
  rw [Session.step, h slot, arrival, Option.map_map]
  rfl

/-- Every retrieval answers with the build of the statement that the history of its query arrives
at. It logs that build, once, if none was retrieved since the latest revision. A build that is asked
for otherwise answers with the same, logs nothing, and changes neither the session nor any other
answer. -/
theorem run_answers (before after : List Step) (slot : String) :
    (∀ retrieval, (run {} (before ++ .retrieve slot retrieval :: after)).2[before.length]? =
      some ((configuration (history slot before.reverse)).map fun statement =>
        { outcome := statement.build
          events := if isRetrieved (history slot before.reverse) then []
            else [statement.buildEvent]
          retrieval })) ∧
    (run {} (before ++ .build slot :: after)).2[before.length]? =
      some ((configuration (history slot before.reverse)).map fun statement =>
        { outcome := statement.build, events := [] }) ∧
    (run {} (before ++ .build slot :: after)).1 = (run {} (before ++ after)).1 ∧
    (run {} (before ++ .build slot :: after)).2.eraseIdx before.length =
      (run {} (before ++ after)).2 := by
  have hf := follows_run_empty before
  refine ⟨fun retrieval => ?_, ?_, ?_, ?_⟩
  · rw [run_getElem?, hf.snd_step_retrieve]
  · rw [run_getElem?, hf.snd_step_build]
  · rw [run_append, run_append]
    rfl
  · rw [run_append, run_append, run_cons, ← length_run {} before,
      List.eraseIdx_append_of_length_le (Nat.le_refl _), Nat.sub_self]
    rfl

/-- A copy remembers what was built before it, until either of the two is changed. -/
example :
    (run {} [.create "q" (.delete { table := "fruits" }), .retrieve "q" .sql, .copy "q" "r",
      .retrieve "r" .params, .change "r" (.format {}), .retrieve "r", .retrieve "q"]).2.map
        (Option.map fun answer => answer.events.length) =
      [some 0, some 1, some 0, some 0, some 0, some 1, some 0] := by
  rfl

end Session

end Criteria
