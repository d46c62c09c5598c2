import Criteria.Proofs.ConditionText
import Criteria.Proofs.FilterRetention

namespace Criteria

def Node.renders (node : Node) : Bool :=
  match (Where.mk [node]).compile with
  | .ok f => !f.isEmpty
  | .error _ => false

/-- The runs of operands joined by AND, each as long as it can be; `run` is open before them. -/
def runsBehind {α : Type} (run : List α) : List (Connective × α) → List (List α)
  | [] => [run]
  | (.and, a) :: rest => runsBehind (run ++ [a]) rest
  | (.or, a) :: rest => run :: runsBehind [a] rest

/-- The maximal runs of operands joined by AND; the connective of the first operand joins nothing
on its level. -/
def runs {α : Type} : List (Connective × α) → List (List α)
  | [] => []
  | (_, a) :: rest => runsBehind [a] rest

/-- Some run of a level holds throughout. -/
def Truth.level (operands : List (Connective × Truth)) : Truth := any ((runs operands).map all)

section

variable (test : String × Operand → Truth)

mutual

/-- The outcome of an element of a level, from the outcomes of its present entries. -/
def Node.truth : Node → Truth
  | .group g => .all (g.present.map test)
  | .connective _ => .yes
  | .nested nodes => .level (operandTruths .and nodes)

/-- The outcomes of the operands of a level that render something, each with the connective right
before it; `before` stands before the first element. -/
def operandTruths (before : Connective) : List Node → List (Connective × Truth)
  | [] => []
  | .connective c :: rest => operandTruths c rest
  | node :: rest =>
    if node.renders then (before, node.truth) :: operandTruths before rest
    else operandTruths before rest

end

def Where.truth (tree : Where) : Truth := .level (operandTruths test .and tree.nodes)

end

namespace Level

variable (test : Atom → Truth)

def endedTruth (level : Level) : Truth := (level.ended.map (Expression.truth test)).getD .no

theorem truth_expression (level : Level) :
    level.expression.truth test = (level.endedTruth test).or (level.run.truth test) := by
  obtain ⟨ended, run⟩ := level
  cases ended <;> rfl

theorem truth_joinAll (level : Level) (links : List (Connective × Expression)) {run : List Truth}
    (hr : level.run.truth test = .all run) :
    (level.joinAll links).expression.truth test =
      (level.endedTruth test).or
        (.any ((runsBehind run (links.map fun link => (link.1, link.2.truth test))).map .all)) := by
  induction links generalizing level run with
  | nil => simp [joinAll, truth_expression, runsBehind, hr]
  | cons link links ih =>
    obtain ⟨c, e⟩ := link
    cases c with
    | and =>
      have hn : (level.join .and e).run.truth test = .all (run ++ [e.truth test]) := by
        simp [join, Expression.truth, Truth.all_append, hr]
      exact ih (level.join .and e) hn
    | or =>
      have hn : (level.join .or e).run.truth test = .all [e.truth test] := by
        simp [join]
      have he : (level.join .or e).endedTruth test = level.expression.truth test := rfl
      rw [List.map_cons, runsBehind, List.map_cons, Truth.any_cons, ← Truth.or_assoc, ← hr,
        ← truth_expression, ← he]
      exact ih (level.join .or e) hn

/-- A level is the disjunction of its maximal runs. -/
theorem truth_level (c : Connective) (e : Expression) (links : List (Connective × Expression)) :
    ((start e).joinAll links).expression.truth test =
      .level (((c, e) :: links).map fun link => (link.1, link.2.truth test)) := by
  have hr : (start e).run.truth test = .all [e.truth test] := by
    simp [start]
  exact truth_joinAll test (start e) links hr

end Level

theorem runsBehind_and {α : Type} (run as : List α) :
    runsBehind run (as.map fun a => (.and, a)) = [run ++ as] := by
  induction as generalizing run with
  | nil => simp [runsBehind]
  | cons a as ih => simp [runsBehind, ih]

theorem Level.truth_conjunction (test : Atom → Truth) (e : Expression) (es : List Expression) :
    ((start e).joinAll (es.map fun e => (.and, e))).expression.truth test =
      .all ((e :: es).map (Expression.truth test)) := by
  have hl : ((.and, e) :: es.map fun e => (Connective.and, e)).map
      (fun link => (link.1, link.2.truth test)) =
      (.and, e.truth test) :: (es.map (Expression.truth test)).map fun a => (.and, a) := by
    simp
  rw [truth_level test .and, hl, Truth.level, runs, runsBehind_and]
  simp

theorem runsBehind_or {α : Type} (a : α) (as : List α) :
    runsBehind [a] (as.map fun b => (.or, b)) = (a :: as).map fun b => [b] := by
  induction as generalizing a with
  | nil => rfl
  | cons b as ih =>
    rw [List.map_cons, runsBehind, ih]
    rfl

theorem Level.truth_disjunction (test : Atom → Truth) (e : Expression) (es : List Expression) :
    ((start e).joinAll (es.map fun e => (.or, e))).expression.truth test =
      .any ((e :: es).map (Expression.truth test)) := by
  have hl : ((.or, e) :: es.map fun e => (Connective.or, e)).map
      (fun link => (link.1, link.2.truth test)) =
      (.or, e.truth test) :: (es.map (Expression.truth test)).map fun a => (.or, a) := by
    simp
  have hall : (fun a => Truth.all [a]) = id := by
    funext a
    exact Truth.and_yes a
  rw [truth_level test .or, hl, Truth.level, runs, runsBehind_or, List.map_map]
  change Truth.any (List.map (fun a => Truth.all [a]) _) = _
  rw [hall, List.map_id, List.map_cons]

theorem Where.clause?_singleton {node : Node} {term : Option Term}
    (hn : ∀ c, node = .connective c → False) (h : node.term? = .ok term) :
    (Where.mk [node]).clause? = .ok (term.map fun t => ⟨t, []⟩) := by
  have hs : checkShape [node] = .ok () := by
    cases node with
    | connective c => exact absurd rfl (hn c)
    | _ => rfl
  rw [Where.clause?, hs, linkedTerms.eq_3 _ _ _ hn, h, linkedTerms]
  cases term <;> rfl

/-- An operand renders something exactly if it asks for something. -/
theorem Node.renders_eq {node : Node} {term : Option Term}
    (hn : ∀ c, node = .connective c → False) (h : node.term? = .ok term) :
    node.renders = term.isSome := by
  have hc := Where.compile_of_clause? (Where.clause?_singleton hn h) {} 0
  rw [renders, hc]
  cases term with
  | none => rfl
  | some t =>
    have hne := (Clause.startsWithText 4 ⟨t, []⟩).sql_ne_empty .question 0
    simpa [Fragment.isEmpty, Template.fragment] using hne

def PlainEntry (entry : String × Operand) : Prop :=
  IsPlainColumn (ConditionKey.ofText entry.1).column

section

variable {own : String × Operand → Expression}
  (hown : ∀ entry c, entryCondition entry = .ok c → PlainEntry entry →
    FactorText c.template (own entry))

include hown

theorem factorText_conditions {entries : List (String × Operand)} {conditions : List Condition}
    (h : entries.mapM entryCondition = .ok conditions) (hp : ∀ entry ∈ entries, PlainEntry entry) :
    List.Forall₂ (fun c e => FactorText c.template e) conditions (entries.map own) := by
  have pairs := forall₂_of_mapM_ok h
  clear h
  induction pairs with
  | nil => exact .nil
  | @cons entry c entries conditions hc _ ih =>
    exact .cons (hown entry c hc (hp entry List.mem_cons_self))
      (ih fun entry he => hp entry (List.mem_cons_of_mem _ he))

/-- The texts of a tree read as expressions with the outcomes of its elements and levels. -/
theorem exists_reading :
    (∀ (node : Node) (term : Option Term), node.term? = .ok term →
      (∀ entry ∈ node.entries, PlainEntry entry) → ∀ t, term = some t →
      ∃ e, (∀ indent depth, FactorText (t.template indent depth) e) ∧
        ∀ test, e.truth test = node.truth fun entry => (own entry).truth test) ∧
    ∀ before nodes links, linkedTerms before nodes = .ok links →
      (∀ entry ∈ presentEntries nodes, PlainEntry entry) →
      ∃ operands, List.Forall₂ LinkText links operands ∧
        ∀ test, (operands.map fun operand => (operand.1, operand.2.truth test)) =
          operandTruths (fun entry => (own entry).truth test) before nodes := by
  apply linkedTerms_ok_induction
  case group =>
    intro g conditions h hp t ht
    have hc := factorText_conditions hown h hp
    cases conditions with
    | nil => cases ht
    | cons first rest =>
      cases ht
      obtain ⟨e, es, hf, hr, he⟩ := List.forall₂_cons_left_iff.mp hc
      refine ⟨_, fun indent depth => by
        rw [Term.template]
        exact factorText_groupTemplate hf hr, ?_⟩
      intro test
      rw [Level.truth_conjunction, ← he, List.map_map, Node.truth]
      rfl
  case connective =>
    intro c hp t ht
    cases ht
  case nested =>
    intro nodes links _ ih hp t ht
    obtain ⟨operands, hl, ho⟩ := ih hp
    cases hl with
    | nil => cases ht
    | @cons link operand links operands hu hl =>
      cases ht
      refine ⟨_, factorText_block hu.2 hl, ?_⟩
      intro test
      rw [Level.truth_level test operand.1, Node.truth, ← ho]
  case nil => exact fun before _ => ⟨[], .nil, fun test => rfl⟩
  case skip =>
    intro before c rest links ih hp
    obtain ⟨operands, hl, ho⟩ := ih hp
    exact ⟨operands, hl, fun test => by rw [ho, operandTruths]⟩
  case cons =>
    intro before node rest term links hn ht ihNode ihRest hp
    rw [presentEntries] at hp
    obtain ⟨operands, hl, ho⟩ := ihRest fun entry he => hp entry (List.mem_append_right _ he)
    have hr := Node.renders_eq hn ht
    cases term with
    | none =>
      refine ⟨operands, hl, fun test => ?_⟩
      rw [ho, operandTruths.eq_3 _ _ _ _ hn, hr]
      rfl
    | some t =>
      obtain ⟨e, hf, he⟩ := ihNode (fun entry he => hp entry (List.mem_append_left _ he)) t rfl
      refine ⟨(before, e) :: operands, .cons ⟨rfl, hf⟩ hl, fun test => ?_⟩
      rw [List.map_cons, ho, he, operandTruths.eq_3 _ _ _ _ hn, hr]
      rfl

end

theorem exists_own_expression (entry : String × Operand) :
    ∃ e, ∀ c, entryCondition entry = .ok c → PlainEntry entry → FactorText c.template e := by
  cases hc : entryCondition entry with
  | error error =>
    refine ⟨default, ?_⟩
    intro c h
    cases h
  | ok c =>
    by_cases hp : PlainEntry entry
    · refine ⟨c.expression, ?_⟩
      intro c' h _
      cases h
      exact Condition.factorText (ConditionKey.plain_condition hp hc)
    · refine ⟨default, ?_⟩
      intro c' _ h
      exact absurd h hp

/-- The text of a condition that stands alone. -/
theorem compile_entry {entry : String × Operand} {c : Condition} (h : entryCondition entry = .ok c)
    (format : Format) (offset : Nat) :
    (Where.ofGroup (Group.withOperand {} entry.1 entry.2)).compile format offset =
      .ok (c.template.fragment format.placeholder offset) := by
  have hg : (Group.withOperand {} entry.1 entry.2).term? = .ok (some (.group c [])) := by
    have hm : (Group.withOperand {} entry.1 entry.2).conditions = .ok [c] := by
      change [entry].mapM entryCondition = .ok [c]
      rw [List.mapM_cons, h]
      rfl
    rw [Group.term?, hm]
    rfl
  have hn : ∀ c, Node.group (Group.withOperand {} entry.1 entry.2) = .connective c → False := by
    intro c e
    cases e
  have hc := Where.clause?_singleton hn (by rw [Node.term?, hg])
  have htext : Clause.template format.indent ⟨.group c [], []⟩ = c.template := by
    rw [Clause.template, Term.template, linkedTemplate, List.append_nil]
    rfl
  rw [Where.ofGroup, Where.compile_of_clause? hc, ← htext]
  rfl

/-- The text of a tree whose columns are plain reads back, with each condition of it standing for
what its own text says: groups are conjunctions, nested trees are operands, and AND binds tighter
than OR. -/
theorem Where.compile_reads_back (tree : Where) (indent offset : Nat) (f : Fragment)
    (hf : tree.compile ⟨.question, indent⟩ offset = .ok f) (hne : f.sql ≠ "")
    (hp : ∀ entry ∈ tree.entries, IsPlainColumn (ConditionKey.ofText entry.1).column) :
    ∃ (e : Expression) (own : String × Operand → Expression),
      Expression.read? f.params f.sql = some e ∧
      (∀ entry ∈ tree.entries, ∃ alone,
        (Where.ofGroup (Group.withOperand {} entry.1 entry.2)).compile ⟨.question, indent⟩ offset =
          .ok alone ∧
        Expression.read? alone.params alone.sql = some (own entry)) ∧
      ∀ {α : Type*} (db : Database α) (row : String → Option α),
        e.truth (Atom.truth db row) =
          tree.truth fun entry => (own entry).truth (Atom.truth db row) := by
  choose own hown using exists_own_expression
  obtain ⟨t, ht, rfl⟩ := Where.compile_eq_ok hf
  obtain ⟨clause, hc, rfl⟩ := Where.template_eq_ok ht
  obtain ⟨links, _, hl, rfl⟩ := Where.clause?_eq_ok hc
  obtain ⟨operands, hr, ho⟩ := (exists_reading hown).2 _ _ _ hl hp
  cases hr with
  | nil => exact absurd rfl hne
  | @cons link operand links operands hu hr =>
    refine ⟨_, own, ((hu.2 indent 0).level.linked indent 0 hr).read? offset, ?_, ?_⟩
    · intro entry he
      obtain ⟨c, hentry⟩ := exists_of_mem_mapM (Where.mapM_entries hc) he
      have htext := (hown entry c hentry (hp entry he)).level
      exact ⟨_, compile_entry hentry _ offset, htext.read? offset⟩
    · intro α db row
      rw [Level.truth_level _ operand.1, Where.truth, ← ho]

def ripeFruits : Where :=
  (Where.ofGroup
    ((Group.withOperand {} "!id" (.list [.int 5, .null])).withOperand "%name"
      (.scalar (.text "k%")))).orNested
    ((Where.ofGroup (Group.withOperand {} "<>price" (.list [.int 1, .int 3]))).and
      (Group.withOperand {} "ripe" (.scalar (.int 1))))

def ripeFruitsText : String :=
  "((id IS NOT NULL AND id NOT IN (?)) AND name LIKE ?) OR " ++
    "(\n  (price >= ? AND price <= ?) AND ripe = ?\n)"

set_option maxRecDepth 4000 in
theorem compile_reads_back_ripeFruits :
    ∃ (e : Expression) (own : String × Operand → Expression),
      Expression.read? [.int 5, .text "k%", .int 1, .int 3, .int 1] ripeFruitsText = some e ∧
      (∀ entry ∈ ripeFruits.entries, ∃ alone,
        (Where.ofGroup (Group.withOperand {} entry.1 entry.2)).compile ⟨.question, 2⟩ 0 =
          .ok alone ∧
        Expression.read? alone.params alone.sql = some (own entry)) ∧
      ∀ {α : Type} (db : Database α) (row : String → Option α),
        e.truth (Atom.truth db row) =
          ripeFruits.truth fun entry => (own entry).truth (Atom.truth db row) := by
  have hf : ripeFruits.compile ⟨.question, 2⟩ 0 =
      .ok ⟨ripeFruitsText, [.int 5, .text "k%", .int 1, .int 3, .int 1]⟩ := by
    rfl
  have hp : ∀ entry ∈ ripeFruits.entries, IsPlainColumn (ConditionKey.ofText entry.1).column := by
    decide +kernel
  exact ripeFruits.compile_reads_back 2 0 _ hf (by decide) hp

end Criteria
