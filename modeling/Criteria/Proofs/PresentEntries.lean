import Criteria.WhereClause
import Mathlib.Data.List.Forall2

namespace Criteria

theorem bind_eq_ok_iff {α β ε : Type} {x : Except ε α} {f : α → Except ε β} {b : β} :
    (x >>= f) = .ok b ↔ ∃ a, x = .ok a ∧ f a = .ok b := by
  constructor
  · intro h
    cases x with
    | error e => cases h
    | ok a => exact ⟨a, rfl, h⟩
  · rintro ⟨a, rfl, h⟩
    exact h

theorem mapM_append_ok {α β ε : Type} {f : α → Except ε β} {xs ys : List α} {as bs : List β}
    (hx : xs.mapM f = .ok as) (hy : ys.mapM f = .ok bs) :
    (xs ++ ys).mapM f = .ok (as ++ bs) := by
  rw [List.mapM_append, hx]
  exact bind_eq_ok_iff.mpr ⟨as, rfl, bind_eq_ok_iff.mpr ⟨bs, hy, rfl⟩⟩

/-- A successful traversal pairs every element with its outcome. -/
theorem forall₂_of_mapM_ok {α β ε : Type} {f : α → Except ε β} {xs : List α} {ys : List β}
    (h : xs.mapM f = .ok ys) : List.Forall₂ (fun x y => f x = .ok y) xs ys := by
  induction xs generalizing ys with
  | nil => cases h; exact .nil
  | cons x xs ih =>
    rw [List.mapM_cons] at h
    obtain ⟨y, hy, h⟩ := bind_eq_ok_iff.mp h
    obtain ⟨rest, hr, h⟩ := bind_eq_ok_iff.mp h
    cases h
    exact .cons hy (ih hr)

theorem mapM_eq_ok_iff {α β ε : Type} {f : α → Except ε β} {xs : List α} {ys : List β} :
    xs.mapM f = .ok ys ↔ List.Forall₂ (fun x y => f x = .ok y) xs ys := by
  refine ⟨forall₂_of_mapM_ok, fun pairs => ?_⟩
  induction pairs with
  | nil => rfl
  | cons hy _ ih =>
    rw [List.mapM_cons, hy]
    exact bind_eq_ok_iff.mpr ⟨_, rfl, bind_eq_ok_iff.mpr ⟨_, ih, rfl⟩⟩

theorem forM_eq_ok_iff {α ε : Type} {f : α → Except ε Unit} {xs : List α} :
    xs.forM f = .ok () ↔ ∀ x ∈ xs, f x = .ok () := by
  induction xs with
  | nil => exact iff_of_true rfl nofun
  | cons x xs ih =>
    rw [List.forM, bind_eq_ok_iff, List.forall_mem_cons, ← ih]
    constructor
    · rintro ⟨⟨⟩, hx, hxs⟩
      exact ⟨hx, hxs⟩
    · rintro ⟨hx, hxs⟩
      exact ⟨(), hx, hxs⟩

theorem exists_of_mem_mapM {α β ε : Type} {f : α → Except ε β} {xs : List α} {ys : List β} {x : α}
    (h : xs.mapM f = .ok ys) (hx : x ∈ xs) : ∃ y, f x = .ok y := by
  have pairs := forall₂_of_mapM_ok h
  clear h
  induction pairs with
  | nil => cases hx
  | cons hy _ ih =>
    rcases List.mem_cons.mp hx with rfl | hx
    · exact ⟨_, hy⟩
    · exact ih hx

theorem exists_of_forall₂_of_mem {α β : Type} {R : α → β → Prop} {xs : List α} {ys : List β}
    (h : List.Forall₂ R xs ys) {y : β} (hy : y ∈ ys) : ∃ x ∈ xs, R x y := by
  induction h with
  | nil => cases hy
  | cons hr _ ih =>
    rcases List.mem_cons.mp hy with rfl | hy
    · exact ⟨_, List.mem_cons_self, hr⟩
    · obtain ⟨x, hx, hr⟩ := ih hy
      exact ⟨x, List.mem_cons_of_mem _ hx, hr⟩

mutual

/-- The present entries of the groups of an element, from left to right and depth first. -/
def Node.entries : Node → List (String × Operand)
  | .group g => g.present
  | .connective _ => []
  | .nested nodes => presentEntries nodes

def presentEntries : List Node → List (String × Operand)
  | [] => []
  | node :: rest => node.entries ++ presentEntries rest

end

theorem mem_presentEntries {nodes : List Node} {entry : String × Operand} :
    entry ∈ presentEntries nodes ↔ ∃ node ∈ nodes, entry ∈ node.entries := by
  induction nodes with
  | nil => simp [presentEntries]
  | cons node nodes ih => simp [presentEntries, ih]

def Where.entries (tree : Where) : List (String × Operand) := presentEntries tree.nodes

mutual

def Term.conditions : Term → List Condition
  | .group first rest => first :: rest
  | .block first rest => first.conditions ++ linkedConditions rest

def linkedConditions : List (Connective × Term) → List Condition
  | [] => []
  | (_, term) :: rest => term.conditions ++ linkedConditions rest

end

def Clause.conditions (clause : Clause) : List Condition :=
  clause.first.conditions ++ linkedConditions clause.rest

def entryCondition (entry : String × Operand) : Except BuildError Condition :=
  (ConditionKey.ofText entry.1).condition entry.2

theorem Group.conditions_eq_mapM (g : Group) : g.conditions = g.present.mapM entryCondition := rfl

theorem Group.term?_eq_ok {g : Group} {term : Option Term} (h : g.term? = .ok term) :
    ∃ conditions, g.present.mapM entryCondition = .ok conditions ∧
      term = match conditions with
        | [] => none
        | first :: rest => some (.group first rest) := by
  obtain ⟨conditions, hc, h⟩ := bind_eq_ok_iff.mp h
  refine ⟨conditions, hc, ?_⟩
  cases conditions <;> cases h <;> rfl

theorem Node.term?_nested_eq_ok {nodes : List Node} {term : Option Term}
    (h : (Node.nested nodes).term? = .ok term) :
    ∃ links, checkShape nodes = .ok () ∧ linkedTerms .and nodes = .ok links ∧
      term = (Clause.ofLinked? links).map Clause.term := by
  rw [Node.term?] at h
  obtain ⟨_, hs, h⟩ := bind_eq_ok_iff.mp h
  obtain ⟨links, hl, h⟩ := bind_eq_ok_iff.mp h
  cases h
  exact ⟨links, hs, hl, rfl⟩

theorem linkedTerms_cons_eq_ok {before : Connective} {node : Node} {rest : List Node}
    {links : List (Connective × Term)} (hn : ∀ c, node = .connective c → False)
    (h : linkedTerms before (node :: rest) = .ok links) :
    ∃ term links', node.term? = .ok term ∧ linkedTerms before rest = .ok links' ∧
      links = (term.map (before, ·)).toList ++ links' := by
  rw [linkedTerms.eq_3 before node rest hn] at h
  obtain ⟨term, ht, h⟩ := bind_eq_ok_iff.mp h
  obtain ⟨links', hl, h⟩ := bind_eq_ok_iff.mp h
  cases h
  exact ⟨term, links', ht, hl, rfl⟩

/-- Induction over what the elements of a tree ask for, for trees that are read without an error. -/
theorem linkedTerms_ok_induction {P : Node → Option Term → Prop}
    {Q : Connective → List Node → List (Connective × Term) → Prop}
    (group : ∀ g conditions, g.present.mapM entryCondition = .ok conditions →
      P (.group g) (match conditions with
        | [] => none
        | first :: rest => some (.group first rest)))
    (connective : ∀ c, P (.connective c) none)
    (nested : ∀ nodes links, checkShape nodes = .ok () → Q .and nodes links →
      P (.nested nodes) ((Clause.ofLinked? links).map Clause.term))
    (nil : ∀ before, Q before [] [])
    (skip : ∀ before c rest links, Q c rest links → Q before (.connective c :: rest) links)
    (cons : ∀ before node rest term links, (∀ c, node = .connective c → False) →
      node.term? = .ok term → P node term → Q before rest links →
      Q before (node :: rest) ((term.map (before, ·)).toList ++ links)) :
    (∀ node term, node.term? = .ok term → P node term) ∧
      ∀ before nodes links, linkedTerms before nodes = .ok links → Q before nodes links := by
  apply Node.term?.mutual_induct (fun node => ∀ term, node.term? = .ok term → P node term)
    (fun before nodes => ∀ links, linkedTerms before nodes = .ok links → Q before nodes links)
  case case1 =>
    intro g term h
    rw [Node.term?] at h
    obtain ⟨conditions, hc, rfl⟩ := Group.term?_eq_ok h
    exact group g conditions hc
  case case2 =>
    intro c term h
    rw [Node.term?] at h
    cases h
    exact connective c
  case case3 =>
    intro nodes ih term h
    obtain ⟨links, hs, hl, rfl⟩ := Node.term?_nested_eq_ok h
    exact nested nodes links hs (ih links hl)
  case case4 =>
    intro before links h
    rw [linkedTerms] at h
    cases h
    exact nil before
  case case5 =>
    intro before c rest ih links h
    rw [linkedTerms] at h
    exact skip before c rest links (ih links h)
  case case6 =>
    intro before node rest hn ihNode ihRest links h
    obtain ⟨term, links', ht, hl, rfl⟩ := linkedTerms_cons_eq_ok hn h
    exact cons before node rest term links' hn ht (ihNode term ht) (ihRest links' hl)

theorem Clause.conditions_term (clause : Clause) : clause.term.conditions = clause.conditions := by
  rw [Clause.term, Term.conditions, Clause.conditions]

theorem linkedConditions_append (a b : List (Connective × Term)) :
    linkedConditions (a ++ b) = linkedConditions a ++ linkedConditions b := by
  induction a with
  | nil => rfl
  | cons link a ih => simp [linkedConditions, ih]

theorem Clause.ofLinked?_conditions (links : List (Connective × Term)) :
    ((Clause.ofLinked? links).map Clause.conditions).getD [] = linkedConditions links := by
  cases links with
  | nil => rfl
  | cons link rest => rfl

/-- The conditions that a level asks for are those of the present entries in it. -/
theorem mapM_presentEntries :
    (∀ (node : Node) (term : Option Term), node.term? = .ok term →
      node.entries.mapM entryCondition = .ok ((term.map Term.conditions).getD [])) ∧
    ∀ before nodes links, linkedTerms before nodes = .ok links →
      (presentEntries nodes).mapM entryCondition = .ok (linkedConditions links) := by
  apply linkedTerms_ok_induction
  case group =>
    intro g conditions h
    rw [Node.entries, h]
    cases conditions <;> rfl
  case connective => exact fun c => rfl
  case nested =>
    intro nodes links _ ih
    have hc : ((Clause.ofLinked? links).map Clause.term).map Term.conditions =
        (Clause.ofLinked? links).map Clause.conditions := by
      simp [Function.comp_def, Clause.conditions_term]
    rw [Node.entries, ih, hc, Clause.ofLinked?_conditions]
  case nil => exact fun before => rfl
  case skip =>
    intro before c rest links ih
    rw [presentEntries, Node.entries, List.nil_append, ih]
  case cons =>
    intro before node rest term links _ _ ihNode ihRest
    rw [presentEntries, mapM_append_ok ihNode ihRest, linkedConditions_append]
    cases term <;> simp [linkedConditions]

theorem Where.clause?_eq_ok {tree : Where} {clause : Option Clause}
    (h : tree.clause? = .ok clause) :
    ∃ links, checkShape tree.nodes = .ok () ∧ linkedTerms .and tree.nodes = .ok links ∧
      clause = Clause.ofLinked? links := by
  obtain ⟨_, hs, h⟩ := bind_eq_ok_iff.mp h
  obtain ⟨links, hl, h⟩ := bind_eq_ok_iff.mp h
  cases h
  exact ⟨links, hs, hl, rfl⟩

theorem Where.mapM_entries {tree : Where} {clause : Option Clause}
    (h : tree.clause? = .ok clause) :
    tree.entries.mapM entryCondition = .ok ((clause.map Clause.conditions).getD []) := by
  obtain ⟨links, _, hl, rfl⟩ := Where.clause?_eq_ok h
  rw [Clause.ofLinked?_conditions]
  exact mapM_presentEntries.2 _ _ _ hl

theorem Where.template_eq_ok {tree : Where} {indent : Nat} {t : Template}
    (h : tree.template indent = .ok t) :
    ∃ clause, tree.clause? = .ok clause ∧ t = (clause.map (Clause.template indent)).getD [] := by
  obtain ⟨clause, hc, h⟩ := bind_eq_ok_iff.mp h
  refine ⟨clause, hc, ?_⟩
  cases clause <;> cases h <;> rfl

theorem Where.compile_eq_ok {tree : Where} {format : Format} {offset : Nat} {f : Fragment}
    (h : tree.compile format offset = .ok f) :
    ∃ t, tree.template format.indent = .ok t ∧ f = t.fragment format.placeholder offset := by
  obtain ⟨t, ht, h⟩ := bind_eq_ok_iff.mp h
  cases h
  exact ⟨t, ht, rfl⟩

theorem Where.compile_of_clause? {tree : Where} {clause : Option Clause}
    (h : tree.clause? = .ok clause) (format : Format) (offset : Nat) :
    tree.compile format offset =
      .ok (((clause.map (Clause.template format.indent)).getD []).fragment
        format.placeholder offset) := by
  rw [Where.compile, Where.template, h]
  cases clause <;> rfl

end Criteria
