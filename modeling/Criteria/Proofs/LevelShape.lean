import Criteria.Proofs.PresentEntries

namespace Criteria

/-- An odd number of elements, and connectives exactly at the odd indices. -/
def Alternates (nodes : List Node) : Prop :=
  nodes.length % 2 = 1 ∧ ∀ i (h : i < nodes.length), nodes[i].isConnective ↔ i % 2 = 1

mutual

/-- The levels inside an element alternate, at every depth. -/
def Node.WellShaped : Node → Prop
  | .group _ => True
  | .connective _ => True
  | .nested nodes => Alternates nodes ∧ AllWellShaped nodes

def AllWellShaped : List Node → Prop
  | [] => True
  | node :: rest => node.WellShaped ∧ AllWellShaped rest

end

theorem allWellShaped_iff {nodes : List Node} :
    AllWellShaped nodes ↔ ∀ node ∈ nodes, node.WellShaped := by
  induction nodes with
  | nil => exact ⟨fun _ _ h => (nomatch h), fun _ => trivial⟩
  | cons node rest ih => rw [AllWellShaped, ih, List.forall_mem_cons]

def Where.WellShaped (tree : Where) : Prop := Alternates tree.nodes ∧ AllWellShaped tree.nodes

theorem checkLength_eq_ok_iff {length : Nat} : checkLength length = .ok () ↔ length % 2 = 1 := by
  unfold checkLength
  split
  next h =>
    constructor
    · intro e
      cases e
    · intro e
      omega
  next h => exact ⟨fun _ => by omega, fun _ => rfl⟩

theorem checkPosition_eq_ok_iff {index : Nat} {isConnective : Bool} :
    checkPosition index isConnective = .ok () ↔ (isConnective ↔ index % 2 = 1) := by
  unfold checkPosition
  split
  next h =>
    constructor
    · intro e
      cases e
    · intro e
      exact absurd (e.mpr h.1) h.2
  next h =>
    split
    next h' =>
      constructor
      · intro e
        cases e
      · intro e
        have := e.mp h'.2
        omega
    next h' =>
      refine ⟨fun _ => ⟨fun hc => ?_, fun ho => ?_⟩, fun _ => rfl⟩
      · by_contra hn
        exact h' ⟨by omega, hc⟩
      · by_contra hn
        exact h ⟨ho, hn⟩

theorem checkAlternation_eq_ok_iff {index : Nat} {nodes : List Node} :
    checkAlternation index nodes = .ok () ↔
      ∀ i (h : i < nodes.length), nodes[i].isConnective ↔ (index + i) % 2 = 1 := by
  induction nodes generalizing index with
  | nil => exact ⟨fun _ i h => by simp at h, fun _ => rfl⟩
  | cons node rest ih =>
    rw [checkAlternation, bind_eq_ok_iff]
    constructor
    · rintro ⟨_, hp, hr⟩ i hi
      cases i with
      | zero => exact checkPosition_eq_ok_iff.mp hp
      | succ i =>
        have hs := ih.mp hr i (by simpa using hi)
        rwa [show index + 1 + i = index + (i + 1) by omega] at hs
    · intro h
      refine ⟨(), checkPosition_eq_ok_iff.mpr (h 0 (by simp)), ih.mpr fun i hi => ?_⟩
      have hs := h (i + 1) (by simpa using hi)
      rwa [show index + (i + 1) = index + 1 + i by omega] at hs

/-- A level passes the check of its shape exactly if it alternates. -/
theorem checkShape_eq_ok_iff {nodes : List Node} :
    checkShape nodes = .ok () ↔ Alternates nodes := by
  rw [checkShape, bind_eq_ok_iff]
  constructor
  · rintro ⟨_, hl, ha⟩
    refine ⟨checkLength_eq_ok_iff.mp hl, fun i hi => ?_⟩
    simpa using checkAlternation_eq_ok_iff.mp ha i hi
  · rintro ⟨hl, ha⟩
    refine ⟨(), checkLength_eq_ok_iff.mpr hl, checkAlternation_eq_ok_iff.mpr fun i hi => ?_⟩
    simpa using ha i hi

/-- What is read without an error is well-shaped at every depth. -/
theorem wellShaped_of_ok :
    (∀ (node : Node) (term : Option Term), node.term? = .ok term → node.WellShaped) ∧
    ∀ before nodes links, linkedTerms before nodes = .ok links → AllWellShaped nodes := by
  apply linkedTerms_ok_induction
  case group => exact fun _ _ _ => trivial
  case connective => exact fun _ => trivial
  case nested => exact fun nodes _ hs ih => ⟨checkShape_eq_ok_iff.mp hs, ih⟩
  case nil => exact fun _ => trivial
  case skip => exact fun _ _ _ _ ih => ⟨trivial, ih⟩
  case cons => exact fun _ _ _ _ _ _ _ ihNode ihRest => ⟨ihNode, ihRest⟩

theorem Where.wellShaped_of_clause? {tree : Where} {clause : Option Clause}
    (h : tree.clause? = .ok clause) : tree.WellShaped := by
  obtain ⟨links, hs, hl, _⟩ := Where.clause?_eq_ok h
  exact ⟨checkShape_eq_ok_iff.mp hs, wellShaped_of_ok.2 _ _ _ hl⟩

/-- Connectives, each with an operand right behind it. -/
inductive Links : List Node → Prop
  | nil : Links []
  | cons {c : Connective} {operand : Node} {rest : List Node} (ho : ¬ operand.isConnective)
      (hr : Links rest) : Links (.connective c :: operand :: rest)

theorem Links.getElem {nodes : List Node} (h : Links nodes) :
    nodes.length % 2 = 0 ∧ ∀ i (hi : i < nodes.length), nodes[i].isConnective ↔ i % 2 = 0 := by
  induction h with
  | nil => exact ⟨rfl, fun i hi => absurd hi (Nat.not_lt_zero i)⟩
  | cons ho hr ih =>
    refine ⟨by rw [List.length_cons, List.length_cons]; omega, fun i hi => ?_⟩
    match i, hi with
    | 0, _ => exact ⟨fun _ => rfl, fun _ => rfl⟩
    | 1, _ => exact ⟨fun h => absurd h ho, fun h => nomatch h⟩
    | i + 2, hi =>
      rw [Nat.add_mod_right]
      exact ih.2 i (by simpa using hi)

theorem links_of_getElem : ∀ {nodes : List Node}, nodes.length % 2 = 0 →
    (∀ i (hi : i < nodes.length), nodes[i].isConnective ↔ i % 2 = 0) → Links nodes
  | [], _, _ => .nil
  | [_], hl, _ => nomatch hl
  | connective :: operand :: rest, hl, hc => by
    rw [List.length_cons, List.length_cons] at hl
    have hr : Links rest := by
      refine links_of_getElem (by omega) fun i hi => ?_
      have h := hc (i + 2) (by simpa using hi)
      rwa [Nat.add_mod_right] at h
    have ho : ¬ operand.isConnective := fun h => nomatch (hc 1 (by simp)).mp h
    have h0 : connective.isConnective := (hc 0 (by simp)).mpr rfl
    cases connective with
    | connective c => exact .cons ho hr
    | _ => cases h0

/-- A level that alternates begins with an operand, and behind it every connective has one. -/
theorem alternates_cons_iff {operand : Node} {rest : List Node} :
    Alternates (operand :: rest) ↔ ¬ operand.isConnective ∧ Links rest := by
  constructor
  · rintro ⟨hl, hc⟩
    rw [List.length_cons] at hl
    have ho : ¬ operand.isConnective := fun h => nomatch (hc 0 (by simp)).mp h
    refine ⟨ho, links_of_getElem (by omega) fun i hi => ?_⟩
    have h := hc (i + 1) (by simpa using hi)
    rw [List.getElem_cons_succ] at h
    rw [h]
    omega
  · rintro ⟨ho, hr⟩
    have ⟨hl, hc⟩ := hr.getElem
    refine ⟨by rw [List.length_cons]; omega, fun i hi => ?_⟩
    match i, hi with
    | 0, _ => exact ⟨fun h => absurd h ho, fun h => nomatch h⟩
    | i + 1, hi =>
      rw [List.getElem_cons_succ, hc i (by simpa using hi)]
      omega

theorem Links.concat {nodes : List Node} (h : Links nodes) (c : Connective) {operand : Node}
    (ho : ¬ operand.isConnective) : Links (nodes ++ [.connective c, operand]) := by
  induction h with
  | nil => exact .cons ho .nil
  | cons ho' _ ih => exact .cons ho' ih

theorem Alternates.concat {nodes : List Node} (h : Alternates nodes) (c : Connective)
    {operand : Node} (ho : ¬ operand.isConnective) :
    Alternates (nodes ++ [.connective c, operand]) := by
  cases nodes with
  | nil => cases h.1
  | cons first rest =>
    obtain ⟨hf, hl⟩ := alternates_cons_iff.mp h
    exact alternates_cons_iff.mpr ⟨hf, hl.concat c ho⟩

theorem Alternates.ne_nil {nodes : List Node} (h : Alternates nodes) : nodes ≠ [] := by
  rintro rfl
  cases h.1

theorem linkedTerms_cons {before : Connective} {node : Node} {rest : List Node}
    (h : ¬ node.isConnective) :
    linkedTerms before (node :: rest) = do
      let term ← node.term?
      let terms ← linkedTerms before rest
      return (term.map (before, ·)).toList ++ terms := by
  refine linkedTerms.eq_3 before node rest ?_
  rintro c rfl
  exact h rfl

/-- An operand that asks for nothing leaves no trace. -/
theorem linkedTerms_cons_of_none {before : Connective} {node : Node} {rest : List Node}
    (h : ¬ node.isConnective) (ht : node.term? = .ok none) :
    linkedTerms before (node :: rest) = linkedTerms before rest := by
  rw [linkedTerms_cons h, ht]
  cases linkedTerms before rest <;> rfl

theorem Links.linkedTerms_eq {nodes : List Node} (h : Links nodes) (before before' : Connective) :
    linkedTerms before nodes = linkedTerms before' nodes := by
  cases h with
  | nil => rw [linkedTerms, linkedTerms]
  | cons _ _ => rw [linkedTerms, linkedTerms]

/-- What stands before a level has no say in what it asks for. -/
theorem Alternates.map_ofLinked?_eq {nodes : List Node} (h : Alternates nodes)
    (before before' : Connective) :
    (linkedTerms before nodes).map Clause.ofLinked? =
      (linkedTerms before' nodes).map Clause.ofLinked? := by
  cases nodes with
  | nil => exact absurd rfl h.ne_nil
  | cons operand rest =>
    obtain ⟨ho, hr⟩ := alternates_cons_iff.mp h
    rw [linkedTerms_cons ho, linkedTerms_cons ho, hr.linkedTerms_eq before before']
    cases operand.term? with
    | error e => rfl
    | ok term =>
      cases linkedTerms before' rest with
      | error e => rfl
      | ok terms => cases term <;> rfl

theorem Node.term?_nested {nodes : List Node} (h : Alternates nodes) :
    (Node.nested nodes).term? =
      ((linkedTerms .and nodes).map Clause.ofLinked?).map (Option.map Clause.term) := by
  rw [Node.term?, checkShape_eq_ok_iff.mpr h]
  cases linkedTerms .and nodes <;> rfl

theorem Where.clause?_of_alternates {tree : Where} (h : Alternates tree.nodes) :
    tree.clause? = (linkedTerms .and tree.nodes).map Clause.ofLinked? := by
  rw [Where.clause?, checkShape_eq_ok_iff.mpr h]
  cases linkedTerms .and tree.nodes <;> rfl

end Criteria
