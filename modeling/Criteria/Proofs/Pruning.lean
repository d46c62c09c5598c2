import Criteria.Proofs.LevelShape

namespace Criteria

def Group.prune (g : Group) : Group :=
  ⟨g.entries.filter fun entry => entry.2.isSome, g.nodup_keys.sublist (List.filter_sublist.map _)⟩

mutual

/-- An operand without what asks for nothing inside it, if anything is left. -/
def Node.prune? : Node → Option Node
  | .group g => if g.prune.isEmpty then none else some (.group g.prune)
  | .connective c => some (.connective c)
  | .nested nodes =>
    match pruneOperands nodes with
    | [] => none
    | first :: rest => some (.nested (first :: rest))

/-- The operands that are left of a level. Before the first of them, an operand goes together with
the connective right behind it. -/
def pruneOperands : List Node → List Node
  | [] => []
  | [operand] => operand.prune?.toList
  | operand :: connective :: rest =>
    match operand.prune? with
    | some pruned => pruned :: pruneLinks (connective :: rest)
    | none => pruneOperands rest

/-- The operands that are left behind the first. Each that goes takes the connective right before it
along. -/
def pruneLinks : List Node → List Node
  | connective :: operand :: rest =>
    match operand.prune? with
    | some pruned => connective :: pruned :: pruneLinks rest
    | none => pruneLinks rest
  | nodes => nodes

end

/-- The tree without what asks for nothing. If nothing is left, one group without entries stands for
it. -/
def Where.prune (tree : Where) : Where :=
  match pruneOperands tree.nodes with
  | [] => .ofGroup {}
  | first :: rest => ⟨first :: rest⟩

theorem Group.present_prune (g : Group) : g.prune.present = g.present := by
  unfold Group.present Group.prune
  rw [List.filterMap_filter]
  congr 1
  funext ⟨key, operand⟩
  cases operand <;> rfl

theorem Group.present_eq_nil_of_prune {g : Group} (h : g.prune.isEmpty) : g.present = [] := by
  rw [← g.present_prune, Group.present, List.isEmpty_iff.mp h]
  rfl

theorem Group.term?_of_present_eq {g g' : Group} (h : g.present = g'.present) :
    g.term? = g'.term? := by
  rw [Group.term?, Group.term?, Group.conditions_eq_mapM, Group.conditions_eq_mapM, h]

mutual

/-- Nothing is idle inside an element: every entry is present, and no group and no level is without
elements. -/
def Node.Trimmed : Node → Prop
  | .group g => g.entries ≠ [] ∧ ∀ entry ∈ g.entries, entry.2.isSome
  | .connective _ => True
  | .nested nodes => nodes ≠ [] ∧ AllTrimmed nodes

def AllTrimmed : List Node → Prop
  | [] => True
  | node :: rest => node.Trimmed ∧ AllTrimmed rest

end

theorem Group.trimmed_prune {g : Group} (h : ¬ g.prune.isEmpty) :
    (Node.group g.prune).Trimmed := by
  rw [Node.Trimmed]
  refine ⟨by simpa [Keyed.isEmpty] using h, fun entry he => ?_⟩
  exact (List.mem_filter.mp he).2

/-- An operand asks for what is left of it, and for nothing if nothing is left. -/
def Node.PrunesTo (node : Node) : Option Node → Prop
  | none => node.term? = .ok none
  | some pruned => ¬ pruned.isConnective ∧ pruned.Trimmed ∧ pruned.term? = node.term?

structure LinksPruneTo (nodes pruned : List Node) : Prop where
  links : Links pruned
  trimmed : AllTrimmed pruned
  terms : ∀ before, linkedTerms before pruned = linkedTerms before nodes

/-- What is left of a level asks for the same, but for the connective before the first operand. -/
structure LevelPrunesTo (nodes pruned : List Node) : Prop where
  alternates : pruned = [] ∨ Alternates pruned
  trimmed : AllTrimmed pruned
  clause : ∀ before, (linkedTerms before pruned).map Clause.ofLinked? =
    (linkedTerms before nodes).map Clause.ofLinked?

section

variable {c : Connective} {operand pruned : Node} {rest left : List Node}

theorem Node.PrunesTo.linkedTerms_cons (ho : ¬ operand.isConnective)
    (h : operand.PrunesTo (some pruned)) (hr : LinksPruneTo rest left) (before : Connective) :
    linkedTerms before (pruned :: left) = linkedTerms before (operand :: rest) := by
  rw [Criteria.linkedTerms_cons h.1, Criteria.linkedTerms_cons ho, h.2.2, hr.terms]

theorem LinksPruneTo.keep (ho : ¬ operand.isConnective) (h : operand.PrunesTo (some pruned))
    (hr : LinksPruneTo rest left) :
    LinksPruneTo (.connective c :: operand :: rest) (.connective c :: pruned :: left) where
  links := .cons h.1 hr.links
  trimmed := ⟨trivial, h.2.1, hr.trimmed⟩
  terms before := by rw [linkedTerms, linkedTerms, h.linkedTerms_cons ho hr]

theorem LinksPruneTo.drop (ho : ¬ operand.isConnective) (h : operand.PrunesTo none)
    (hl : Links rest) (hr : LinksPruneTo rest left) :
    LinksPruneTo (.connective c :: operand :: rest) left where
  links := hr.links
  trimmed := hr.trimmed
  terms before := by
    rw [hr.terms, linkedTerms, linkedTerms_cons_of_none ho h, hl.linkedTerms_eq before c]

theorem LevelPrunesTo.keep (ho : ¬ operand.isConnective) (h : operand.PrunesTo (some pruned))
    (hr : LinksPruneTo rest left) : LevelPrunesTo (operand :: rest) (pruned :: left) where
  alternates := .inr (alternates_cons_iff.mpr ⟨h.1, hr.links⟩)
  trimmed := ⟨h.2.1, hr.trimmed⟩
  clause before := by rw [h.linkedTerms_cons ho hr]

theorem LevelPrunesTo.drop (ho : ¬ operand.isConnective) (h : operand.PrunesTo none)
    (ha : Alternates rest) (hr : LevelPrunesTo rest left) :
    LevelPrunesTo (operand :: .connective c :: rest) left where
  alternates := hr.alternates
  trimmed := hr.trimmed
  clause before := by
    rw [hr.clause, linkedTerms_cons_of_none ho h, linkedTerms, ha.map_ofLinked?_eq before c]

theorem LevelPrunesTo.vanish (ho : ¬ operand.isConnective) (h : operand.PrunesTo none) :
    LevelPrunesTo [operand] [] where
  alternates := .inl rfl
  trimmed := trivial
  clause before := by rw [linkedTerms_cons_of_none ho h]

theorem Node.prunesTo_none_nested {nodes : List Node} (ha : Alternates nodes)
    (h : LevelPrunesTo nodes []) : (Node.nested nodes).PrunesTo none := by
  rw [PrunesTo, term?_nested ha, ← h.clause, linkedTerms]
  rfl

theorem Node.prunesTo_some_nested {nodes : List Node} {first : Node} (ha : Alternates nodes)
    (h : LevelPrunesTo nodes (first :: rest)) :
    (Node.nested nodes).PrunesTo (some (.nested (first :: rest))) := by
  have hp := h.alternates.resolve_left (List.cons_ne_nil _ _)
  refine ⟨Bool.false_ne_true, ?_, ?_⟩
  · rw [Trimmed]
    exact ⟨List.cons_ne_nil _ _, h.trimmed⟩
  · rw [term?_nested hp, term?_nested ha, h.clause]

end

theorem prunesTo_prune? :
    (∀ node : Node, node.WellShaped → ¬ node.isConnective → node.PrunesTo node.prune?) ∧
    (∀ nodes, Alternates nodes → AllWellShaped nodes →
      LevelPrunesTo nodes (pruneOperands nodes)) ∧
    ∀ nodes, Links nodes → AllWellShaped nodes → LinksPruneTo nodes (pruneLinks nodes) := by
  apply Node.prune?.mutual_induct
  -- cases 1 to 5 are those of an element: group, connective, nested level
  case case1 =>
    intro g he _ _
    rw [Node.prune?, if_pos he, Node.PrunesTo, Node.term?, Group.term?, Group.conditions_eq_mapM,
      Group.present_eq_nil_of_prune he]
    rfl
  case case2 =>
    intro g he _ _
    rw [Node.prune?, if_neg he]
    refine ⟨Bool.false_ne_true, Group.trimmed_prune he, ?_⟩
    rw [Node.term?, Node.term?, Group.term?_of_present_eq g.present_prune]
  case case3 => exact fun c _ hc => absurd rfl hc
  case case4 =>
    intro nodes hp ih hw _
    rw [Node.WellShaped] at hw
    rw [Node.prune?, hp]
    exact Node.prunesTo_none_nested hw.1 (hp ▸ ih hw.1 hw.2)
  case case5 =>
    intro nodes first rest hp ih hw _
    rw [Node.WellShaped] at hw
    rw [Node.prune?, hp]
    exact Node.prunesTo_some_nested hw.1 (hp ▸ ih hw.1 hw.2)
  -- cases 6 to 9: no operand is left yet, so one that goes takes the connective behind it along
  case case6 => exact fun h => absurd rfl h.ne_nil
  case case7 =>
    intro operand ih ha hw
    obtain ⟨ho, _⟩ := alternates_cons_iff.mp ha
    have h := ih hw.1 ho
    rw [pruneOperands]
    cases hp : operand.prune? with
    | none => exact .vanish ho (hp ▸ h)
    | some pruned => exact .keep ho (hp ▸ h) ⟨.nil, trivial, fun _ => rfl⟩
  case case8 =>
    intro operand connective rest pruned hp ih ihLinks ha hw
    obtain ⟨ho, hl⟩ := alternates_cons_iff.mp ha
    rw [pruneOperands, hp]
    exact .keep ho (hp ▸ ih hw.1 ho) (ihLinks hl hw.2)
  case case9 =>
    intro operand connective rest hp ih ihRest ha hw
    obtain ⟨ho, hl⟩ := alternates_cons_iff.mp ha
    rw [pruneOperands, hp]
    cases hl with
    | cons ho' hr =>
      have ha' := alternates_cons_iff.mpr ⟨ho', hr⟩
      exact .drop ho (hp ▸ ih hw.1 ho) ha' (ihRest ha' hw.2.2)
  -- cases 10 to 12: behind an operand that is left, the connective before it goes instead
  case case10 =>
    intro connective operand rest pruned hp ih ihRest hl hw
    rw [pruneLinks, hp]
    cases hl with
    | cons ho hr => exact .keep ho (hp ▸ ih hw.2.1 ho) (ihRest hr hw.2.2)
  case case11 =>
    intro connective operand rest hp ih ihRest hl hw
    rw [pruneLinks, hp]
    cases hl with
    | cons ho hr => exact .drop ho (hp ▸ ih hw.2.1 ho) hr (ihRest hr hw.2.2)
  case case12 =>
    intro nodes hn hl _
    cases hl with
    | nil => exact ⟨.nil, trivial, fun _ => rfl⟩
    | cons => exact absurd rfl (hn _ _ _)

theorem Where.clause?_prune {tree : Where} (h : tree.WellShaped) :
    tree.prune.clause? = tree.clause? := by
  have hp := prunesTo_prune?.2.1 tree.nodes h.1 h.2
  rw [Where.clause?_of_alternates h.1, ← hp.clause, Where.prune]
  cases hl : pruneOperands tree.nodes with
  | nil =>
    rw [linkedTerms]
    rfl
  | cons first rest =>
    rw [hl] at hp
    exact Where.clause?_of_alternates (hp.alternates.resolve_left (List.cons_ne_nil _ _))

theorem Where.trimmed_prune {tree : Where} (h : tree.WellShaped) :
    tree.prune = .ofGroup {} ∨ AllTrimmed tree.prune.nodes := by
  have hp := prunesTo_prune?.2.1 tree.nodes h.1 h.2
  rw [Where.prune]
  cases hl : pruneOperands tree.nodes with
  | nil => exact .inl rfl
  | cons first rest =>
    rw [hl] at hp
    exact .inr hp.trimmed

/-- Absent entries, and groups and levels that ask for nothing, leave no trace at any depth: without
them a tree compiles to the same text and values, or fails with the same error. -/
theorem Where.compile_prune {tree : Where} (h : tree.WellShaped) (format : Format) (offset : Nat) :
    (tree.prune = .ofGroup {} ∨ AllTrimmed tree.prune.nodes) ∧
      tree.compile format offset = tree.prune.compile format offset := by
  refine ⟨Where.trimmed_prune h, ?_⟩
  rw [Where.compile, Where.compile, Where.template, Where.template, Where.clause?_prune h]

/-- The first two operands and the last one ask for nothing; so does the second of the nested
level. -/
def patchyFruits : Where :=
  (((Where.ofGroup (Group.withOption {} "id" none)).andNested
    (Where.nested (Where.ofGroup {}))).orNested
    ((Where.ofGroup ((Group.withOption {} "ripe" none).withOperand "<weight" (.scalar (.int 3)))).or
      (Group.withOption {} "name" none) |>.and
      (Group.withOperand {} "%name" (.scalar (.text "k%"))))).or
    (Group.withOption {} "price" none)

theorem compile_prune_patchyFruits :
    patchyFruits.WellShaped ∧
      (patchyFruits.prune = .ofGroup {} ∨ AllTrimmed patchyFruits.prune.nodes) ∧
      patchyFruits.compile ⟨.dollar, 4⟩ 1 = patchyFruits.prune.compile ⟨.dollar, 4⟩ 1 ∧
      patchyFruits.compile ⟨.dollar, 4⟩ 1 =
        .ok ⟨"(\n    weight < $2 AND name LIKE $3\n)", [.int 3, .text "k%"]⟩ := by
  have hc : patchyFruits.compile ⟨.dollar, 4⟩ 1 =
      .ok ⟨"(\n    weight < $2 AND name LIKE $3\n)", [.int 3, .text "k%"]⟩ := by
    rfl
  have hw : patchyFruits.WellShaped := by
    obtain ⟨t, ht, _⟩ := Where.compile_eq_ok hc
    obtain ⟨clause, hclause, _⟩ := Where.template_eq_ok ht
    exact Where.wellShaped_of_clause? hclause
  have h := Where.compile_prune hw ⟨.dollar, 4⟩ 1
  exact ⟨hw, h.1, h.2, hc⟩

end Criteria
