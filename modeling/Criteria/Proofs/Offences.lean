import Criteria.Proofs.ConditionForms
import Criteria.Proofs.LevelShape

namespace Criteria

/-- The error of a computation that fails. -/
def failure? {ε α : Type} : Except ε α → Option ε
  | .ok _ => none
  | .error error => some error

theorem failure?_eq_some_iff {ε α : Type} {x : Except ε α} {error : ε} :
    failure? x = some error ↔ x = .error error := by
  cases x <;> simp [failure?]

theorem failure?_eq_none_iff {ε α : Type} {x : Except ε α} :
    failure? x = none ↔ ∃ a, x = .ok a := by
  cases x <;> simp [failure?]

theorem failure?_bind {ε α β : Type} {x : Except ε α} {f : α → Except ε β} {later : Option ε}
    (h : ∀ a, x = .ok a → failure? (f a) = later) :
    failure? (x >>= f) = (failure? x).or later := by
  cases x with
  | error error => rfl
  | ok a => exact h a rfl

theorem failure?_bind_of_none {ε α β : Type} {x : Except ε α} {f : α → Except ε β}
    (h : ∀ a, failure? (f a) = none) : failure? (x >>= f) = failure? x := by
  cases x with
  | error error => rfl
  | ok a => exact h a

/-- A traversal fails with the first of what is wrong with its elements. -/
theorem failure?_mapM {ε α β : Type} {f : α → Except ε β} {wrong : α → List ε}
    (h : ∀ x, failure? (f x) = (wrong x).head?) (xs : List α) :
    failure? (xs.mapM f) = (xs.flatMap wrong).head? := by
  induction xs with
  | nil => rfl
  | cons x xs ih =>
    rw [List.mapM_cons, List.flatMap_cons, List.head?_append, ← h x, ← ih]
    exact failure?_bind fun y _ => failure?_bind_of_none fun ys => rfl

def Operator.isOrdering : Operator → Bool
  | .less | .lessEqual | .greater | .greaterEqual => true
  | .equal | .like | .between => false

def Operand.isPair : Operand → Bool
  | .list [_, _] => true
  | _ => false

def Operand.holdsNull (operand : Operand) : Bool := operand.values.any Value.isNull

theorem Operand.holdsNull_eq_false_iff {operand : Operand} :
    operand.holdsNull = false ↔ ∀ value ∈ operand.values, ¬ value.isNull :=
  List.any_eq_false

theorem Operand.isPair_iff {operand : Operand} :
    operand.isPair ↔ ∃ low high, operand = .list [low, high] := by
  constructor
  · intro h
    unfold isPair at h
    split at h
    next low high => exact ⟨low, high, rfl⟩
    next => cases h
  · rintro ⟨low, high, rfl⟩
    rfl

theorem Operand.isPair_and_not_holdsNull_iff {operand : Operand} :
    operand.isPair ∧ ¬ operand.holdsNull ↔
      ∃ low high, operand = .list [low, high] ∧ ¬ low.isNull ∧ ¬ high.isNull := by
  constructor
  · rintro ⟨hp, hn⟩
    obtain ⟨low, high, rfl⟩ := isPair_iff.mp hp
    have h := holdsNull_eq_false_iff.mp (Bool.eq_false_iff.mpr hn)
    exact ⟨low, high, rfl, h low (by simp [values]), h high (by simp [values])⟩
  · rintro ⟨low, high, rfl, hl, hh⟩
    exact ⟨rfl, by simp [holdsNull, values, hl, hh]⟩

theorem Operator.ne_between_of_isOrdering {operator : Operator} (h : operator.isOrdering) :
    operator ≠ .between := by
  rintro rfl
  cases h

namespace ConditionKey

/-- What the operand of a key may be: no null where values are put in order, and two values where
they are bounds. -/
def Admits (key : ConditionKey) (operand : Operand) : Prop :=
  (key.operator.isOrdering → ∀ value ∈ operand.values, ¬ value.isNull) ∧
    (key.operator = .between →
      ∃ low high, operand = .list [low, high] ∧ ¬ low.isNull ∧ ¬ high.isNull)

/-- What is wrong with the operand of a key; bounds are counted before they are looked at. -/
def offences (key : ConditionKey) (operand : Operand) : List BuildError :=
  (if key.operator = .between ∧ ¬ operand.isPair then [.operatorArity key.column key.negated]
    else []) ++
  if (key.operator.isOrdering ∨ key.operator = .between) ∧ operand.holdsNull then
    [.nullComparison key.column key.operator key.negated]
  else []

variable {key : ConditionKey} {operand : Operand}

theorem failure?_ordering (comparison : Comparison) :
    failure? (key.ordering comparison operand) =
      if operand.holdsNull then some (.nullComparison key.column key.operator key.negated)
      else none := by
  cases operand with
  | scalar value =>
    rw [ordering_scalar, Operand.holdsNull, Operand.values, List.any_cons, List.any_nil,
      Bool.or_false]
    split <;> rfl
  | list values =>
    rw [ordering_list, Operand.holdsNull, Operand.values]
    split
    next => rfl
    next => split <;> rfl

theorem bounds_of_not_isPair (h : ¬ operand.isPair) :
    key.bounds operand = .error (.operatorArity key.column key.negated) := by
  unfold bounds
  split
  next => exact absurd rfl h
  next => rfl

theorem failure?_bounds :
    failure? (key.bounds operand) =
      if ¬ operand.isPair then some (.operatorArity key.column key.negated)
      else if operand.holdsNull then some (.nullComparison key.column key.operator key.negated)
      else none := by
  by_cases hp : operand.isPair
  · obtain ⟨low, high, rfl⟩ := Operand.isPair_iff.mp hp
    rw [bounds_pair, if_neg (not_not_intro hp)]
    simp only [Operand.holdsNull, Operand.values, List.any_cons, List.any_nil, Bool.or_false,
      Bool.or_eq_true]
    split
    next => rfl
    next => split <;> rfl
  · rw [bounds_of_not_isPair hp, if_pos hp]
    rfl

theorem condition_of_isOrdering (operand : Operand) (h : key.operator.isOrdering) :
    ∃ comparison, key.condition operand = key.ordering comparison operand := by
  unfold condition
  split
  next ho => rw [ho] at h; cases h
  next ho => rw [ho] at h; cases h
  next ho => rw [ho] at h; cases h
  all_goals exact ⟨_, rfl⟩

theorem condition_of_between (h : key.operator = .between) :
    key.condition operand = key.bounds operand := by
  rw [condition, h]

theorem condition_of_other (operand : Operand) (ho : ¬ key.operator.isOrdering)
    (hb : key.operator ≠ .between) : ∃ c, key.condition operand = .ok c := by
  unfold condition
  split
  next => exact ⟨_, rfl⟩
  next => exact ⟨_, rfl⟩
  next h => exact absurd h hb
  all_goals
    next h =>
      rw [h] at ho
      exact absurd rfl ho

theorem failure?_condition (key : ConditionKey) (operand : Operand) :
    failure? (key.condition operand) = (key.offences operand).head? := by
  rw [offences]
  by_cases ho : key.operator.isOrdering
  · obtain ⟨comparison, hc⟩ := condition_of_isOrdering operand ho
    have hb := Operator.ne_between_of_isOrdering ho
    simp only [hc, failure?_ordering, ho, hb, false_and, if_false, true_or, true_and,
      List.nil_append]
    split <;> rfl
  · by_cases hb : key.operator = .between
    · simp only [condition_of_between hb, failure?_bounds, hb, or_true, true_and]
      split
      next => rfl
      next => split <;> rfl
    · obtain ⟨c, hc⟩ := condition_of_other operand ho hb
      simp [hc, failure?, ho, hb]

theorem offences_eq_nil_iff : key.offences operand = [] ↔ key.Admits operand := by
  have hnil : key.offences operand = [] ↔
      ¬ (key.operator = .between ∧ ¬ operand.isPair) ∧
        ¬ ((key.operator.isOrdering ∨ key.operator = .between) ∧ operand.holdsNull) := by
    rw [offences, List.append_eq_nil_iff, ite_eq_right_iff, ite_eq_right_iff]
    simp only [List.cons_ne_nil, imp_false]
  rw [hnil, Admits, ← Operand.holdsNull_eq_false_iff, ← Operand.isPair_and_not_holdsNull_iff,
    ← Bool.not_eq_true]
  by_cases ho : key.operator.isOrdering
  · simp [ho, Operator.ne_between_of_isOrdering ho]
  · by_cases hb : key.operator = .between
    · simp [hb, Operator.isOrdering]
    · simp [ho, hb]

end ConditionKey

def entryOffences (entry : String × Operand) : List BuildError :=
  (ConditionKey.ofText entry.1).offences entry.2

theorem failure?_entryCondition (entry : String × Operand) :
    failure? (entryCondition entry) = (entryOffences entry).head? :=
  ConditionKey.failure?_condition _ entry.2

def positionOffences (index : Nat) (node : Node) : List BuildError :=
  if index % 2 = 1 ∧ ¬ node.isConnective then [.shape (.missingConnective index)]
  else if index % 2 = 0 ∧ node.isConnective then [.shape (.misplacedConnective index)]
  else []

/-- What is wrong with the shape of a level: its length first, then its elements in order. -/
def shapeOffences (nodes : List Node) : List BuildError :=
  (if nodes.length % 2 = 0 then [.shape .evenLength] else []) ++
    nodes.zipIdx.flatMap fun (node, index) => positionOffences index node

theorem failure?_checkPosition (index : Nat) (node : Node) :
    failure? (checkPosition index node.isConnective) = (positionOffences index node).head? := by
  unfold checkPosition positionOffences
  split
  next => rfl
  next => split <;> rfl

theorem failure?_checkAlternation (index : Nat) (nodes : List Node) :
    failure? (checkAlternation index nodes) =
      ((nodes.zipIdx index).flatMap fun (node, index) => positionOffences index node).head? := by
  induction nodes generalizing index with
  | nil => rfl
  | cons node rest ih =>
    rw [checkAlternation, List.zipIdx_cons, List.flatMap_cons, List.head?_append,
      ← failure?_checkPosition, ← ih]
    exact failure?_bind fun _ _ => rfl

theorem failure?_checkShape (nodes : List Node) :
    failure? (checkShape nodes) = (shapeOffences nodes).head? := by
  have hl : failure? (checkLength nodes.length) =
      (if nodes.length % 2 = 0 then [BuildError.shape .evenLength] else []).head? := by
    unfold checkLength
    split <;> rfl
  rw [shapeOffences, List.head?_append, ← hl, ← failure?_checkAlternation]
  exact failure?_bind fun _ _ => rfl

theorem shapeOffences_eq_nil_iff {nodes : List Node} :
    shapeOffences nodes = [] ↔ Alternates nodes := by
  rw [← checkShape_eq_ok_iff, ← List.head?_eq_none_iff, ← failure?_checkShape,
    failure?_eq_none_iff]
  exact ⟨fun ⟨_, h⟩ => h, fun h => ⟨(), h⟩⟩

mutual

/-- What is wrong inside an element, in the order of a walk: the shape of a level before its
elements, these from left to right, and the entries of a group in order. -/
def Node.offences : Node → List BuildError
  | .group g => g.present.flatMap entryOffences
  | .connective _ => []
  | .nested nodes => shapeOffences nodes ++ levelOffences nodes

def levelOffences : List Node → List BuildError
  | [] => []
  | node :: rest => node.offences ++ levelOffences rest

end

def Where.offences (tree : Where) : List BuildError :=
  shapeOffences tree.nodes ++ levelOffences tree.nodes

mutual

theorem Node.failure?_term? : ∀ node : Node, failure? node.term? = node.offences.head?
  | .group g => by
    rw [Node.term?, Node.offences, ← failure?_mapM failure?_entryCondition, Group.term?,
      Group.conditions_eq_mapM]
    exact failure?_bind_of_none fun conditions => by cases conditions <;> rfl
  | .connective c => by
    rw [Node.term?, Node.offences]
    rfl
  | .nested nodes => by
    rw [Node.term?, Node.offences, List.head?_append, ← failure?_checkShape,
      ← failure?_linkedTerms .and nodes]
    exact failure?_bind fun _ _ => failure?_bind_of_none fun _ => rfl

theorem failure?_linkedTerms : ∀ (before : Connective) (nodes : List Node),
    failure? (linkedTerms before nodes) = (levelOffences nodes).head?
  | before, [] => by
    rw [linkedTerms, levelOffences]
    rfl
  | before, node :: rest => by
    have hnode := node.failure?_term?
    have hrest (c : Connective) := failure?_linkedTerms c rest
    rw [levelOffences, List.head?_append, ← hnode, ← hrest before]
    -- a connective is only remembered for the operand behind it; no error depends on which it is
    by_cases hc : ∃ c, node = .connective c
    · obtain ⟨c, rfl⟩ := hc
      rw [linkedTerms, hrest c, ← hrest before, Node.term?]
      rfl
    · rw [linkedTerms.eq_3 before node rest fun c h => hc ⟨c, h⟩]
      exact failure?_bind fun _ _ => failure?_bind_of_none fun _ => rfl

end

/-- The error of a tree is the first of what is wrong in it. -/
theorem Where.failure?_compile (tree : Where) (format : Format) (offset : Nat) :
    failure? (tree.compile format offset) = tree.offences.head? := by
  have hclause : failure? tree.clause? = tree.offences.head? := by
    rw [Where.offences, List.head?_append, ← failure?_checkShape, ← failure?_linkedTerms .and]
    exact failure?_bind fun _ _ => failure?_bind_of_none fun _ => rfl
  have htemplate : failure? (tree.template format.indent) = failure? tree.clause? := by
    rw [Where.template]
    exact failure?_bind_of_none fun clause => by cases clause <;> rfl
  rw [← hclause, ← htemplate]
  exact failure?_bind_of_none fun _ => rfl

mutual

theorem Node.offences_eq_nil_iff : ∀ node : Node,
    node.offences = [] ↔ node.WellShaped ∧
      ∀ entry ∈ node.entries, (ConditionKey.ofText entry.1).Admits entry.2
  | .group g => by
    simp only [Node.offences, Node.entries, Node.WellShaped, true_and, List.flatMap_eq_nil_iff,
      entryOffences, ConditionKey.offences_eq_nil_iff]
  | .connective c => by
    simp [Node.offences, Node.entries, Node.WellShaped]
  | .nested nodes => by
    rw [Node.offences, Node.entries, Node.WellShaped, List.append_eq_nil_iff,
      shapeOffences_eq_nil_iff, levelOffences_eq_nil_iff nodes, and_assoc]

theorem levelOffences_eq_nil_iff : ∀ nodes : List Node,
    levelOffences nodes = [] ↔ AllWellShaped nodes ∧
      ∀ entry ∈ presentEntries nodes, (ConditionKey.ofText entry.1).Admits entry.2
  | [] => by
    simp [levelOffences, presentEntries, AllWellShaped]
  | node :: rest => by
    rw [levelOffences, presentEntries, AllWellShaped, List.append_eq_nil_iff,
      node.offences_eq_nil_iff, levelOffences_eq_nil_iff rest, List.forall_mem_append]
    exact and_and_and_comm

end

theorem Where.offences_eq_nil_iff {tree : Where} :
    tree.offences = [] ↔ tree.WellShaped ∧
      ∀ entry ∈ tree.entries, (ConditionKey.ofText entry.1).Admits entry.2 := by
  rw [Where.offences, List.append_eq_nil_iff, shapeOffences_eq_nil_iff, levelOffences_eq_nil_iff,
    Where.WellShaped, Where.entries, and_assoc]

def ShapeFault.OfLevel : ShapeFault → Prop
  | .evenLength | .missingConnective _ | .misplacedConnective _ => True
  | .notArray | .wrapping .. | .unknownElement .. => False

def BuildError.OfEntries (entries : List (String × Operand)) (error : BuildError) : Prop :=
  ∃ entry ∈ entries, ∃ key, key = ConditionKey.ofText entry.1 ∧
    (error = .operatorArity key.column key.negated ∨
      error = .nullComparison key.column key.operator key.negated)

/-- What can be wrong with a tree that has some present entries. -/
def BuildError.OfTree (entries : List (String × Operand)) (error : BuildError) : Prop :=
  (∃ fault : ShapeFault, error = .shape fault ∧ fault.OfLevel) ∨ error.OfEntries entries

namespace BuildError

theorem OfTree.mono {entries entries' : List (String × Operand)} {error : BuildError}
    (hs : entries ⊆ entries') (h : error.OfTree entries) : error.OfTree entries' := by
  refine h.imp_right ?_
  rintro ⟨entry, hm, h⟩
  exact ⟨entry, hs hm, h⟩

theorem ofEntries_of_mem_entryOffences {entry : String × Operand} {error : BuildError}
    (h : error ∈ entryOffences entry) : error.OfEntries [entry] := by
  refine ⟨entry, List.mem_singleton_self entry, _, rfl, ?_⟩
  rw [entryOffences, ConditionKey.offences, List.mem_append, List.mem_ite_nil_right,
    List.mem_ite_nil_right, List.mem_singleton, List.mem_singleton] at h
  exact h.imp And.right And.right

theorem ofTree_of_mem_entryOffences {entry : String × Operand} {error : BuildError}
    (h : error ∈ entryOffences entry) : error.OfTree [entry] :=
  .inr (ofEntries_of_mem_entryOffences h)

theorem ofTree_of_mem_shapeOffences {nodes : List Node} {error : BuildError}
    (h : error ∈ shapeOffences nodes) : error.OfTree [] := by
  rw [shapeOffences, List.mem_append, List.mem_flatMap] at h
  obtain h | ⟨⟨node, index⟩, _, h⟩ := h
  · rw [List.mem_ite_nil_right, List.mem_singleton] at h
    exact .inl ⟨_, h.2, trivial⟩
  · change error ∈ positionOffences index node at h
    unfold positionOffences at h
    split at h
    next => exact .inl ⟨_, List.mem_singleton.mp h, trivial⟩
    next =>
      rw [List.mem_ite_nil_right, List.mem_singleton] at h
      exact .inl ⟨_, h.2, trivial⟩

end BuildError

mutual

theorem Node.ofTree_of_mem_offences : ∀ (node : Node), ∀ error ∈ node.offences,
    error.OfTree node.entries
  | .group g, error, h => by
    rw [Node.offences, List.mem_flatMap] at h
    obtain ⟨entry, hm, h⟩ := h
    rw [Node.entries]
    exact (BuildError.ofTree_of_mem_entryOffences h).mono (by simpa using hm)
  | .connective _, error, h => by
    rw [Node.offences] at h
    cases h
  | .nested nodes, error, h => by
    rw [Node.offences, List.mem_append] at h
    rw [Node.entries]
    rcases h with h | h
    · exact (BuildError.ofTree_of_mem_shapeOffences h).mono (List.nil_subset _)
    · exact ofTree_of_mem_levelOffences nodes error h

theorem ofTree_of_mem_levelOffences : ∀ (nodes : List Node), ∀ error ∈ levelOffences nodes,
    error.OfTree (presentEntries nodes)
  | [], error, h => by
    rw [levelOffences] at h
    cases h
  | node :: rest, error, h => by
    rw [levelOffences, List.mem_append] at h
    rw [presentEntries]
    rcases h with h | h
    · exact (node.ofTree_of_mem_offences error h).mono (List.subset_append_left _ _)
    · exact (ofTree_of_mem_levelOffences rest error h).mono (List.subset_append_right _ _)

end

theorem Where.ofTree_of_mem_offences {tree : Where} {error : BuildError}
    (h : error ∈ tree.offences) : error.OfTree tree.entries := by
  rw [Where.offences, List.mem_append] at h
  rcases h with h | h
  · exact (BuildError.ofTree_of_mem_shapeOffences h).mono (List.nil_subset _)
  · exact ofTree_of_mem_levelOffences _ error h

/-- A tree compiles exactly if all its levels alternate and all its present entries have operands
that their keys admit. The error of any other is the first of what is wrong in it, in the order of
a walk that checks a level before its elements; it is one of shape, or names the column of an
entry. -/
theorem Where.compile_first_offence (tree : Where) (format : Format) (offset : Nat) :
    ((∃ f, tree.compile format offset = .ok f) ↔
      tree.WellShaped ∧ ∀ entry ∈ tree.entries, (ConditionKey.ofText entry.1).Admits entry.2) ∧
    ∀ error, (tree.compile format offset = .error error ↔ tree.offences.head? = some error) ∧
      (tree.compile format offset = .error error → error.OfTree tree.entries) := by
  have hf := tree.failure?_compile format offset
  have he (error : BuildError) :
      tree.compile format offset = .error error ↔ tree.offences.head? = some error := by
    rw [← failure?_eq_some_iff, hf]
  refine ⟨?_, fun error => ⟨he error, fun h => ?_⟩⟩
  · rw [← failure?_eq_none_iff, hf, List.head?_eq_none_iff, tree.offences_eq_nil_iff]
  · exact Where.ofTree_of_mem_offences (List.mem_of_head? ((he error).mp h))

/-- Bounds that are one value stand before a level without elements and before a comparison with
null. -/
def unripeFruits : Where :=
  ((Where.ofGroup (Group.withOperand {} "!<id" (.scalar (.int 5)))).andNested
    ((Where.ofGroup (Group.withOption {} "<weight" none)).or
      (Group.withOperand {} "!<>price" (.scalar .null)))).orNested
    ⟨[]⟩ |>.and (Group.withOperand {} "<ripe" (.list [.int 1, .null]))

theorem compile_first_offence_unripeFruits :
    unripeFruits.offences.head? = some (.operatorArity "price" true) ∧
      unripeFruits.compile ⟨.dollar, 2⟩ 3 = .error (.operatorArity "price" true) ∧
      BuildError.OfTree unripeFruits.entries (.operatorArity "price" true) := by
  have hh : unripeFruits.offences.head? = some (.operatorArity "price" true) := by
    rfl
  have h := (unripeFruits.compile_first_offence ⟨.dollar, 2⟩ 3).2 (.operatorArity "price" true)
  have he := h.1.mpr hh
  exact ⟨hh, he, h.2 he⟩

end Criteria
