import Criteria.Proofs.Offences
import Criteria.Proofs.Readback
import Mathlib.Order.Lattice

namespace Criteria

/-- Tests joined by a connective hold together, or one of them does. -/
def Condition.truth (test : Atom → Truth) : Condition → Truth
  | .atom a => test a
  | .joined .and atoms => .all (atoms.map test)
  | .joined .or atoms => .any (atoms.map test)

theorem Condition.truth_expression {c : Condition} (h : c.Plain) (test : Atom → Truth) :
    c.expression.truth test = c.truth test := by
  cases c with
  | atom a => rfl
  | joined c atoms =>
    obtain ⟨a, atoms, rfl⟩ := List.exists_cons_of_ne_nil h.1
    have hmap : (atoms.map fun b => (c, Expression.atom b)) =
        (atoms.map Expression.atom).map fun e => (c, e) := by
      rw [List.map_map]
      rfl
    have htests : (Expression.atom a :: atoms.map Expression.atom).map (Expression.truth test) =
        (a :: atoms).map test := by
      rw [List.map_cons, List.map_map]
      rfl
    rw [expression, hmap]
    cases c with
    | and => rw [Level.truth_conjunction, htests, truth]
    | or => rw [Level.truth_disjunction, htests, truth]

section

variable {α : Type*} [LinearOrder α] (datum : Value → α) (like : α → α → Bool)

/-- A database whose data are in a total order. -/
def Database.ordered : Database α :=
  ⟨datum, fun a b => decide (a = b), fun a b => decide (a < b), like⟩

/-- How two data compare. -/
def Comparison.relates (a b : α) : Comparison → Bool
  | .eq => a = b
  | .ne => a ≠ b
  | .lt => a < b
  | .le => a ≤ b
  | .gt => a > b
  | .ge => a ≥ b
  | .like => like a b
  | .notLike => !like a b

/-- The outcome of comparing the datum of a column, or null, with a value. -/
def Comparison.outcome (x : Option α) (value : Value) (comparison : Comparison) : Truth :=
  match x with
  | some a => .ofBool (comparison.relates like a (datum value))
  | none => .unknown

/-- The column compares with one of the values, or is null where a value is. -/
def Comparison.among (x : Option α) (operand : Operand) (comparison : Comparison) : Truth :=
  (Truth.any ((nonNull operand.values).map fun value => comparison.outcome datum like x value)).or
    (if operand.holdsNull then .ofBool x.isNone else .no)

/-- The column compares with all of the values, and there are some. -/
def Comparison.throughout (x : Option α) (operand : Operand) (comparison : Comparison) : Truth :=
  if operand.values = [] then .no
  else .all (operand.values.map fun value => comparison.outcome datum like x value)

/-- What an operator asks of a column and an operand. -/
def Operator.meaning (x : Option α) (operand : Operand) : Operator → Truth
  | .equal => Comparison.eq.among datum like x operand
  | .like => Comparison.like.among datum like x operand
  | .less => Comparison.lt.throughout datum like x operand
  | .lessEqual => Comparison.le.throughout datum like x operand
  | .greater => Comparison.gt.throughout datum like x operand
  | .greaterEqual => Comparison.ge.throughout datum like x operand
  | .between =>
    match operand with
    | .list [low, high] =>
      (Comparison.ge.outcome datum like x low).and (Comparison.le.outcome datum like x high)
    | _ => .no

/-- Of data in a total order, the opposite comparison. -/
def Comparison.complement : Comparison → Comparison
  | .eq => .ne
  | .ne => .eq
  | .lt => .ge
  | .le => .gt
  | .gt => .le
  | .ge => .lt
  | .like => .notLike
  | .notLike => .like

theorem Comparison.relates_complement (comparison : Comparison) (a b : α) :
    comparison.complement.relates like a b = !comparison.relates like a b := by
  rw [Bool.eq_iff_iff]
  cases comparison <;> simp [complement, relates]

theorem Comparison.outcome_complement (comparison : Comparison) (x : Option α) (value : Value) :
    comparison.complement.outcome datum like x value =
      (comparison.outcome datum like x value).not := by
  cases x with
  | none => rfl
  | some a => rw [outcome, outcome, relates_complement, Truth.not_ofBool]

theorem Comparison.holds_ordered (comparison : Comparison) (a b : α) :
    comparison.holds (.ordered datum like) a b = comparison.relates like a b := by
  cases comparison with
  | le => simp [holds, relates, Database.ordered, le_iff_lt_or_eq]
  | ge => simp [holds, relates, Database.ordered, le_iff_lt_or_eq, eq_comm]
  | _ => simp [holds, relates, Database.ordered]

variable (row : String → Option α) (column : String)

theorem Atom.truth_compare (comparison : Comparison) {value : Value} (h : value.isNull = false) :
    (Atom.compare column comparison value).truth (.ordered datum like) row =
      comparison.outcome datum like (row column) value := by
  have hd : (Database.ordered datum like).datum? value = some (datum value) := by
    rw [Database.datum?, h]
    rfl
  rw [truth, hd]
  cases row column with
  | none => rfl
  | some a => rw [Comparison.truth, Comparison.outcome, Comparison.holds_ordered]

theorem Atom.truth_isNull (negated : Bool) :
    (Atom.isNull column negated).truth (.ordered datum like) row =
      (Truth.ofBool (row column).isNone).signed negated := by
  rw [truth]
  cases row column <;> cases negated <;> rfl

theorem Atom.truth_isIn (negated : Bool) {values : List Value}
    (h : ∀ value ∈ values, value.isNull = false) :
    (Atom.isIn column negated values).truth (.ordered datum like) row =
      (Truth.any (values.map fun value =>
        Comparison.eq.outcome datum like (row column) value)).signed negated := by
  have hfound : (values.map fun value =>
      Comparison.eq.truth (.ordered datum like) (row column)
        ((Database.ordered datum like).datum? value)) =
      values.map fun value => Comparison.eq.outcome datum like (row column) value :=
    List.map_congr_left fun value hv =>
      Atom.truth_compare datum like row column .eq (h value hv)
  rw [truth, hfound]
  rfl

theorem map_truth_compare (comparison : Comparison) {values : List Value}
    (h : ∀ value ∈ values, value.isNull = false) :
    (values.map (.compare column comparison)).map (Atom.truth (.ordered datum like) row) =
      values.map fun value => comparison.outcome datum like (row column) value := by
  rw [List.map_map]
  exact List.map_congr_left fun value hv =>
    Atom.truth_compare datum like row column comparison (h value hv)

end

theorem isNull_of_mem_nonNull (values : List Value) :
    ∀ value ∈ nonNull values, value.isNull = false := by
  intro value hv
  simpa using (List.mem_filter.mp hv).2

theorem holdsNull_list_eq_false_iff {values : List Value} :
    (Operand.list values).holdsNull = false ↔ (nonNull values).length = values.length := by
  rw [Operand.holdsNull, nonNull, List.length_filter_eq_length_iff, List.any_eq_false]
  exact forall₂_congr fun value _ => by simp

namespace ConditionKey

section

variable {α : Type*} [LinearOrder α] (datum : Value → α) (like : α → α → Bool)
  (row : String → Option α) (key : ConditionKey)

/-- Alternatives, or with negation the opposites of all of them. -/
theorem truth_alternatives {test : Atom → Truth} {atoms : List Atom} {tests : List Truth}
    (h : atoms.map test = tests.map (Truth.signed key.negated)) :
    (Condition.joined key.alternatives atoms).truth test = (Truth.any tests).signed key.negated := by
  rw [alternatives]
  cases hn : key.negated with
  | false =>
    rw [hn] at h
    change Truth.any (atoms.map test) = Truth.any tests
    rw [h]
    exact congrArg Truth.any (List.map_id tests)
  | true =>
    rw [hn] at h
    change Truth.all (atoms.map test) = (Truth.any tests).not
    rw [h, Truth.not_any]
    rfl

/-- The comparison of a key with negation is the opposite one. -/
theorem outcome_signed (comparison : Comparison) (x : Option α) (value : Value) :
    (if key.negated then comparison.complement else comparison).outcome datum like x value =
      (comparison.outcome datum like x value).signed key.negated := by
  cases key.negated with
  | false => rfl
  | true => exact comparison.outcome_complement datum like x value

theorem among_of_nonNull_eq_nil {operand : Operand} (comparison : Comparison) (x : Option α)
    (hv : operand.values ≠ []) (h : nonNull operand.values = []) :
    comparison.among datum like x operand = .ofBool x.isNone := by
  have hnull : operand.holdsNull = true := by
    by_contra hn
    have hself := nonNull_eq_self (Bool.eq_false_iff.mpr hn)
    exact hv (hself ▸ h)
  rw [Comparison.among, h, hnull]
  rfl

theorem among_of_not_holdsNull {operand : Operand} (comparison : Comparison) (x : Option α)
    (h : operand.holdsNull = false) :
    comparison.among datum like x operand =
      .any ((nonNull operand.values).map fun value =>
        comparison.outcome datum like x value) := by
  rw [Comparison.among, h]
  exact Truth.or_no _

theorem among_of_holdsNull {operand : Operand} (comparison : Comparison) (x : Option α)
    (h : operand.holdsNull = true) :
    comparison.among datum like x operand =
      (Truth.any ((nonNull operand.values).map fun value =>
        comparison.outcome datum like x value)).or (.ofBool x.isNone) := by
  rw [Comparison.among, h]
  rfl

theorem among_scalar (comparison : Comparison) (x : Option α) {value : Value}
    (h : value.isNull = false) :
    comparison.among datum like x (.scalar value) = comparison.outcome datum like x value := by
  have hnull : (Operand.scalar value).holdsNull = false := by
    simp [Operand.holdsNull, Operand.values, h]
  have hself : nonNull (Operand.scalar value).values = [value] := nonNull_eq_self hnull
  rw [among_of_not_holdsNull datum like comparison x hnull, hself]
  exact Truth.or_no _

theorem nonNull_scalar_of_isNull {value : Value} (h : value.isNull = true) :
    nonNull (Operand.scalar value).values = [] := by
  simp [nonNull, Operand.values, h]

/-- The test for null stands for operands of nothing else. -/
theorem truth_isNull_of_nonNull_eq_nil {operand : Operand} (comparison : Comparison)
    (hv : operand.values ≠ []) (h : nonNull operand.values = []) :
    (Condition.atom key.isNull).truth (Atom.truth (.ordered datum like) row) =
      (comparison.among datum like (row key.column) operand).signed key.negated := by
  rw [among_of_nonNull_eq_nil datum like _ _ hv h]
  exact Atom.truth_isNull datum like row key.column key.negated

theorem truth_single (comparison : Comparison) (value : Value) :
    (if value.isNull then Condition.atom key.isNull
      else .atom (.compare key.column
        (if key.negated then comparison.complement else comparison) value)).truth
        (Atom.truth (.ordered datum like) row) =
      (comparison.among datum like (row key.column) (.scalar value)).signed key.negated := by
  split
  next hv =>
    exact truth_isNull_of_nonNull_eq_nil datum like row key comparison (List.cons_ne_nil _ _)
      (nonNull_scalar_of_isNull hv)
  next hv =>
    have hv := Bool.eq_false_iff.mpr hv
    rw [among_scalar datum like _ _ hv, ← outcome_signed]
    exact Atom.truth_compare datum like row key.column _ hv

theorem map_truth_signed_compare (comparison : Comparison) {values : List Value}
    (h : ∀ value ∈ values, value.isNull = false) :
    (values.map (.compare key.column
      (if key.negated then comparison.complement else comparison))).map
        (Atom.truth (.ordered datum like) row) =
      (values.map fun value => comparison.outcome datum like (row key.column) value).map
        (Truth.signed key.negated) := by
  rw [map_truth_compare datum like row key.column _ h, List.map_map]
  exact List.map_congr_left fun value _ => outcome_signed datum like key comparison _ value

theorem truth_equality {operand : Operand} (h : operand.values ≠ []) :
    (key.equality operand).truth (Atom.truth (.ordered datum like) row) =
      (Comparison.eq.among datum like (row key.column) operand).signed key.negated := by
  cases operand with
  | scalar value =>
    rw [equality_scalar]
    exact truth_single datum like row key .eq value
  | list values =>
    rw [equality_list key (by exact h)]
    split
    next hn => exact truth_isNull_of_nonNull_eq_nil datum like row key .eq h hn
    next =>
      have hisIn := Atom.truth_isIn datum like row key.column key.negated
        (isNull_of_mem_nonNull values)
      split
      next hl =>
        rw [among_of_not_holdsNull datum like _ _ (holdsNull_list_eq_false_iff.mpr hl)]
        exact hisIn
      next hl =>
        have hnull : (Operand.list values).holdsNull = true :=
          eq_true_of_ne_false (mt holdsNull_list_eq_false_iff.mp hl)
        have htests : [key.isNull, .isIn key.column key.negated (nonNull values)].map
            (Atom.truth (.ordered datum like) row) =
            [.ofBool (row key.column).isNone, Truth.any ((nonNull values).map fun value =>
              Comparison.eq.outcome datum like (row key.column) value)].map
              (Truth.signed key.negated) := by
          rw [List.map_cons, List.map_singleton, isNull, hisIn, Atom.truth_isNull]
          rfl
        rw [truth_alternatives key htests, among_of_holdsNull datum like _ _ hnull, Truth.or_comm,
          Truth.any_cons, Truth.any_cons, Truth.any_nil, Truth.or_no]
        rfl

theorem truth_likeness {operand : Operand} (h : operand.values ≠ []) :
    (key.likeness operand).truth (Atom.truth (.ordered datum like) row) =
      (Comparison.like.among datum like (row key.column) operand).signed key.negated := by
  cases operand with
  | scalar value =>
    rw [likeness_scalar]
    exact truth_single datum like row key .like value
  | list values =>
    have hcompare := map_truth_signed_compare datum like row key .like
      (isNull_of_mem_nonNull values)
    rw [likeness_list key (by exact h)]
    by_cases hl : (nonNull values).length = values.length
    · rw [if_pos hl, List.append_nil,
        among_of_not_holdsNull datum like _ _ (holdsNull_list_eq_false_iff.mpr hl)]
      exact truth_alternatives key hcompare
    · have hnull : (Operand.list values).holdsNull = true :=
        eq_true_of_ne_false (mt holdsNull_list_eq_false_iff.mp hl)
      have htests : ((nonNull values).map
          (Atom.compare key.column (if key.negated then .notLike else .like)) ++ [key.isNull]).map
            (Atom.truth (.ordered datum like) row) =
          (((nonNull values).map fun value =>
            Comparison.like.outcome datum like (row key.column) value) ++
              [Truth.ofBool (row key.column).isNone]).map (Truth.signed key.negated) := by
        rw [List.map_append, List.map_append, List.map_singleton, isNull, Atom.truth_isNull]
        exact congrArg (· ++ _) hcompare
      rw [if_neg hl, truth_alternatives key htests, among_of_holdsNull datum like _ _ hnull,
        Truth.any_append, Truth.any_cons, Truth.any_nil, Truth.or_no]
      rfl

theorem truth_ordering {comparison : Comparison} {operand : Operand} {c : Condition}
    (h : key.ordering comparison operand = .ok c) :
    c.truth (Atom.truth (.ordered datum like) row) =
      comparison.throughout datum like (row key.column) operand := by
  obtain ⟨value, rfl, hv, rfl⟩ | ⟨values, rfl, hv, rfl⟩ := ordering_eq_ok h
  · rw [Condition.truth, Atom.truth_compare datum like row key.column comparison hv]
    exact (Truth.and_yes _).symm
  · rw [Comparison.throughout]
    split
    next he =>
      rw [if_pos (by exact he)]
      rfl
    next he =>
      have hvalues : ∀ value ∈ values, value.isNull = false := fun value hm =>
        Bool.eq_false_iff.mpr (List.any_eq_false.mp hv value hm)
      rw [if_neg (by exact he)]
      change Truth.all _ = _
      rw [map_truth_compare datum like row key.column comparison hvalues]
      rfl

theorem truth_bounds {operand : Operand} {c : Condition} (h : key.bounds operand = .ok c) :
    c.truth (Atom.truth (.ordered datum like) row) =
      (Operator.between.meaning datum like (row key.column) operand).signed key.negated := by
  obtain ⟨low, high, rfl, hl, hh, rfl⟩ := bounds_eq_ok h
  have hcompare (comparison : Comparison) {value : Value} (hv : value.isNull = false) :=
    Atom.truth_compare datum like row key.column comparison hv
  rw [Operator.meaning]
  split
  next hn =>
    rw [hn, Truth.signed_true, Truth.not_and, ← Comparison.outcome_complement,
      ← Comparison.outcome_complement]
    change ((Atom.compare ..).truth _ row).or (((Atom.compare ..).truth _ row).or .no) = _
    rw [hcompare .lt hl, hcompare .gt hh, Truth.or_no]
    rfl
  next hn =>
    rw [Bool.eq_false_iff.mpr hn, Truth.signed_false]
    change ((Atom.compare ..).truth _ row).and (((Atom.compare ..).truth _ row).and .yes) = _
    rw [hcompare .ge hl, hcompare .le hh, Truth.and_yes]

end

section

variable {α : Type*} [LinearOrder α] (datum : Value → α) (like : α → α → Bool)
  (row : String → Option α) {operator : Operator} {column : String} {operand : Operand}
  {c : Condition}

theorem truth_empty_equality (key : ConditionKey) (h : operand.values = []) (test : Atom → Truth) :
    (key.equality operand).truth test = test (.numerals 1 0) := by
  cases operand with
  | scalar value => cases h
  | list values =>
    rw [show values = [] from h]
    rfl

theorem truth_empty_likeness (key : ConditionKey) (h : operand.values = []) (test : Atom → Truth) :
    (key.likeness operand).truth test = test (.numerals 1 2) := by
  cases operand with
  | scalar value => cases h
  | list values =>
    rw [show values = [] from h]
    rfl

theorem among_of_empty (comparison : Comparison) (x : Option α) (h : operand.values = []) :
    comparison.among datum like x operand = .no := by
  rw [Comparison.among, Operand.holdsNull, h]
  rfl

/-- A key without negation asks what its operator means. -/
theorem truth_condition (h : condition ⟨column, operator, false⟩ operand = .ok c) :
    c.truth (Atom.truth (.ordered datum like) row) =
      operator.meaning datum like (row column) operand := by
  cases operator with
  | equal =>
    cases Except.ok.inj h
    by_cases hv : operand.values = []
    · rw [truth_empty_equality _ hv, Operator.meaning, among_of_empty datum like _ _ hv]
      rfl
    · exact truth_equality datum like row ⟨column, .equal, false⟩ hv
  | like =>
    cases Except.ok.inj h
    by_cases hv : operand.values = []
    · rw [truth_empty_likeness _ hv, Operator.meaning, among_of_empty datum like _ _ hv]
      rfl
    · exact truth_likeness datum like row ⟨column, .like, false⟩ hv
  | between => exact truth_bounds datum like row ⟨column, .between, false⟩ h
  | less => exact truth_ordering datum like row ⟨column, .less, false⟩ h
  | lessEqual => exact truth_ordering datum like row ⟨column, .lessEqual, false⟩ h
  | greater => exact truth_ordering datum like row ⟨column, .greater, false⟩ h
  | greaterEqual => exact truth_ordering datum like row ⟨column, .greaterEqual, false⟩ h

theorem throughout_complement (comparison : Comparison) (x : Option α)
    (h : operand.values.length = 1) :
    comparison.complement.throughout datum like x operand =
      (comparison.throughout datum like x operand).not := by
  obtain ⟨value, hv⟩ := List.length_eq_one_iff.mp h
  have hne : operand.values ≠ [] := by
    rw [hv]
    exact List.cons_ne_nil _ _
  have hone (comparison : Comparison) :
      comparison.throughout datum like x operand = comparison.outcome datum like x value := by
    rw [Comparison.throughout, if_neg hne, hv]
    exact Truth.and_yes _
  rw [hone, hone, Comparison.outcome_complement]

theorem ordering_of_ordering {key : ConditionKey} {comparison : Comparison}
    (h : key.ordering comparison operand = .ok c) (key' : ConditionKey) (comparison' : Comparison) :
    ∃ c', key'.ordering comparison' operand = .ok c' := by
  obtain ⟨value, rfl, hv, _⟩ | ⟨values, rfl, hv, _⟩ := ordering_eq_ok h
  · rw [ordering_scalar, hv]
    exact ⟨_, rfl⟩
  · rw [ordering_list, hv]
    by_cases he : values = []
    · exact ⟨_, if_pos he⟩
    · exact ⟨_, if_neg he⟩

theorem bounds_of_bounds {key : ConditionKey} (h : key.bounds operand = .ok c)
    (key' : ConditionKey) : ∃ c', key'.bounds operand = .ok c' := by
  obtain ⟨low, high, rfl, hl, hh, _⟩ := bounds_eq_ok h
  have hn : ¬ (low.isNull ∨ high.isNull) := by
    simp [hl, hh]
  rw [bounds_pair, if_neg hn]
  by_cases hneg : key'.negated
  · exact ⟨_, if_pos hneg⟩
  · exact ⟨_, if_neg hneg⟩

/-- A key that puts values in order, and its complement, order them by opposite comparisons. -/
theorem exists_ordering (column : String) (h : operator.isOrdering) :
    ∃ comparison opposite, complement ⟨column, operator, false⟩ = ⟨column, opposite, false⟩ ∧
      (∀ operand, condition ⟨column, operator, false⟩ operand =
        ordering ⟨column, operator, false⟩ comparison operand) ∧
      ∀ operand, condition ⟨column, opposite, false⟩ operand =
        ordering ⟨column, opposite, false⟩ comparison.complement operand := by
  cases operator with
  | less => exact ⟨.lt, _, rfl, fun _ => rfl, fun _ => rfl⟩
  | lessEqual => exact ⟨.le, _, rfl, fun _ => rfl, fun _ => rfl⟩
  | greater => exact ⟨.gt, _, rfl, fun _ => rfl, fun _ => rfl⟩
  | greaterEqual => exact ⟨.ge, _, rfl, fun _ => rfl, fun _ => rfl⟩
  | _ => cases h

end

/-- The outcome of a complement: with one value to be ordered by, or with some values otherwise, it
is the opposite outcome; without a value both fail. -/
def Opposes (operator : Operator) (operand : Operand) (a b : Truth) : Prop :=
  (operand.values = [] → a = .no ∧ b = .no) ∧
    (operand.values ≠ [] → (operator.isOrdering → operand.values.length = 1) → b = a.not)

theorem condition_complement {operator : Operator} {column : String} {operand : Operand}
    {c : Condition} (h : condition ⟨column, operator, false⟩ operand = .ok c) :
    ∃ c', (complement ⟨column, operator, false⟩).condition operand = .ok c' ∧
      ∀ {α : Type*} [LinearOrder α] (datum : Value → α) (like : α → α → Bool)
        (row : String → Option α),
        Opposes operator operand (c.truth (Atom.truth (.ordered datum like) row))
          (c'.truth (Atom.truth (.ordered datum like) row)) := by
  by_cases ho : operator.isOrdering
  · obtain ⟨comparison, opposite, hc, hcondition, hopposite⟩ := exists_ordering column ho
    rw [hcondition] at h
    obtain ⟨c', hc'⟩ :=
      ordering_of_ordering h ⟨column, opposite, false⟩ comparison.complement
    refine ⟨c', by rw [hc, hopposite, hc'], ?_⟩
    intro α _ datum like row
    rw [truth_ordering datum like row _ h, truth_ordering datum like row _ hc']
    refine ⟨fun he => ?_, fun _ hone => throughout_complement datum like comparison _ (hone ho)⟩
    rw [Comparison.throughout, Comparison.throughout, if_pos he, if_pos he]
    exact ⟨rfl, rfl⟩
  · cases operator with
    | equal =>
      cases Except.ok.inj h
      refine ⟨equality ⟨column, .equal, true⟩ operand, rfl, ?_⟩
      intro α _ datum like row
      refine ⟨fun he => ?_, fun hv _ => ?_⟩
      · rw [truth_empty_equality _ he, truth_empty_equality _ he]
        exact ⟨rfl, rfl⟩
      · rw [truth_equality datum like row _ hv, truth_equality datum like row _ hv]
        rfl
    | like =>
      cases Except.ok.inj h
      refine ⟨likeness ⟨column, .like, true⟩ operand, rfl, ?_⟩
      intro α _ datum like row
      refine ⟨fun he => ?_, fun hv _ => ?_⟩
      · rw [truth_empty_likeness _ he, truth_empty_likeness _ he]
        exact ⟨rfl, rfl⟩
      · rw [truth_likeness datum like row _ hv, truth_likeness datum like row _ hv]
        rfl
    | between =>
      obtain ⟨c', hc'⟩ := bounds_of_bounds h ⟨column, .between, true⟩
      refine ⟨c', hc', ?_⟩
      intro α _ datum like row
      refine ⟨fun he => ?_, fun _ _ => ?_⟩
      · obtain ⟨low, high, rfl, _⟩ := bounds_eq_ok h
        cases he
      · rw [truth_bounds datum like row _ h, truth_bounds datum like row _ hc']
        rfl
    | _ => exact absurd rfl ho

end ConditionKey

/-- What a key without negation begins with. -/
def Operator.mark : Operator → String
  | .equal => ""
  | .like => "%"
  | .less => "<"
  | .lessEqual => "<="
  | .greater => ">"
  | .greaterEqual => ">="
  | .between => "<>"

theorem Operator.ofMark_mark (operator : Operator) {column : List Char} {c : Char}
    (hc : column.head? = some c) (h : isWordChar c) :
    ofMark (operator.mark.toList ++ column) = (operator, column) := by
  obtain ⟨cs, rfl⟩ := List.head?_eq_some_iff.mp hc
  have hlike : c ≠ '%' := by
    rintro rfl
    cases h
  have hless : c ≠ '<' := by
    rintro rfl
    cases h
  have hequal : c ≠ '=' := by
    rintro rfl
    cases h
  have hgreater : c ≠ '>' := by
    rintro rfl
    cases h
  cases operator <;> simp_all [mark, ofMark]

namespace ConditionKey

theorem column_complement (key : ConditionKey) : key.complement.column = key.column := by
  unfold complement
  split <;> rfl

theorem ofText_mark (operator : Operator) {column : String} (h : isIdentifier column.toList) :
    ofText (operator.mark ++ column) = ⟨column, operator, false⟩ ∧
      ofText ("!" ++ (operator.mark ++ column)) = complement ⟨column, operator, false⟩ := by
  obtain ⟨hn, hw⟩ := isWordChar_of_isIdentifier h
  obtain ⟨c, cs, hcs⟩ := List.exists_cons_of_ne_nil hn
  have hc : isWordChar c := hw c (by rw [hcs]; exact List.mem_cons_self)
  have hplain : ofPlainChars (operator.mark ++ column).toList = ⟨column, operator, false⟩ := by
    rw [ofPlainChars, String.toList_append,
      operator.ofMark_mark (by rw [hcs]; exact List.head?_cons) hc, String.ofList_toList]
  have hne : ∀ rest, (operator.mark ++ column).toList ≠ '!' :: rest := by
    intro rest he
    rw [String.toList_append, hcs] at he
    cases operator with
    | equal =>
      cases he
      cases hc
    | _ => cases he
  constructor
  · rw [ofText, ofChars.eq_2 _ hne, hplain]
  · rw [ofText, String.toList_append]
    exact congrArg complement hplain

end ConditionKey

/-- What stands for a single condition that is accepted. -/
theorem compile_single {key : String} {operand : Operand} {format : Format} {offset : Nat}
    {f : Fragment}
    (h : (Where.ofGroup (Group.withOperand {} key operand)).compile format offset = .ok f) :
    ∃ c, (ConditionKey.ofText key).condition operand = .ok c ∧
      f = c.template.fragment format.placeholder offset := by
  obtain ⟨t, ht, rfl⟩ := Where.compile_eq_ok h
  obtain ⟨clause, hc, rfl⟩ := Where.template_eq_ok ht
  obtain ⟨c, hentry⟩ := exists_of_mem_mapM (x := (key, operand)) (Where.mapM_entries hc)
    List.mem_cons_self
  refine ⟨c, hentry, ?_⟩
  rw [compile_entry hentry format offset] at h
  exact (Except.ok.inj h).symm

/-- The outcome of a single condition in three-valued logic is what its operator means, and the
outcome of its complement is the opposite one. -/
theorem compile_entry_means (operator : Operator) (column : String)
    (hcolumn : isIdentifier column.toList) (operand : Operand) (format : Format) (offset : Nat)
    (f : Fragment)
    (hf : (Where.ofGroup (Group.withOperand {} (operator.mark ++ column) operand)).compile
      format offset = .ok f) :
    ∃ (c c' : Condition) (f' : Fragment), f = c.template.fragment format.placeholder offset ∧
      (Where.ofGroup (Group.withOperand {} ("!" ++ (operator.mark ++ column)) operand)).compile
        format offset = .ok f' ∧
      f' = c'.template.fragment format.placeholder offset ∧
      (column.toList.map Char.toUpper ∉ Token.reservedWords → ∃ e e',
        Expression.read? f.params (c.template.sql .question offset) = some e ∧
        Expression.read? f'.params (c'.template.sql .question offset) = some e' ∧
        ∀ test, e.truth test = c.truth test ∧ e'.truth test = c'.truth test) ∧
      ∀ {α : Type*} [LinearOrder α] (datum : Value → α) (like : α → α → Bool)
        (row : String → Option α),
        c.truth (Atom.truth (.ordered datum like) row) =
          operator.meaning datum like (row column) operand ∧
        ConditionKey.Opposes operator operand (c.truth (Atom.truth (.ordered datum like) row))
          (c'.truth (Atom.truth (.ordered datum like) row)) := by
  obtain ⟨hkey, hcomplement⟩ := ConditionKey.ofText_mark operator hcolumn
  obtain ⟨c, hc, rfl⟩ := compile_single hf
  rw [hkey] at hc
  obtain ⟨c', hc', hopposes⟩ := ConditionKey.condition_complement hc
  have hentry' : entryCondition ("!" ++ (operator.mark ++ column), operand) = .ok c' := by
    rw [entryCondition, hcomplement, hc']
  refine ⟨c, c', _, rfl, compile_entry hentry' format offset, rfl, ?_, ?_⟩
  · intro hreserved
    have hplain : c.Plain := ConditionKey.plain_condition ⟨hcolumn, hreserved⟩ hc
    have hplain' : c'.Plain := by
      refine ConditionKey.plain_condition ?_ hc'
      rw [ConditionKey.column_complement]
      exact ⟨hcolumn, hreserved⟩
    refine ⟨c.expression, c'.expression, ?_, ?_, ?_⟩
    · exact (Condition.factorText hplain).level.read? offset
    · exact (Condition.factorText hplain').level.read? offset
    · intro test
      exact ⟨Condition.truth_expression hplain test, Condition.truth_expression hplain' test⟩
  · intro α _ datum like row
    exact ⟨ConditionKey.truth_condition datum like row hc, hopposes datum like row⟩

theorem compile_entry_means_ids :
    ∃ (c c' : Condition) (f' : Fragment),
      (⟨"(id IS NULL OR id IN ($3, $4))", [.int 5, .int 7]⟩ : Fragment) =
        c.template.fragment .dollar 2 ∧
      (Where.ofGroup (Group.withOperand {} "!id" (.list [.int 5, .null, .int 7]))).compile
        ⟨.dollar, 4⟩ 2 = .ok f' ∧
      f' = c'.template.fragment .dollar 2 ∧
      ("id".toList.map Char.toUpper ∉ Token.reservedWords → ∃ e e',
        Expression.read? [.int 5, .int 7] (c.template.sql .question 2) = some e ∧
        Expression.read? f'.params (c'.template.sql .question 2) = some e' ∧
        ∀ test, e.truth test = c.truth test ∧ e'.truth test = c'.truth test) ∧
      ∀ {α : Type} [LinearOrder α] (datum : Value → α) (like : α → α → Bool)
        (row : String → Option α),
        c.truth (Atom.truth (.ordered datum like) row) =
          Operator.equal.meaning datum like (row "id") (.list [.int 5, .null, .int 7]) ∧
        ConditionKey.Opposes .equal (.list [.int 5, .null, .int 7])
          (c.truth (Atom.truth (.ordered datum like) row))
          (c'.truth (Atom.truth (.ordered datum like) row)) := by
  have hf : (Where.ofGroup (Group.withOperand {} (Operator.equal.mark ++ "id")
      (.list [.int 5, .null, .int 7]))).compile ⟨.dollar, 4⟩ 2 =
      .ok ⟨"(id IS NULL OR id IN ($3, $4))", [.int 5, .int 7]⟩ := by
    rfl
  exact compile_entry_means .equal "id" (by decide) _ ⟨.dollar, 4⟩ 2 _ hf

end Criteria
