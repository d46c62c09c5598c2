import Criteria.Condition
import Mathlib.Data.List.Basic

namespace Criteria

def nonNull (values : List Value) : List Value := values.filter fun value => !value.isNull

theorem nonNull_eq_self {values : List Value} (h : values.any Value.isNull = false) :
    nonNull values = values := by
  rw [nonNull, List.filter_eq_self]
  intro value hv
  simpa using List.any_eq_false.mp h value hv

/-- The tests of a condition, in order. -/
def Condition.atoms : Condition → List Atom
  | .atom a => [a]
  | .joined _ atoms => atoms

/-- Whether a test is about no column but one. -/
def Atom.IsAbout (column : String) : Atom → Prop
  | .compare c _ _ | .isNull c _ | .isIn c _ _ => c = column
  | .numerals _ _ => True

namespace ConditionKey

variable (key : ConditionKey)

theorem equality_scalar (value : Value) :
    key.equality (.scalar value) =
      if value.isNull then .atom key.isNull
      else .atom (.compare key.column (if key.negated then .ne else .eq) value) := by
  cases value <;> rfl

theorem equality_list {values : List Value} (h : values ≠ []) :
    key.equality (.list values) =
      if nonNull values = [] then .atom key.isNull
      else if (nonNull values).length = values.length then
        .atom (.isIn key.column key.negated (nonNull values))
      else
        .joined key.alternatives
          [key.isNull, .isIn key.column key.negated (nonNull values)] := by
  cases values with
  | nil => exact absurd rfl h
  | cons value rest =>
    simp only [← List.isEmpty_iff]
    rfl

theorem likeness_scalar (value : Value) :
    key.likeness (.scalar value) =
      if value.isNull then .atom key.isNull
      else .atom (.compare key.column (if key.negated then .notLike else .like) value) := by
  cases value <;> rfl

theorem likeness_list {values : List Value} (h : values ≠ []) :
    key.likeness (.list values) =
      .joined key.alternatives
        ((nonNull values).map (.compare key.column (if key.negated then .notLike else .like)) ++
          if (nonNull values).length = values.length then [] else [key.isNull]) := by
  cases values with
  | nil => exact absurd rfl h
  | cons value rest =>
    simp only [likeness, ← nonNull.eq_1]
    split
    next => rw [List.append_nil]
    next => rfl

theorem ordering_scalar (comparison : Comparison) (value : Value) :
    key.ordering comparison (.scalar value) =
      if value.isNull then .error (.nullComparison key.column key.operator key.negated)
      else .ok (.atom (.compare key.column comparison value)) := rfl

theorem ordering_list (comparison : Comparison) (values : List Value) :
    key.ordering comparison (.list values) =
      if values.any Value.isNull then .error (.nullComparison key.column key.operator key.negated)
      else if values = [] then .ok (.atom (.numerals 0 2))
      else .ok (.joined .and (values.map (.compare key.column comparison))) := by
  simp only [← List.isEmpty_iff]
  rfl

theorem bounds_pair (low high : Value) :
    key.bounds (.list [low, high]) =
      if low.isNull ∨ high.isNull then
        .error (.nullComparison key.column key.operator key.negated)
      else if key.negated then
        .ok (.joined .or [.compare key.column .lt low, .compare key.column .gt high])
      else .ok (.joined .and [.compare key.column .ge low, .compare key.column .le high]) := rfl

variable {key}

theorem bounds_eq_ok {operand : Operand} {c : Condition} (h : key.bounds operand = .ok c) :
    ∃ low high, operand = .list [low, high] ∧ low.isNull = false ∧ high.isNull = false ∧
      c = if key.negated then
          .joined .or [.compare key.column .lt low, .compare key.column .gt high]
        else .joined .and [.compare key.column .ge low, .compare key.column .le high] := by
  unfold bounds at h
  split at h
  next low high =>
    split at h
    next => cases h
    next hn =>
      have hl : low.isNull = false := by simp_all
      have hh : high.isNull = false := by simp_all
      refine ⟨low, high, rfl, hl, hh, ?_⟩
      split at h
      next hneg => cases h; rw [if_pos hneg]
      next hneg => cases h; rw [if_neg hneg]
  next => cases h

theorem ordering_eq_ok {comparison : Comparison} {operand : Operand} {c : Condition}
    (h : key.ordering comparison operand = .ok c) :
    (∃ value, operand = .scalar value ∧ value.isNull = false ∧
      c = .atom (.compare key.column comparison value)) ∨
    ∃ values, operand = .list values ∧ values.any Value.isNull = false ∧
      c = if values = [] then .atom (.numerals 0 2)
        else .joined .and (values.map (.compare key.column comparison)) := by
  cases operand with
  | scalar value =>
    rw [ordering_scalar] at h
    split at h
    next => cases h
    next hn =>
      cases h
      exact .inl ⟨value, rfl, Bool.eq_false_iff.mpr hn, rfl⟩
  | list values =>
    rw [ordering_list] at h
    split at h
    next => cases h
    next hn =>
      refine .inr ⟨values, rfl, Bool.eq_false_iff.mpr hn, ?_⟩
      split at h
      next he => cases h; rw [if_pos he]
      next he => cases h; rw [if_neg he]

/-- The four forms of what a key asks for. -/
theorem condition_eq_ok {operand : Operand} {c : Condition} (h : key.condition operand = .ok c) :
    c = key.equality operand ∨ c = key.likeness operand ∨ key.bounds operand = .ok c ∨
      ∃ comparison, key.ordering comparison operand = .ok c := by
  unfold condition at h
  split at h
  next => exact .inl (Except.ok.inj h).symm
  next => exact .inr (.inl (Except.ok.inj h).symm)
  next => exact .inr (.inr (.inl h))
  next => exact .inr (.inr (.inr ⟨_, h⟩))
  next => exact .inr (.inr (.inr ⟨_, h⟩))
  next => exact .inr (.inr (.inr ⟨_, h⟩))
  next => exact .inr (.inr (.inr ⟨_, h⟩))

theorem isAbout_compares (column : String) (comparison : Comparison) (values : List Value) :
    ∀ a ∈ values.map (.compare column comparison), Atom.IsAbout column a := by
  intro a ha
  obtain ⟨value, _, rfl⟩ := List.mem_map.mp ha
  rfl

theorem isAbout_equality (key : ConditionKey) (operand : Operand) :
    ∀ a ∈ (key.equality operand).atoms, a.IsAbout key.column := by
  cases operand with
  | scalar value =>
    rw [equality_scalar]
    split <;> exact List.forall_mem_singleton.mpr rfl
  | list values =>
    by_cases hv : values = []
    · rw [hv]
      exact List.forall_mem_singleton.mpr trivial
    · rw [equality_list key hv]
      split
      next => exact List.forall_mem_singleton.mpr rfl
      next =>
        split
        next => exact List.forall_mem_singleton.mpr rfl
        next => exact List.forall_mem_cons.mpr ⟨rfl, List.forall_mem_singleton.mpr rfl⟩

theorem isAbout_likeness (key : ConditionKey) (operand : Operand) :
    ∀ a ∈ (key.likeness operand).atoms, a.IsAbout key.column := by
  cases operand with
  | scalar value =>
    rw [likeness_scalar]
    split <;> exact List.forall_mem_singleton.mpr rfl
  | list values =>
    by_cases hv : values = []
    · rw [hv]
      exact List.forall_mem_singleton.mpr trivial
    · rw [likeness_list key hv]
      refine List.forall_mem_append.mpr ⟨isAbout_compares _ _ _, ?_⟩
      split
      next => exact nofun
      next => exact List.forall_mem_singleton.mpr rfl

/-- Every test that a key asks for is about the column of the key. -/
theorem isAbout_condition {operand : Operand} {c : Condition} (h : key.condition operand = .ok c) :
    ∀ a ∈ c.atoms, a.IsAbout key.column := by
  rcases condition_eq_ok h with rfl | rfl | h | ⟨comparison, h⟩
  · exact key.isAbout_equality operand
  · exact key.isAbout_likeness operand
  · obtain ⟨low, high, rfl, _, _, rfl⟩ := bounds_eq_ok h
    split <;> exact List.forall_mem_cons.mpr ⟨rfl, List.forall_mem_singleton.mpr rfl⟩
  · obtain ⟨value, rfl, _, rfl⟩ | ⟨values, rfl, _, rfl⟩ := ordering_eq_ok h
    · exact List.forall_mem_singleton.mpr rfl
    · split
      next => exact List.forall_mem_singleton.mpr trivial
      next => exact isAbout_compares _ _ _

end ConditionKey

end Criteria
