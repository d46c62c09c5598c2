import Criteria.Proofs.Readback

namespace Criteria

theorem length_nonNull_eq_iff {values : List Value} :
    (nonNull values).length = values.length ↔ values.any Value.isNull = false := by
  rw [nonNull, List.length_filter_eq_length_iff, List.any_eq_false]
  simp

/-- A list without a value other than null that holds no null either is empty. -/
theorem eq_nil_of_nonNull_eq_nil {values : List Value} (h : nonNull values = [])
    (hn : values.any Value.isNull = false) : values = [] := by
  rw [← nonNull_eq_self hn, h]

def Atom.testsNull : Atom → Bool
  | .isNull _ _ => true
  | _ => false

/-- The tests for null among those of a condition. -/
def Condition.nullTests (c : Condition) : List Atom := c.atoms.filter Atom.testsNull

namespace ConditionKey

variable (key : ConditionKey)

theorem nullTests_equality (values : List Value) :
    (key.equality (.list values)).nullTests =
      if values.any Value.isNull then [key.isNull] else [] := by
  by_cases hv : values = []
  · rw [hv]
    rfl
  · simp only [equality_list key hv, length_nonNull_eq_iff]
    split
    next hn =>
      have hany : values.any Value.isNull := by
        by_contra hf
        exact hv (eq_nil_of_nonNull_eq_nil hn (eq_false_of_ne_true hf))
      rw [if_pos hany]
      rfl
    next =>
      cases values.any Value.isNull <;> rfl

theorem nullTests_likeness (values : List Value) :
    (key.likeness (.list values)).nullTests =
      if values.any Value.isNull then [key.isNull] else [] := by
  by_cases hv : values = []
  · rw [hv]
    rfl
  · have hcompares : ((nonNull values).map (Atom.compare key.column
        (if key.negated then .notLike else .like))).filter Atom.testsNull = [] := by
      rw [List.filter_eq_nil_iff]
      intro a ha
      obtain ⟨value, _, rfl⟩ := List.mem_map.mp ha
      exact Bool.false_ne_true
    simp only [likeness_list key hv, length_nonNull_eq_iff, Condition.nullTests, Condition.atoms,
      List.filter_append, hcompares, List.nil_append]
    cases values.any Value.isNull <;> rfl

section

variable {values others : List Value} (h : nonNull others = nonNull values)
  (hn : others.any Value.isNull = values.any Value.isNull)

include h hn

theorem eq_nil_iff_of_nonNull_eq : others = [] ↔ values = [] := by
  constructor
  · rintro rfl
    exact eq_nil_of_nonNull_eq_nil h.symm hn.symm
  · rintro rfl
    exact eq_nil_of_nonNull_eq_nil h hn

theorem length_nonNull_iff_of_nonNull_eq :
    (nonNull values).length = others.length ↔ values.any Value.isNull = false := by
  rw [← h, length_nonNull_eq_iff, hn]

/-- A list counts by its values other than null and by whether it holds null at all. -/
theorem equality_congr : key.equality (.list others) = key.equality (.list values) := by
  by_cases hv : values = []
  · rw [hv, (eq_nil_iff_of_nonNull_eq h hn).mpr hv]
  · have ho : others ≠ [] := fun ho => hv ((eq_nil_iff_of_nonNull_eq h hn).mp ho)
    have hl := length_nonNull_iff_of_nonNull_eq h hn
    simp only [equality_list key hv, equality_list key ho, length_nonNull_eq_iff, h, hl]

theorem likeness_congr : key.likeness (.list others) = key.likeness (.list values) := by
  by_cases hv : values = []
  · rw [hv, (eq_nil_iff_of_nonNull_eq h hn).mpr hv]
  · have ho : others ≠ [] := fun ho => hv ((eq_nil_iff_of_nonNull_eq h hn).mp ho)
    have hl := length_nonNull_iff_of_nonNull_eq h hn
    simp only [likeness_list key hv, likeness_list key ho, length_nonNull_eq_iff, h, hl]

end

/-- A key that compares for equality or likeness, whether negated or not. -/
def SplitsNulls (key : ConditionKey) : Prop := key.operator = .equal ∨ key.operator = .like

variable {key}

/-- Such a key accepts every list; null turns into a single test at most. -/
theorem SplitsNulls.condition (hk : key.SplitsNulls) (values : List Value) :
    ∃ c, key.condition (.list values) = .ok c ∧
      c.nullTests = (if values.any Value.isNull then [key.isNull] else []) ∧
      ∀ others, nonNull others = nonNull values →
        others.any Value.isNull = values.any Value.isNull →
        key.condition (.list others) = .ok c := by
  rcases hk with hk | hk
  · refine ⟨key.equality (.list values), by rw [ConditionKey.condition, hk]; rfl,
      key.nullTests_equality values, fun others h hn => ?_⟩
    rw [ConditionKey.condition, hk, ← key.equality_congr h hn]
    rfl
  · refine ⟨key.likeness (.list values), by rw [ConditionKey.condition, hk]; rfl,
      key.nullTests_likeness values, fun others h hn => ?_⟩
    rw [ConditionKey.condition, hk, ← key.likeness_congr h hn]
    rfl

end ConditionKey

end Criteria
