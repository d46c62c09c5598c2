import Criteria.Proofs.ConditionForms
import Criteria.Proofs.PresentEntries

namespace Criteria

/-- Literal texts with the marks of bound values between them, behind `offset` bound values. -/
def Placeholder.spread (style : Placeholder) (offset : Nat) (first : String) :
    List String → String
  | [] => first
  | next :: rest => first ++ style.mark (offset + 1) ++ style.spread (offset + 1) next rest

def Operand.boundValues (operand : Operand) : List Value := nonNull operand.values

/-- The values other than null of the present entries of a tree, from left to right and depth
first. -/
def Where.boundValues (tree : Where) : List Value :=
  tree.entries.flatMap fun entry => entry.2.boundValues

theorem Placeholder.spread_append (style : Placeholder) (offset : Nat) (s first : String)
    (rest : List String) :
    style.spread offset (s ++ first) rest = s ++ style.spread offset first rest := by
  cases rest with
  | nil => rfl
  | cons next rest => simp only [spread, String.append_assoc]

namespace Template

def segments : Template → String × List String
  | [] => ("", [])
  | .text s :: rest => (s ++ (segments rest).1, (segments rest).2)
  | .bound _ :: rest => ("", (segments rest).1 :: (segments rest).2)

theorem length_segments (t : Template) : t.segments.2.length = t.values.length := by
  induction t with
  | nil => rfl
  | cons piece rest ih => cases piece <;> simp [segments, ih]

theorem sql_eq_spread (style : Placeholder) (offset : Nat) (t : Template) :
    t.sql style offset = style.spread offset t.segments.1 t.segments.2 := by
  induction t generalizing offset with
  | nil => rfl
  | cons piece rest ih =>
    cases piece with
    | text s => rw [sql, ih, segments, Placeholder.spread_append]
    | bound value => rw [sql, ih, segments, Placeholder.spread, String.empty_append]

theorem values_joined (separator : String) (parts : List Template) :
    (joined separator parts).values = parts.flatMap values := by
  induction parts with
  | nil => rfl
  | cons part rest ih =>
    cases rest with
    | nil => simp
    | cons next rest =>
      rw [joined_cons_cons, values_append, values_text, ih, ← List.flatMap_cons]

theorem values_parenthesised (t : Template) : t.parenthesised.values = t.values := by
  simp [parenthesised, values_append]

theorem values_joined_bound (separator : String) (vs : List Value) :
    (joined separator (vs.map fun value => [.bound value])).values = vs := by
  rw [values_joined, List.flatMap_map]
  induction vs with
  | nil => rfl
  | cons value vs ih => rw [List.flatMap_cons, ih]; rfl

end Template

namespace Atom

@[simp] theorem values_compare (column : String) (comparison : Comparison) (value : Value) :
    (compare column comparison value).template.values = [value] := rfl

@[simp] theorem values_isNull (column : String) (negated : Bool) :
    (isNull column negated).template.values = [] := rfl

@[simp] theorem values_isIn (column : String) (negated : Bool) (vs : List Value) :
    (isIn column negated vs).template.values = vs := by
  rw [template, List.cons_append, Template.values_text, Template.values_append,
    Template.values_joined_bound]
  simp

@[simp] theorem values_numerals (left right : Nat) :
    (numerals left right).template.values = [] := rfl

theorem flatMap_values_compare (column : String) (comparison : Comparison) (vs : List Value) :
    (vs.map (compare column comparison)).flatMap (fun a => a.template.values) = vs := by
  induction vs with
  | nil => rfl
  | cons value vs ih => rw [List.map_cons, List.flatMap_cons, ih]; rfl

end Atom

theorem Condition.values_joined (c : Connective) (atoms : List Atom) :
    (joined c atoms).template.values = atoms.flatMap fun a => a.template.values := by
  rw [template, Template.values_parenthesised, Template.values_joined, List.flatMap_map]

namespace ConditionKey

theorem values_equality (key : ConditionKey) (operand : Operand) :
    (key.equality operand).template.values = operand.boundValues := by
  cases operand with
  | scalar value => cases value <;> rfl
  | list values =>
    by_cases hv : values = []
    · rw [hv]
      rfl
    · rw [key.equality_list hv, Operand.boundValues, Operand.values]
      split
      next h =>
        rw [h]
        rfl
      next =>
        split
        next => exact Atom.values_isIn ..
        next => simp [Condition.values_joined, ConditionKey.isNull]

theorem values_likeness (key : ConditionKey) (operand : Operand) :
    (key.likeness operand).template.values = operand.boundValues := by
  cases operand with
  | scalar value => cases value <;> rfl
  | list values =>
    by_cases hv : values = []
    · rw [hv]
      rfl
    · rw [key.likeness_list hv, Condition.values_joined, List.flatMap_append,
        Atom.flatMap_values_compare]
      split <;> simp [Operand.boundValues, Operand.values, ConditionKey.isNull]

theorem values_ordering {key : ConditionKey} {comparison : Comparison} {operand : Operand}
    {c : Condition} (h : key.ordering comparison operand = .ok c) :
    c.template.values = operand.boundValues := by
  obtain ⟨value, rfl, hn, rfl⟩ | ⟨values, rfl, hn, rfl⟩ := ordering_eq_ok h
  · rw [Operand.boundValues, Operand.values, nonNull_eq_self (by simpa using hn)]
    rfl
  · rw [Operand.boundValues, Operand.values, nonNull_eq_self hn]
    split
    next he =>
      rw [he]
      rfl
    next => rw [Condition.values_joined, Atom.flatMap_values_compare]

theorem values_bounds {key : ConditionKey} {operand : Operand} {c : Condition}
    (h : key.bounds operand = .ok c) : c.template.values = operand.boundValues := by
  obtain ⟨low, high, rfl, hl, hh, rfl⟩ := bounds_eq_ok h
  have hv : (Operand.list [low, high]).boundValues = [low, high] :=
    nonNull_eq_self (by simp [Operand.values, hl, hh])
  rw [hv]
  split <;> simp [Condition.values_joined]

/-- A condition binds every value of its operand but null, in order. -/
theorem values_condition {key : ConditionKey} {operand : Operand} {c : Condition}
    (h : key.condition operand = .ok c) : c.template.values = operand.boundValues := by
  rcases condition_eq_ok h with rfl | rfl | h | ⟨comparison, h⟩
  · exact key.values_equality operand
  · exact key.values_likeness operand
  · exact values_bounds h
  · exact values_ordering h

end ConditionKey

theorem values_groupTemplate (first : Condition) (rest : List Condition) :
    (groupTemplate first rest).values =
      (first :: rest).flatMap fun c => c.template.values := by
  unfold groupTemplate
  split
  next h => simp [List.isEmpty_iff.mp h]
  next => rw [Template.values_parenthesised, Template.values_joined, List.flatMap_map]

mutual

theorem Term.values_template (indent depth : Nat) : ∀ term : Term,
    (term.template indent depth).values = term.conditions.flatMap fun c => c.template.values
  | .group first rest => by
    rw [Term.template, Term.conditions, values_groupTemplate]
  | .block first rest => by
    have hf := Term.values_template indent (depth + 1) first
    have hr := values_linkedTemplate indent (depth + 1) rest
    simp [Term.template, Term.conditions, Template.values_append, hf, hr]

theorem values_linkedTemplate (indent depth : Nat) : ∀ links : List (Connective × Term),
    (linkedTemplate indent depth links).values =
      (linkedConditions links).flatMap fun c => c.template.values
  | [] => rfl
  | (c, term) :: rest => by
    have ht := Term.values_template indent depth term
    have hr := values_linkedTemplate indent depth rest
    simp [linkedTemplate, linkedConditions, Template.values_append, ht, hr]

end

theorem Clause.values_template (indent : Nat) (clause : Clause) :
    (clause.template indent).values = clause.conditions.flatMap fun c => c.template.values := by
  simp [template, conditions, Template.values_append, Term.values_template, values_linkedTemplate]

theorem flatMap_values_of_mapM {entries : List (String × Operand)} {conditions : List Condition}
    (h : entries.mapM entryCondition = .ok conditions) :
    (conditions.flatMap fun c => c.template.values) =
      entries.flatMap fun entry => entry.2.boundValues := by
  have pairs := forall₂_of_mapM_ok h
  clear h
  induction pairs with
  | nil => rfl
  | cons hc _ ih => rw [List.flatMap_cons, List.flatMap_cons, ConditionKey.values_condition hc, ih]

theorem Where.values_template {tree : Where} {indent : Nat} {t : Template}
    (h : tree.template indent = .ok t) : t.values = tree.boundValues := by
  obtain ⟨clause, hc, rfl⟩ := Where.template_eq_ok h
  rw [Where.boundValues, ← flatMap_values_of_mapM (Where.mapM_entries hc)]
  cases clause with
  | none => rfl
  | some clause => exact clause.values_template indent

/-- Neither the placeholder style nor the number of values bound before it has a say in whether a
tree compiles, in the literal texts, or in the bound values. -/
theorem Where.compile_spread (tree : Where) (indent : Nat) :
    (∃ error, ∀ style offset, tree.compile ⟨style, indent⟩ offset = .error error) ∨
      ∃ first rest, rest.length = tree.boundValues.length ∧
        ∀ style offset, tree.compile ⟨style, indent⟩ offset =
          .ok ⟨style.spread offset first rest, tree.boundValues⟩ := by
  cases h : tree.template indent with
  | error error =>
    refine .inl ⟨error, fun style offset => ?_⟩
    rw [Where.compile, h]
    rfl
  | ok t =>
    have hv := Where.values_template h
    refine .inr ⟨t.segments.1, t.segments.2, by rw [t.length_segments, hv], ?_⟩
    intro style offset
    rw [Where.compile, h, ← hv, ← t.sql_eq_spread]
    rfl

end Criteria
