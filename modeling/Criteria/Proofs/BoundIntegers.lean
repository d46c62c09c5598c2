import Criteria.Proofs.Numbering
import Criteria.Proofs.ReadNumbers

namespace Criteria

theorem nearestEven_mul {den : Nat} (h : 0 < den) (whole : Nat) :
    nearestEven (whole * den) den = whole := by
  simp only [nearestEven, Nat.mul_div_cancel _ h, Nat.mul_mod_left, Nat.mul_zero, if_pos h]

namespace Precision

/-- Rounding keeps the magnitudes that there are. -/
theorem nearest_units (p : Precision) (rank : Nat) : p.nearest (p.units rank) 1 = rank := by
  obtain ⟨binade, place, rfl, hplace⟩ := p.exists_binade rank
  rw [p.units_eq binade place hplace, nearest_eq, Nat.div_one, Nat.one_mul]
  cases binade with
  | zero =>
    have hlog : place.log2 - p.fraction = 0 := by
      by_cases hz : place = 0
      · rw [hz, Nat.log2_zero, Nat.zero_sub]
      · have := (Nat.log2_lt hz).mpr hplace
        omega
    rw [if_pos rfl, hlog, Nat.pow_zero]
    have heven := nearestEven_mul Nat.one_pos place
    rw [Nat.mul_one] at heven
    exact congrArg (0 * 2 ^ p.fraction + ·) heven
  | succ binade =>
    have hpow : 0 < 2 ^ binade := Nat.two_pow_pos _
    have hlog : ((2 ^ p.fraction + place) * 2 ^ binade).log2 = p.fraction + binade := by
      have hlow : 2 ^ (p.fraction + binade) ≤ (2 ^ p.fraction + place) * 2 ^ binade := by
        rw [Nat.pow_add]
        exact Nat.mul_le_mul_right _ (Nat.le_add_right _ _)
      have hhigh : (2 ^ p.fraction + place) * 2 ^ binade < 2 ^ (p.fraction + binade + 1) := by
        rw [show p.fraction + binade + 1 = p.fraction + 1 + binade by omega, Nat.pow_add,
          Nat.pow_succ]
        exact Nat.mul_lt_mul_of_pos_right (by omega) hpow
      exact (Nat.log2_eq_iff (by omega)).mpr ⟨hlow, hhigh⟩
    rw [if_neg binade.succ_ne_zero, Nat.add_sub_cancel, hlog, Nat.add_sub_cancel_left,
      nearestEven_mul hpow, Nat.add_mul, Nat.one_mul, Nat.add_assoc]

end Precision

namespace Binary

variable {p : Precision}

/-- Whether a number is the integer; its magnitude counts units of `2 ^ -least`. -/
def IsInteger (n : Int) : Binary p → Prop
  | .finite negative rank =>
    (if negative then -(p.units rank : Int) else p.units rank) = n * (1 <<< p.least : Nat)
  | _ => False

instance (n : Int) : DecidablePred (IsInteger (p := p) n)
  | .nan | .infinite _ => inferInstanceAs (Decidable False)
  | .finite _ _ => inferInstanceAs (Decidable (_ = _))

/-- An integer is rounded to the number that it is, if there is one. -/
theorem ofRatio_of_isInteger {n : Int} {x : Binary p} (h : x.IsInteger n) (hn : n ≠ 0) :
    ofRatio p (n < 0) n.natAbs 1 = x := by
  cases x with
  | finite negative rank =>
    have hunit : 0 < ((1 <<< p.least : Nat) : Int) := by
      rw [Nat.shiftLeft_eq, Nat.one_mul]
      exact Int.natCast_pos.mpr (Nat.two_pow_pos _)
    have hunits : p.units rank = n.natAbs <<< p.least := by
      have habs := congrArg Int.natAbs h
      rw [Int.natAbs_mul, Int.natAbs_natCast, Nat.shiftLeft_eq, Nat.one_mul] at habs
      rw [Nat.shiftLeft_eq, ← habs]
      split
      next => rw [Int.natAbs_neg, Int.natAbs_natCast]
      next => rw [Int.natAbs_natCast]
    have hsign : decide (n < 0) = negative := by
      cases negative with
      | false =>
        refine decide_eq_false fun hneg => ?_
        have := Int.mul_neg_of_neg_of_pos hneg hunit
        have hu : (p.units rank : Int) = n * (1 <<< p.least : Nat) := h
        omega
      | true =>
        refine decide_eq_true ?_
        by_contra hneg
        have := Int.mul_pos (show 0 < n by omega) hunit
        have hu : -(p.units rank : Int) = n * (1 <<< p.least : Nat) := h
        omega
    rw [ofRatio, hsign, ← hunits, p.nearest_units, ofRank, dif_pos rank.isLt]
  | _ => exact h.elim

end Binary

namespace Value

/-- Whether a value is a number equal to the integer. -/
def IsInteger (n : Int) : Value → Prop
  | .int m => m.toInt = n
  | .float x => x.IsInteger n
  | _ => False

instance (n : Int) : DecidablePred (IsInteger n)
  | .null | .text _ => inferInstanceAs (Decidable False)
  | .int _ => inferInstanceAs (Decidable (_ = _))
  | .float x => inferInstanceAs (Decidable (x.IsInteger n))

/-- An integer past sixty-four bits is not changed by rounding if any value is equal to it. -/
theorem isInteger_ofRatio {n : Int} {value : Value} (h : value.IsInteger n)
    (hw : n < Int64.minValue.toInt ∨ Int64.maxValue.toInt < n) :
    (Value.float (.ofRatio .double (n < 0) n.natAbs 1)).IsInteger n := by
  have hlow := Int64.toInt_minValue
  have hhigh := Int64.toInt_maxValue
  cases value with
  | int m =>
    obtain rfl : m.toInt = n := h
    have := m.minValue_le_toInt
    have := m.toInt_le
    omega
  | float x => exact Binary.ofRatio_of_isInteger h (by omega) ▸ h
  | _ => exact h.elim

end Value

namespace Json

def isNull : Json → Bool
  | .null => true
  | _ => false

/-- The scalars of an operand. -/
def operandScalars : Json → List Json
  | .array items => items
  | j => [j]

mutual

/-- The scalars other than null under the keys of a level or of one of its elements, from left to
right and depth first. -/
def scalars : Json → List Json
  | .array items => itemScalars items
  | .object members =>
    (Keyed.lastValues members).flatMap fun member => member.2.operandScalars.filter (! ·.isNull)
  | _ => []

def itemScalars : List Json → List Json
  | [] => []
  | item :: rest => scalars item ++ itemScalars rest

end

/-- What is bound for a scalar. An integer that no value is equal to is rounded. -/
def BoundAs : Json → Value → Prop
  | .number (.integer n), value =>
    value.IsInteger n ∨ (∀ value' : Value, ¬ value'.IsInteger n) ∧
      value = .float (.ofRatio .double (n < 0) n.natAbs 1)
  | .number (.real x), value => value = .float x
  | .string s, value => value = .text s
  | _, _ => False

theorem DenotesValue.isNull_eq {j : Json} {value : Value} (h : j.DenotesValue value) :
    j.isNull = value.isNull := by
  cases h <;> rfl

theorem DenotesValue.boundAs {j : Json} {value : Value} (h : j.DenotesValue value)
    (hnull : value.isNull = false) : j.BoundAs value := by
  cases h with
  | null => cases hnull
  | text s => rfl
  | real x => rfl
  | integer n => exact .inl rfl
  | @wide n hw =>
    by_cases hv : ∃ value' : Value, value'.IsInteger n
    · obtain ⟨_, hv⟩ := hv
      exact .inl (Value.isInteger_ofRatio hv hw)
    · exact .inr ⟨not_exists.mp hv, rfl⟩

/-- Null is left out on both sides. -/
theorem forall₂_boundAs {items : List Json} {values : List Value}
    (h : List.Forall₂ DenotesValue items values) :
    List.Forall₂ BoundAs (items.filter (! ·.isNull)) (nonNull values) := by
  induction h with
  | nil => exact .nil
  | @cons item value items values hd _ ih =>
    rw [nonNull, List.filter_cons, List.filter_cons, hd.isNull_eq]
    cases hnull : value.isNull with
    | false => exact .cons (hd.boundAs hnull) ih
    | true => exact ih

theorem DenotesOperand.boundAs {j : Json} {operand : Operand} (h : j.DenotesOperand operand) :
    List.Forall₂ BoundAs (j.operandScalars.filter (! ·.isNull)) operand.boundValues := by
  cases h with
  | list hv => exact forall₂_boundAs hv
  | scalar hv =>
    have hscalars : j.operandScalars = [j] := by
      cases hv <;> rfl
    rw [hscalars]
    exact forall₂_boundAs (.cons hv .nil)

theorem DenotesGroup.boundAs {members : List (String × Json)} {g : Group}
    (h : DenotesGroup members g) :
    List.Forall₂ BoundAs (scalars (.object members))
      (g.present.flatMap fun entry => entry.2.boundValues) := by
  rw [DenotesGroup] at h
  rw [scalars, Group.present]
  generalize Keyed.lastValues members = members, g.entries = entries at h
  induction h with
  | nil => exact .nil
  | @cons member entry members entries hd _ ih =>
    obtain ⟨key, _⟩ := entry
    obtain ⟨_, operand, rfl, ho⟩ := hd
    exact List.rel_append ho.boundAs ih

mutual

theorem forall₂_scalars : ∀ (j : Json) (node : Node), j.DenotesElement node →
    List.Forall₂ BoundAs j.scalars (node.entries.flatMap fun entry => entry.2.boundValues)
  | _, _, .inl ⟨_, rfl, _, _, rfl⟩ => .nil
  | .object _, .group _, .inr (.group entries) => entries.boundAs
  | .array [.array items], .nested nodes, .inr (.nested level) => by
    have hitems := forall₂_itemScalars items 0 nodes (denotesLevel_array_iff.mp level).2
    rwa [scalars, itemScalars, itemScalars, List.append_nil]

theorem forall₂_itemScalars : ∀ (items : List Json) (index : Nat) (nodes : List Node),
    DenotesFrom index items nodes →
    List.Forall₂ BoundAs (itemScalars items)
      ((presentEntries nodes).flatMap fun entry => entry.2.boundValues)
  | [], _, nodes, h => by
    rw [denotesFrom_nil_iff.mp h]
    exact .nil
  | item :: rest, index, nodes, h => by
    obtain ⟨node, nodes', rfl, hitem, hrest⟩ := denotesFrom_cons_iff.mp h
    rw [presentEntries, List.flatMap_append]
    exact List.rel_append (forall₂_scalars item node (denotesAt_iff.mp hitem).2)
      (forall₂_itemScalars rest (index + 1) nodes' hrest)

end

end Json

/-- The values that are bound stand for the scalars other than null, in order. Integers are bound as
themselves as far as there are values for them. -/
theorem Where.forall₂_boundAs_params {j : Json} {tree : Where} {format : Format} {offset : Nat}
    {f : Fragment} (hj : ofJson j = .ok tree) (hf : tree.compile format offset = .ok f) :
    List.Forall₂ Json.BoundAs j.scalars f.params := by
  obtain ⟨t, ht, rfl⟩ := Where.compile_eq_ok hf
  have hparams : t.values = tree.boundValues := Where.values_template ht
  cases j with
  | array items =>
    have hlevel := Json.denotesLevel_array_iff.mp (ofJson_eq_ok_iff.mp hj)
    change List.Forall₂ Json.BoundAs (Json.array items).scalars t.values
    rw [hparams, Json.scalars]
    exact Json.forall₂_itemScalars items 0 tree.nodes hlevel.2
  | _ => cases ofJson_eq_ok_iff.mp hj

/-- `2 ^ 63` is too large for an integer of sixty-four bits, but not for a floating-point number. -/
def powerTree : Json :=
  .array [.object [("id", .number (.integer 0)), ("!n", .array [.number (.integer (-5)), .null]),
      ("id", .number (.integer (2 ^ 63)))],
    .string "or",
    .array [.array [.object [("<=n", .number (.integer (2 ^ 63 - 1))), ("%name", .string "k%")]]]]

theorem Where.forall₂_boundAs_powerTree : ∃ tree f, ofJson powerTree = .ok tree ∧
    tree.compile {} 0 = .ok f ∧ powerTree.scalars = [.number (.integer (2 ^ 63)),
      .number (.integer (-5)), .number (.integer (2 ^ 63 - 1)), .string "k%"] ∧
    List.Forall₂ Json.BoundAs powerTree.scalars f.params := by
  refine ⟨_, _, rfl, rfl, rfl, ?_⟩
  exact Where.forall₂_boundAs_params rfl rfl

/-- The integer behind `2 ^ 63` is bound as `2 ^ 63`. -/
theorem Where.bound_rounded :
    ∃ tree f value, ofJson (.array [.object [("id", .number (.integer (2 ^ 63 + 1)))]]) = .ok tree ∧
      tree.compile {} 0 = .ok f ∧ f.params = [value] ∧ value.IsInteger (2 ^ 63) ∧
      ¬ value.IsInteger (2 ^ 63 + 1) := by
  refine ⟨_, _, Value.ofNumber (.integer (2 ^ 63 + 1)), rfl, rfl, rfl, ?_⟩
  decide +kernel

end Criteria
