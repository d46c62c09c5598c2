import Criteria.Numeral
import Mathlib.Algebra.Order.Ring.Nat
import Mathlib.Tactic.Ring

namespace Criteria

theorem nearestEven_le (num den : Nat) : nearestEven num den ≤ num / den + 1 := by
  have hm : num / den % 2 < 2 := Nat.mod_lt _ (by decide)
  simp only [nearestEven]
  split
  next => exact Nat.le_succ _
  next =>
    split
    next => exact Nat.le_refl _
    next => exact Nat.add_le_add_left (Nat.le_of_lt_succ hm) _

namespace Precision

variable {p : Precision} {num den rank bits m : Nat}

theorem nearest_eq (p : Precision) (num den : Nat) :
    p.nearest num den = ((num / den).log2 - p.fraction) * 2 ^ p.fraction +
      nearestEven num (den * 2 ^ ((num / den).log2 - p.fraction)) := by
  simp only [nearest, Nat.shiftLeft_eq]

/-- Rounding adds at most one unit in the last place. -/
theorem nearest_le (h : num / den < 2 ^ bits) (hb : p.fraction < bits) :
    p.nearest num den ≤ (bits - p.fraction + 1) * 2 ^ p.fraction := by
  let shift := (num / den).log2 - p.fraction
  have hlog : (num / den).log2 < bits := by
    by_cases hz : num / den = 0
    · rw [hz, Nat.log2_zero]
      omega
    · exact (Nat.log2_lt hz).mpr h
  have hpow : 2 ^ ((num / den).log2 + 1) ≤ 2 ^ (shift + (p.fraction + 1)) :=
    Nat.pow_le_pow_right (by decide) (by omega)
  have hwhole : num / (den * 2 ^ shift) < 2 ^ (p.fraction + 1) := by
    rw [← Nat.div_div_eq_div_mul]
    refine Nat.div_lt_of_lt_mul (Nat.lt_of_lt_of_le Nat.lt_log2_self ?_)
    rwa [← Nat.pow_add]
  have heven : nearestEven num (den * 2 ^ shift) ≤ 2 * 2 ^ p.fraction := by
    rw [← Nat.pow_succ']
    exact Nat.le_trans (nearestEven_le _ _) hwhole
  calc p.nearest num den = shift * 2 ^ p.fraction + nearestEven num (den * 2 ^ shift) :=
        p.nearest_eq num den
    _ ≤ (shift + 2) * 2 ^ p.fraction := by
        rw [Nat.add_mul]
        exact Nat.add_le_add_left heven _
    _ ≤ (bits - p.fraction + 1) * 2 ^ p.fraction := Nat.mul_le_mul_right _ (by omega)

theorem le_nearest (h : 2 ^ bits ≤ num / den) :
    (bits - p.fraction) * 2 ^ p.fraction ≤ p.nearest num den := by
  have hz : num / den ≠ 0 := by
    have := Nat.two_pow_pos bits
    omega
  have hlog : bits ≤ (num / den).log2 := (Nat.le_log2 hz).mpr h
  rw [nearest_eq]
  exact Nat.le_trans (Nat.mul_le_mul_right _ (by omega)) (Nat.le_add_right _ _)

/-- The magnitude of a rank: past the first binade every binade doubles the unit. -/
theorem units_eq (p : Precision) (binade place : Nat) (h : place < 2 ^ p.fraction) :
    p.units (binade * 2 ^ p.fraction + place) =
      if binade = 0 then place else (2 ^ p.fraction + place) * 2 ^ (binade - 1) := by
  have hbinade : (binade * 2 ^ p.fraction + place) / 2 ^ p.fraction = binade := by
    rw [Nat.mul_comm, Nat.mul_add_div (Nat.two_pow_pos _), Nat.div_eq_of_lt h, Nat.add_zero]
  simp only [units, shift, Nat.shiftLeft_eq, Nat.shiftRight_eq_div_pow, hbinade]
  cases binade with
  | zero => simp
  | succ binade =>
    have hplace : (binade + 1) * 2 ^ p.fraction + place - binade * 2 ^ p.fraction =
        2 ^ p.fraction + place := by
      rw [Nat.add_mul]
      omega
    rw [Nat.add_sub_cancel, hplace, if_neg binade.succ_ne_zero]

theorem exists_binade (p : Precision) (rank : Nat) :
    ∃ binade place, rank = binade * 2 ^ p.fraction + place ∧ place < 2 ^ p.fraction :=
  ⟨rank / 2 ^ p.fraction, rank % 2 ^ p.fraction, (Nat.div_add_mod' rank _).symm,
    Nat.mod_lt _ (Nat.two_pow_pos _)⟩

theorem units_lt (h : rank < m * 2 ^ p.fraction) : p.units rank < 2 ^ (p.fraction + m) := by
  obtain ⟨binade, place, rfl, hplace⟩ := p.exists_binade rank
  rw [p.units_eq binade place hplace]
  have hbinade : binade < m := by
    by_contra hm
    have := Nat.mul_le_mul_right (2 ^ p.fraction) (Nat.le_of_not_lt hm)
    omega
  split
  next => exact Nat.lt_of_lt_of_le hplace (Nat.pow_le_pow_right (by decide) (Nat.le_add_right _ _))
  next hb =>
    calc (2 ^ p.fraction + place) * 2 ^ (binade - 1)
        < 2 ^ (p.fraction + 1) * 2 ^ (binade - 1) := by
          refine Nat.mul_lt_mul_of_pos_right ?_ (Nat.two_pow_pos _)
          rw [Nat.pow_succ]
          omega
      _ = 2 ^ (p.fraction + 1 + (binade - 1)) := (Nat.pow_add _ _ _).symm
      _ ≤ 2 ^ (p.fraction + m) := Nat.pow_le_pow_right (by decide) (by omega)

theorem le_units (h : (m + 1) * 2 ^ p.fraction ≤ rank) : 2 ^ (p.fraction + m) ≤ p.units rank := by
  obtain ⟨binade, place, rfl, hplace⟩ := p.exists_binade rank
  rw [p.units_eq binade place hplace]
  have hbinade : m < binade := by
    by_contra hm
    have := Nat.mul_le_mul_right (2 ^ p.fraction) (show binade + 1 ≤ m + 1 by omega)
    rw [Nat.add_mul] at this
    omega
  rw [if_neg (by omega)]
  calc 2 ^ (p.fraction + m) ≤ 2 ^ (p.fraction + (binade - 1)) :=
        Nat.pow_le_pow_right (by decide) (by omega)
    _ = 2 ^ p.fraction * 2 ^ (binade - 1) := Nat.pow_add _ _ _
    _ ≤ (2 ^ p.fraction + place) * 2 ^ (binade - 1) :=
        Nat.mul_le_mul_right _ (Nat.le_add_right _ _)

theorem le_units_powerOfTen (hl : p.fraction < p.least) (exponent : Nat) :
    2 ^ (p.least - 1) ≤ p.units (p.powerOfTen exponent) := by
  have hone : 2 ^ p.least ≤ (Nat.pow 10 exponent <<< p.least) / 1 := by
    rw [Nat.div_one, Nat.shiftLeft_eq]
    exact Nat.le_mul_of_pos_left _ (Nat.pow_pos (by decide))
  have hrank : (p.least - 1 - p.fraction + 1) * 2 ^ p.fraction ≤ p.powerOfTen exponent := by
    rw [show p.least - 1 - p.fraction + 1 = p.least - p.fraction by omega]
    exact le_nearest hone
  have hunits := le_units hrank
  rwa [show p.fraction + (p.least - 1 - p.fraction) = p.least - 1 by omega] at hunits

/-- A quotient by a power of ten is not much larger than what is divided. -/
theorem overPowerOfTen_le (hl : p.fraction < p.least) (h : rank < m * 2 ^ p.fraction)
    (exponent : Nat) : p.overPowerOfTen rank exponent ≤ (m + 2) * 2 ^ p.fraction := by
  have hpower := le_units_powerOfTen hl exponent
  have hquotient : (p.units rank <<< p.least) / p.units (p.powerOfTen exponent) <
      2 ^ (p.fraction + m + 1) := by
    refine Nat.div_lt_of_lt_mul (Nat.lt_of_lt_of_le ?_ (Nat.mul_le_mul_right _ hpower))
    have hsplit : 2 ^ (p.least - 1) * 2 ^ (p.fraction + m + 1) =
        2 ^ (p.fraction + m) * 2 ^ p.least := by
      rw [← Nat.pow_add, ← Nat.pow_add]
      congr 1
      omega
    rw [Nat.shiftLeft_eq, hsplit]
    exact Nat.mul_lt_mul_of_pos_right (units_lt h) (Nat.two_pow_pos _)
  have hnearest := nearest_le hquotient (by omega : p.fraction < p.fraction + m + 1)
  rwa [show p.fraction + m + 1 - p.fraction + 1 = m + 2 by omega] at hnearest

end Precision

theorem Binary.isFinite_ofRank {p : Precision} {rank : Nat} (negative : Bool)
    (h : rank < p.limit) : (ofRank p negative rank).isFinite := by
  rw [ofRank, dif_pos h]
  rfl

/-- An integer of sixty-four bits is not much larger than `2 ^ 64` as a floating-point number. -/
theorem nearest_word_le {n : Nat} (h : n < UInt64.size) :
    Precision.double.nearest (n <<< Precision.double.least) 1 ≤ 1087 * 2 ^ 52 := by
  have hword : (n <<< Precision.double.least) / 1 < 2 ^ 1138 := by
    rw [Nat.div_one, Nat.shiftLeft_eq, show (1138 : Nat) = 64 + Precision.double.least from rfl,
      Nat.pow_add]
    exact Nat.mul_lt_mul_of_pos_right h (Nat.two_pow_pos _)
  have hfraction : Precision.double.fraction = 52 := rfl
  have hnearest := Precision.nearest_le (p := .double) hword (by decide)
  rwa [hfraction] at hnearest

theorem lt_limit_of_le {m rank : Nat} (hm : m < 2047) (h : rank ≤ m * 2 ^ 52) :
    rank < Precision.double.limit := by
  have hl : Precision.double.limit = 2047 * 2 ^ 52 := Nat.shiftLeft_eq 2047 52
  rw [hl]
  omega

namespace Numeral

theorem appendFitting_lt (ds : List Char) {significand : Nat} (h : significand < UInt64.size) :
    (appendFitting significand ds).1 < UInt64.size := by
  induction ds generalizing significand with
  | nil => exact h
  | cons d ds ih =>
    simp only [appendFitting]
    split
    next hn => exact ih hn
    next => exact h

theorem significant_lt (n : Numeral) : n.significant.1 < UInt64.size :=
  appendFitting_lt n.fraction (appendFitting_lt n.whole (by decide))

theorem scaled?_lt {significand : Nat} (hs : significand < UInt64.size) {exponent : Int}
    {rank : Nat} (h : scaled? significand exponent = some rank) : rank < Precision.double.limit := by
  have hbase : Precision.double.nearest (significand <<< Precision.double.least) 1 <
      1088 * 2 ^ 52 := by
    have := nearest_word_le hs
    omega
  simp only [scaled?] at h
  split at h
  next =>
    split at h
    next =>
      split at h
      next =>
        cases h
        exact lt_limit_of_le (m := 0) (by decide) (Nat.zero_le _)
      next => cases h
    next =>
      split at h
      next hr =>
        cases h
        exact hr
      next => cases h
  next =>
    have hquotient {rank m : Nat} (hr : rank < m * 2 ^ 52) (exponent : Nat) :
        Precision.double.overPowerOfTen rank exponent ≤ (m + 2) * 2 ^ 52 :=
      Precision.overPowerOfTen_le (by decide) hr exponent
    split at h
    next =>
      cases h
      exact lt_limit_of_le (by decide) (hquotient hbase _)
    next =>
      split at h
      next =>
        cases h
        have hfirst := hquotient hbase maxPower
        exact lt_limit_of_le (by decide) (hquotient (m := 1091) (by omega) _)
      next =>
        cases h
        exact lt_limit_of_le (m := 0) (by decide) (Nat.zero_le _)

end Numeral

def JsonNumber.isFinite : JsonNumber → Bool
  | .integer n => Int64.minValue.toInt ≤ n ∧ n < UInt64.size
  | .real x => x.isFinite

/-- The value of a number as written is never infinite. -/
theorem Numeral.isFinite_of_value? {n : Numeral} {number : JsonNumber}
    (h : n.value? = some number) : number.isFinite := by
  simp only [value?] at h
  generalize (if n.negative then -(Decimal.ofDigits n.whole : Int)
    else Decimal.ofDigits n.whole) = integer at h
  split at h
  next hn =>
    cases h
    exact decide_eq_true hn.2.2.2
  next =>
    obtain ⟨rank, hr, rfl⟩ := Option.map_eq_some_iff.mp h
    exact Binary.isFinite_ofRank n.negative (scaled?_lt n.significant_lt hr)

end Criteria
