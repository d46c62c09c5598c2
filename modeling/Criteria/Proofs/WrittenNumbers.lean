import Criteria.Proofs.CommandOutput
import Mathlib.Data.List.DropRight

namespace Criteria

namespace Numeral

/-- Whether a point or an exponent tells a number from an integer. -/
def IsReal (n : Numeral) : Prop := n.fraction ≠ [] ∨ n.exponent ≠ none

theorem value?_of_isReal {n : Numeral} (h : n.IsReal) :
    n.value? = (scaled? n.significant.1 n.significant.2).map fun rank =>
      .real (.ofRank .double n.negative rank) := by
  have hn : ¬ (n.fraction = [] ∧ n.exponent = none) := by
    rintro ⟨hf, he⟩
    exact h.elim (· hf) (· he)
  simp only [value?]
  exact if_neg fun hi => hn ⟨hi.1, hi.2.1⟩

end Numeral

namespace Precision

theorem units_ne_zero (p : Precision) {rank : Nat} (h : rank ≠ 0) : p.units rank ≠ 0 := by
  obtain ⟨binade, place, rfl, hplace⟩ := p.exists_binade rank
  rw [p.units_eq binade place hplace]
  split
  next hb =>
    rw [hb, Nat.zero_mul, Nat.zero_add] at h
    exact h
  next =>
    have hfraction := Nat.two_pow_pos p.fraction
    have hshift := Nat.two_pow_pos (binade - 1)
    exact Nat.mul_ne_zero (by omega) (by omega)

end Precision

theorem Binary.ofRank_injective {p : Precision} {negative : Bool} {a b : Nat} (ha : a < p.limit)
    (hb : b < p.limit) (h : ofRank p negative a = ofRank p negative b) : a = b := by
  rw [ofRank, ofRank, dif_pos ha, dif_pos hb] at h
  cases h
  rfl

/-- Only zero is written by zeros. -/
theorem Decimal.digits_shortest_ne_zero {p : Precision} (tie : Tie) {rank : Nat} (hz : rank ≠ 0)
    (hl : rank < p.limit) : (shortest p tie rank).digits ≠ 0 := by
  simp only [shortest]
  cases hs : (List.range 17).findSome? fun n =>
      (neighbours tie (p.units rank * Nat.pow 5 p.least) p.least (n + 1)).find?
        (readsBack p rank) with
  | none =>
    exact Nat.mul_ne_zero (p.units_ne_zero hz) (Nat.pow_pos (by decide)).ne'
  | some d =>
    obtain ⟨n, _, hf⟩ := List.exists_of_findSome?_eq_some hs
    have hread : d.readsBack p rank := List.find?_some hf
    replace hread : d.toBinary p false = .ofRank p false rank := of_decide_eq_true hread
    intro hd
    rw [Option.getD_some] at hd
    rw [toBinary, if_pos (.inl hd)] at hread
    exact hz (Binary.ofRank_injective (Nat.zero_lt_of_lt hl) hl hread).symm

namespace NumberStyle

theorem significant_prefix (d : Decimal) : significant d <+: Nat.toDigits 10 d.digits :=
  List.rdropWhile_prefix _ _

theorem head?_significant {d : Decimal} (h : d.digits ≠ 0) :
    (significant d).head? ≠ some '0' := by
  intro hh
  obtain ⟨cs, hcs⟩ := List.head?_eq_some_iff.mp hh
  obtain ⟨rest, hr⟩ := significant_prefix d
  refine head?_toDigits (Nat.pos_of_ne_zero h) ?_
  rw [← hr, hcs]
  rfl

theorem significant_ne_nil {d : Decimal} (h : d.digits ≠ 0) : significant d ≠ [] := by
  intro hn
  have hzeros := List.rdropWhile_eq_nil_iff.mp hn
  obtain ⟨c, cs, hcs⟩ := List.exists_cons_of_ne_nil (Nat.toDigits_ne_nil (b := 10) (n := d.digits))
  have hc := hzeros c (by rw [hcs]; exact List.mem_cons_self)
  refine head?_toDigits (Nat.pos_of_ne_zero h) ?_
  rw [hcs, of_decide_eq_true hc]
  rfl

section

variable {digits : List Char} (hd : ∀ c ∈ digits, c.isDigit) (hn : digits ≠ [])

include hd hn

/-- With a point, digits are the text of a number that is not an integer. -/
theorem exists_positionalText (hz : digits.head? ≠ some '0') (point : Int) :
    ∃ n : Numeral, n.WellFormed ∧ n.IsReal ∧ positionalText true digits point = n.unsignedText := by
  have hzeros : ∀ k, ∀ c ∈ List.replicate k '0', c.isDigit := by
    intro k c hc
    rw [List.eq_of_mem_replicate hc]
    rfl
  have hzero : ∀ c ∈ ['0'], c.isDigit := List.forall_mem_singleton.mpr rfl
  unfold positionalText
  split
  next =>
    have hf : List.replicate (-point).toNat '0' ++ digits ≠ [] :=
      List.append_ne_nil_of_right_ne_nil _ hn
    refine ⟨⟨false, ['0'], List.replicate (-point).toNat '0' ++ digits, none⟩,
      ⟨hzero, List.cons_ne_nil _ _, fun _ => rfl, List.forall_mem_append.mpr ⟨hzeros _, hd⟩⟩,
      .inl hf, ?_⟩
    simp [Numeral.unsignedText, Numeral.fractionText, Numeral.exponentText, hn]
  next hp =>
    split
    next =>
      refine ⟨⟨false, digits ++ List.replicate (point.toNat - digits.length) '0', ['0'], none⟩,
        ⟨List.forall_mem_append.mpr ⟨hd, hzeros _⟩, List.append_ne_nil_of_left_ne_nil hn _, ?_,
          hzero⟩, .inl (List.cons_ne_nil _ _), ?_⟩
      · intro hh
        rw [List.head?_append_of_ne_nil _ hn] at hh
        exact absurd hh hz
      · simp [Numeral.unsignedText, Numeral.fractionText, Numeral.exponentText]
    next hl =>
      have hpos : point.toNat ≠ 0 := by
        omega
      have hf : digits.drop point.toNat ≠ [] := by
        rw [List.ne_nil_iff_length_pos, List.length_drop]
        omega
      refine ⟨⟨false, digits.take point.toNat, digits.drop point.toNat, none⟩,
        ⟨fun c hc => hd c (List.mem_of_mem_take hc), ?_, ?_,
          fun c hc => hd c (List.mem_of_mem_drop hc)⟩, .inl hf, ?_⟩
      · exact fun ht => (List.take_eq_nil_iff.mp ht).elim hpos hn
      · intro hh
        rw [List.head?_take, if_neg hpos] at hh
        exact absurd hh hz
      · simp only [Numeral.unsignedText, Numeral.fractionText, Numeral.exponentText, if_neg hf,
          List.append_nil]

theorem exists_exponentText (exponent : Int) :
    ∃ n : Numeral, n.WellFormed ∧ n.IsReal ∧ exponentText digits exponent = n.unsignedText := by
  obtain ⟨c, cs, rfl⟩ := List.exists_cons_of_ne_nil hn
  refine ⟨⟨false, [c], cs, some exponent⟩,
    ⟨List.forall_mem_singleton.mpr (hd c List.mem_cons_self), List.cons_ne_nil _ _, fun _ => rfl,
      fun d h => hd d (List.mem_cons_of_mem c h)⟩, .inr nofun, ?_⟩
  cases cs <;> rfl

end

/-- The digits of a floating-point number are written with a point or an exponent. -/
theorem exists_finiteText {rank : Nat} (hl : rank < Precision.double.limit) :
    ∃ n : Numeral, n.WellFormed ∧ n.IsReal ∧ ∀ negative,
      JsonNumber.style.finiteText .double negative rank =
        Numeral.text { n with negative := negative } := by
  by_cases hz : rank = 0
  · have hzero : ∀ c ∈ ['0'], c.isDigit := List.forall_mem_singleton.mpr rfl
    refine ⟨⟨false, ['0'], ['0'], none⟩,
      ⟨hzero, List.cons_ne_nil _ _, fun _ => rfl, hzero⟩, .inl (List.cons_ne_nil _ _),
      fun negative => ?_⟩
    rw [hz]
    cases negative <;> rfl
  · have hd := Decimal.digits_shortest_ne_zero JsonNumber.style.tie hz hl
    have hdigits : ∀ c ∈ significant (.shortest .double JsonNumber.style.tie rank), c.isDigit :=
      fun _ hc => isDigit_of_mem_significant hc
    have hunsigned : ∃ n : Numeral, n.WellFormed ∧ n.IsReal ∧
        JsonNumber.style.decimalText (.shortest .double JsonNumber.style.tie rank) =
          n.unsignedText := by
      unfold decimalText
      split
      next => exact exists_positionalText hdigits (significant_ne_nil hd) (head?_significant hd) _
      next => exact exists_exponentText hdigits (significant_ne_nil hd) _
    obtain ⟨n, hw, hr, htext⟩ := hunsigned
    refine ⟨n, hw, hr, fun negative => ?_⟩
    rw [finiteText, if_neg hz, htext]
    rfl

end NumberStyle

/-- Whether the digits that are written for a magnitude, by themselves, are read as that
magnitude. -/
def DigitsReadBack (rank : Nat) : Prop :=
  ((Numeral.scan? (JsonNumber.style.finiteText .double false rank)).bind fun (n, _) =>
    Numeral.scaled? n.significant.1 n.significant.2) = some rank

instance : DecidablePred DigitsReadBack := fun rank => inferInstanceAs (Decidable (_ = some rank))

/-- A floating-point number whose digits read back is read as that number, whatever its sign, and
never as an integer. -/
theorem JsonNumber.readsBack_real {rank : Fin Precision.double.limit} (h : DigitsReadBack rank)
    (negative : Bool) : (JsonNumber.real (.finite negative rank)).ReadsBack := by
  obtain ⟨n, hw, hr, htext⟩ := NumberStyle.exists_finiteText rank.isLt
  have hwn (negative : Bool) : Numeral.WellFormed { n with negative := negative } :=
    ⟨hw.whole, hw.nonempty, hw.leading, hw.fraction⟩
  have hrank : Numeral.scaled? n.significant.1 n.significant.2 = some rank.val := by
    rw [DigitsReadBack, htext, Numeral.scan?_text (hwn false)] at h
    exact h
  have hrn : Numeral.IsReal { n with negative := negative } := hr
  have hscan := Numeral.scan?_text (hwn negative)
  rw [← htext] at hscan
  refine readsBack_of_scan? (NumberStyle.isNumeralChar_of_mem_finiteText _ _ _ _) hscan ?_
  have hvalue := Numeral.value?_of_isReal hrn
  have hfinite : Binary.ofRank .double negative rank = .finite negative rank := dif_pos rank.isLt
  rw [hvalue, ← hfinite]
  exact congrArg (Option.map _) hrank

def Value.DigitsReadBack : Value → Prop
  | .float (.finite _ rank) => Criteria.DigitsReadBack rank
  | _ => True

instance : DecidablePred Value.DigitsReadBack := fun value =>
  match value with
  | .float (.finite _ rank) => inferInstanceAs (Decidable (Criteria.DigitsReadBack rank))
  | .null | .int _ | .text _ | .float .nan | .float (.infinite _) => .isTrue trivial

/-- A list of values is read back from its compact text as it is, and so every value keeps its kind.
All that is taken on trust is that the digits of its floating-point numbers are read as the
magnitudes for which they are written. -/
theorem Value.read?_listJson (values : List Value) (hfinite : ∀ value ∈ values, value.isFinite)
    (hdigits : ∀ value ∈ values, value.DigitsReadBack) :
    (Json.read? (listJson values).compact).bind listOfJson? = some values := by
  have hfloats : ∀ x, Value.float x ∈ values → x.isFinite → (JsonNumber.real x).ReadsBack := by
    intro x hx hf
    cases x with
    | finite negative rank => exact JsonNumber.readsBack_real (hdigits _ hx) negative
    | nan => cases hf
    | infinite negative => cases hf
  have hdepth : (listJson values).depth ≤ Json.maxDepth :=
    Nat.le_trans (Nat.le_of_eq (depth_listJson values)) (by decide)
  rw [Json.read?_compact (readsBack_listJson hfloats) hdepth, Option.bind_some]
  exact listOfJson?_listJson hfinite

def minusZero : Binary64 := .ofRank .double true 0

/-- A whole number that is written with an exponent. -/
def septillion : Binary64 := .ofRatio .double false (10 ^ 24) 1

/-- Values whose texts differ from those of another kind in a sign, a point or quotes at most. -/
def lookalikes : List Value :=
  [.null, .text "null", .int Int64.minValue, .int 0, .float minusZero, .float half, .text "0.5",
    .float septillion, .text "\"\\\n\x01"]

theorem read?_listJson_lookalikes :
    (Json.read? (Value.listJson lookalikes).compact).bind Value.listOfJson? = some lookalikes :=
  Value.read?_listJson lookalikes (by decide +kernel) (by decide +kernel)

end Criteria
