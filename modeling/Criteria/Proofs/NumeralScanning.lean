import Criteria.JsonReader
import Criteria.JsonWriter
import Mathlib.Data.List.Basic
import Mathlib.Data.List.TakeWhile
import Mathlib.Tactic.IntervalCases

namespace Criteria

/-- Whether a character can stand in a number. -/
def isNumeralChar (c : Char) : Bool :=
  c.isDigit || Numeral.isExponentMark c || c = '.' || c = '+' || c = '-'

/-- Whether no number goes on with a text. -/
def EndsNumeral (rest : List Char) : Prop := ∀ c ∈ rest.head?, isNumeralChar c = false

theorem endsNumeral_nil : EndsNumeral [] := nofun

theorem endsNumeral_cons {c : Char} (h : isNumeralChar c = false) (cs : List Char) :
    EndsNumeral (c :: cs) := by
  intro d hd
  rwa [← Option.some.inj hd]

section

variable {rest : List Char} (h : EndsNumeral rest)

include h

theorem head?_append_eq_some_iff (cs : List Char) {c : Char} (hc : isNumeralChar c) :
    (cs ++ rest).head? = some c ↔ cs.head? = some c := by
  cases cs with
  | cons d cs => exact Iff.rfl
  | nil =>
    refine iff_of_false (fun hr => ?_) nofun
    rw [h c hr] at hc
    cases hc

theorem takeWhile_isDigit_append (cs : List Char) :
    (cs ++ rest).takeWhile Char.isDigit = cs.takeWhile Char.isDigit := by
  induction cs with
  | cons c cs ih => rw [List.cons_append, List.takeWhile_cons, List.takeWhile_cons, ih]
  | nil =>
    cases rest with
    | nil => rfl
    | cons c rest =>
      have hc : c.isDigit = false := by
        have hn := h c rfl
        simp_all [isNumeralChar]
      rw [List.nil_append, List.takeWhile_cons, hc]
      rfl

end

theorem length_takeWhile_isDigit_le (cs : List Char) :
    (cs.takeWhile Char.isDigit).length ≤ cs.length :=
  (List.takeWhile_prefix _).length_le

namespace Numeral

/-- How many characters a fraction takes, with the point before it. -/
def fractionLength (fraction : List Char) : Nat :=
  if fraction = [] then 0 else fraction.length + 1

theorem fraction?_eq (cs : List Char) :
    fraction? cs =
      if cs.head? = some '.' then
        if (cs.drop 1).takeWhile Char.isDigit = [] then none
        else some ((cs.drop 1).takeWhile Char.isDigit)
      else some [] := by
  unfold fraction?
  split
  next => rfl
  next hne =>
    rw [if_neg]
    intro hd
    obtain ⟨cs, rfl⟩ := List.head?_eq_some_iff.mp hd
    exact hne cs rfl

theorem fractionLength_le {cs fraction : List Char} (h : fraction? cs = some fraction) :
    fractionLength fraction ≤ cs.length := by
  rw [fraction?_eq] at h
  split at h
  next hd =>
    obtain ⟨cs, rfl⟩ := List.head?_eq_some_iff.mp hd
    split at h
    next => cases h
    next hne =>
      cases h
      have hl := length_takeWhile_isDigit_le cs
      rw [fractionLength, if_neg hne, List.length_cons, List.drop_one, List.tail_cons]
      omega
  next =>
    cases h
    exact Nat.zero_le _

def signLength (cs : List Char) : Nat :=
  if cs.head? = some '+' ∨ cs.head? = some '-' then 1 else 0

theorem signLength_le (cs : List Char) : signLength cs ≤ cs.length := by
  cases cs with
  | nil => decide
  | cons c cs =>
    unfold signLength
    split
    next => simp
    next => exact Nat.zero_le _

theorem signed?_eq (cs : List Char) :
    signed? cs =
      if (cs.drop (signLength cs)).takeWhile Char.isDigit = [] then none
      else
        let magnitude : Int := Decimal.ofDigits ((cs.drop (signLength cs)).takeWhile Char.isDigit)
        some (if cs.head? = some '-' then -magnitude else magnitude,
          signLength cs + ((cs.drop (signLength cs)).takeWhile Char.isDigit).length) := by
  cases cs with
  | nil => rfl
  | cons c cs =>
    by_cases hp : c = '+'
    · rw [hp]
      rfl
    · by_cases hm : c = '-'
      · rw [hm]
        rfl
      · have hs : signLength (c :: cs) = 0 := if_neg (by simp [hp, hm])
        simp [signed?, hs, hp, hm]

theorem taken_le_of_signed? {cs : List Char} {e : Int} {taken : Nat}
    (h : signed? cs = some (e, taken)) : taken ≤ cs.length := by
  rw [signed?_eq] at h
  split at h
  next => cases h
  next =>
    cases h
    have hs := signLength_le cs
    have hd := length_takeWhile_isDigit_le (cs.drop (signLength cs))
    rw [List.length_drop] at hd
    omega

theorem taken_le_of_exponent? {cs : List Char} {e : Option Int} {taken : Nat}
    (h : exponent? cs = some (e, taken)) : taken ≤ cs.length := by
  cases cs with
  | nil =>
    cases h
    exact Nat.le_refl 0
  | cons c cs =>
    rw [exponent?] at h
    split at h
    next =>
      obtain ⟨⟨e, taken⟩, hs, he⟩ := Option.map_eq_some_iff.mp h
      cases he
      exact Nat.succ_le_succ (taken_le_of_signed? hs)
    next =>
      cases h
      exact Nat.zero_le _

/-- The number of a text without a sign whose leading digits are `whole`. -/
def scanBehind? (negative : Bool) (body whole : List Char) : Option (Numeral × Nat) :=
  if whole ≠ [] ∧ (whole.head? = some '0' → whole.length = 1) then
    (fraction? (body.drop whole.length)).bind fun fraction =>
      (exponent? (body.drop (whole.length + fractionLength fraction))).bind fun (exponent, taken) =>
        some (⟨negative, whole, fraction, exponent⟩,
          negative.toNat + whole.length + fractionLength fraction + taken)
  else none

def scanUnsigned? (negative : Bool) (body : List Char) : Option (Numeral × Nat) :=
  scanBehind? negative body (body.takeWhile Char.isDigit)

theorem scan?_eq (cs : List Char) :
    scan? cs = if cs.head? = some '-' then scanUnsigned? true (cs.drop 1)
      else scanUnsigned? false cs := by
  have hguard (p : Prop) [Decidable p] (x : Option (Numeral × Nat)) :
      (guard p >>= fun _ => x) = if p then x else none := by
    unfold guard
    split <;> rfl
  unfold scan?
  simp only [hguard]
  by_cases hm : cs.head? = some '-'
  · rw [if_pos hm, hm]
    rfl
  · have hn : (cs.head? == some '-') = false := beq_eq_false_iff_ne.mpr hm
    rw [if_neg hm, hn]
    rfl

theorem taken_le_of_scanUnsigned? {negative : Bool} {body : List Char} {n : Numeral} {taken : Nat}
    (h : scanUnsigned? negative body = some (n, taken)) :
    taken ≤ negative.toNat + body.length := by
  unfold scanUnsigned? scanBehind? at h
  split at h
  next =>
    obtain ⟨fraction, hf, h⟩ := Option.bind_eq_some_iff.mp h
    obtain ⟨⟨e, t⟩, he, h⟩ := Option.bind_eq_some_iff.mp h
    cases h
    have hw := length_takeWhile_isDigit_le body
    have hl := fractionLength_le hf
    have ht := taken_le_of_exponent? he
    rw [List.length_drop] at hl ht
    omega
  next => cases h

theorem taken_le_of_scan? {cs : List Char} {n : Numeral} {taken : Nat}
    (h : scan? cs = some (n, taken)) : taken ≤ cs.length := by
  rw [scan?_eq] at h
  split at h
  next hm =>
    obtain ⟨cs, rfl⟩ := List.head?_eq_some_iff.mp hm
    have ht := taken_le_of_scanUnsigned? h
    rw [List.drop_one, List.tail_cons, Bool.toNat_true] at ht
    rw [List.length_cons]
    omega
  next => simpa using taken_le_of_scanUnsigned? h

theorem taken_pos_of_scan? {cs : List Char} {n : Numeral} {taken : Nat}
    (h : scan? cs = some (n, taken)) : 0 < taken := by
  have hunsigned {negative : Bool} {body : List Char}
      (h : scanUnsigned? negative body = some (n, taken)) : 0 < taken := by
    unfold scanUnsigned? scanBehind? at h
    split at h
    next hw =>
      obtain ⟨fraction, _, h⟩ := Option.bind_eq_some_iff.mp h
      obtain ⟨⟨e, t⟩, _, h⟩ := Option.bind_eq_some_iff.mp h
      cases h
      have hpos := List.length_pos_iff.mpr hw.1
      omega
    next => cases h
  rw [scan?_eq] at h
  split at h
  next => exact hunsigned h
  next => exact hunsigned h

section

variable {rest : List Char} (h : EndsNumeral rest)

include h

theorem fraction?_append (cs : List Char) : fraction? (cs ++ rest) = fraction? cs := by
  rw [fraction?_eq, fraction?_eq]
  simp only [head?_append_eq_some_iff h cs (c := '.') rfl]
  split
  next hd =>
    obtain ⟨cs, rfl⟩ := List.head?_eq_some_iff.mp hd
    rw [List.cons_append, List.drop_one, List.tail_cons, takeWhile_isDigit_append h]
    rfl
  next => rfl

theorem signed?_append (cs : List Char) : signed? (cs ++ rest) = signed? cs := by
  have hplus := head?_append_eq_some_iff h cs (c := '+') rfl
  have hminus := head?_append_eq_some_iff h cs (c := '-') rfl
  have hs : signLength (cs ++ rest) = signLength cs := by
    simp only [signLength, hplus, hminus]
  rw [signed?_eq, signed?_eq, hs, List.drop_append_of_le_length (signLength_le cs),
    takeWhile_isDigit_append h]
  simp only [hminus]

theorem exponent?_append (cs : List Char) : exponent? (cs ++ rest) = exponent? cs := by
  cases cs with
  | cons c cs => rw [List.cons_append, exponent?, exponent?, signed?_append h cs]
  | nil =>
    cases rest with
    | nil => rfl
    | cons c rest =>
      have hc : isExponentMark c = false := by
        have hn := h c rfl
        simp_all [isNumeralChar]
      rw [List.nil_append, exponent?, hc]
      rfl

theorem scanUnsigned?_append (negative : Bool) (body : List Char) :
    scanUnsigned? negative (body ++ rest) = scanUnsigned? negative body := by
  have hw := length_takeWhile_isDigit_le body
  unfold scanUnsigned? scanBehind?
  rw [takeWhile_isDigit_append h, List.drop_append_of_le_length hw, fraction?_append h]
  refine if_congr Iff.rfl (Option.bind_congr fun fraction hf => ?_) rfl
  have hl : (body.takeWhile Char.isDigit).length + fractionLength fraction ≤ body.length := by
    have := fractionLength_le hf
    rw [List.length_drop] at this
    omega
  rw [List.drop_append_of_le_length hl, exponent?_append h]

/-- What stands behind a number does not matter unless it goes on with it. -/
theorem scan?_append (cs : List Char) : scan? (cs ++ rest) = scan? cs := by
  rw [scan?_eq, scan?_eq, scanUnsigned?_append h]
  simp only [head?_append_eq_some_iff h cs (c := '-') rfl]
  split
  next hm =>
    obtain ⟨cs, rfl⟩ := List.head?_eq_some_iff.mp hm
    exact scanUnsigned?_append h true cs
  next => rfl

end

end Numeral

theorem Decimal.ofDigits_toDigits (n : Nat) : ofDigits (Nat.toDigits 10 n) = n := by
  have hstep : (fun n (d : Char) => n * 10 + (d.toNat - '0'.toNat)) =
      fun n d => 10 * n + (d.toNat - '0'.toNat) := by
    funext n d
    rw [Nat.mul_comm]
  rw [ofDigits, hstep]
  exact Nat.ofDigitChars_ten_toDigits

theorem head?_toDigits {n : Nat} (h : 0 < n) : (Nat.toDigits 10 n).head? ≠ some '0' := by
  induction n using Nat.strongRecOn with
  | ind n ih =>
    by_cases hn : n < 10
    · rw [Nat.toDigits_of_lt_base hn]
      interval_cases n <;> decide
    · rw [Nat.toDigits_of_base_le (by decide) (by omega),
        List.head?_append_of_ne_nil _ Nat.toDigits_ne_nil]
      exact ih (n / 10) (by omega) (by omega)

namespace Numeral

theorem takeWhile_toDigits (n : Nat) :
    (Nat.toDigits 10 n).takeWhile Char.isDigit = Nat.toDigits 10 n := by
  rw [List.takeWhile_eq_self_iff]
  intro c hc
  exact Nat.isDigit_of_mem_toDigits (by decide) (by decide) hc

/-- The digits behind the point, with the point before them. -/
def fractionText (fraction : List Char) : List Char :=
  if fraction = [] then [] else '.' :: fraction

/-- An exponent with its mark and its sign. -/
def exponentText : Option Int → List Char
  | none => []
  | some e => 'e' :: (if e < 0 then '-' else '+') :: Nat.toDigits 10 e.natAbs

/-- The parts of a number one after the other, without its sign. -/
def unsignedText (n : Numeral) : List Char :=
  n.whole ++ (fractionText n.fraction ++ exponentText n.exponent)

def text (n : Numeral) : List Char := (if n.negative then ['-'] else []) ++ n.unsignedText

/-- Parts that make up a number: digits only, and none behind a leading zero. -/
structure WellFormed (n : Numeral) : Prop where
  whole : ∀ c ∈ n.whole, c.isDigit
  nonempty : n.whole ≠ []
  leading : n.whole.head? = some '0' → n.whole.length = 1
  fraction : ∀ c ∈ n.fraction, c.isDigit

theorem length_fractionText (fraction : List Char) :
    (fractionText fraction).length = fractionLength fraction := by
  unfold fractionText fractionLength
  split <;> rfl

/-- Digits are taken up to the first character that is none. -/
theorem takeWhile_isDigit_of_head? {ds rest : List Char} (hd : ∀ c ∈ ds, c.isDigit)
    (hr : ∀ c ∈ rest.head?, c.isDigit = false) : (ds ++ rest).takeWhile Char.isDigit = ds := by
  have hrest : rest.takeWhile Char.isDigit = [] := by
    cases rest with
    | nil => rfl
    | cons c rest => rw [List.takeWhile_cons, hr c rfl]; rfl
  rw [List.takeWhile_append_of_pos hd, hrest, List.append_nil]

theorem head?_exponentText (e : Option Int) : ∀ c ∈ (exponentText e).head?, c = 'e' := by
  cases e with
  | none => nofun
  | some e =>
    intro c hc
    exact (Option.some.inj hc).symm

theorem head?_fractionText_append (fraction : List Char) (e : Option Int) :
    ∀ c ∈ (fractionText fraction ++ exponentText e).head?, c = '.' ∨ c = 'e' := by
  unfold fractionText
  split
  next => exact fun c hc => .inr (head?_exponentText e c hc)
  next => exact fun c hc => .inl (Option.some.inj hc).symm

theorem isDigit_of_mem_head?_exponentText {e : Option Int} {c : Char}
    (hc : c ∈ (exponentText e).head?) : c.isDigit = false := by
  rw [head?_exponentText e c hc]
  rfl

theorem fraction?_text {fraction : List Char} (h : ∀ c ∈ fraction, c.isDigit) (e : Option Int) :
    fraction? (fractionText fraction ++ exponentText e) = some fraction := by
  rw [fraction?_eq]
  unfold fractionText
  split
  next he =>
    rw [List.nil_append, if_neg, he]
    intro hp
    exact absurd (head?_exponentText e '.' hp) (by decide)
  next he =>
    rw [List.cons_append, List.head?_cons, if_pos rfl, List.drop_one, List.tail_cons,
      takeWhile_isDigit_of_head? h fun c hc => isDigit_of_mem_head?_exponentText hc, if_neg he]

theorem exponent?_text (e : Option Int) :
    exponent? (exponentText e) = some (e, (exponentText e).length) := by
  cases e with
  | none => rfl
  | some e =>
    have hsign : signLength ((if e < 0 then '-' else '+') :: Nat.toDigits 10 e.natAbs) = 1 := by
      unfold signLength
      split <;> rfl
    have hhead : ((if e < 0 then '-' else '+') :: Nat.toDigits 10 e.natAbs).head? = some '-' ↔
        e < 0 := by
      split
      next he => exact iff_of_true rfl he
      next he => exact iff_of_false (by simp) he
    have hvalue : (if e < 0 then -(e.natAbs : Int) else e.natAbs) = e := by
      split <;> omega
    have hsigned : signed? ((if e < 0 then '-' else '+') :: Nat.toDigits 10 e.natAbs) =
        some (e, 1 + (Nat.toDigits 10 e.natAbs).length) := by
      rw [signed?_eq, hsign, List.drop_one, List.tail_cons, takeWhile_toDigits,
        if_neg Nat.toDigits_ne_nil, Decimal.ofDigits_toDigits]
      simp only [hhead, hvalue]
    have hmark : isExponentMark 'e' := rfl
    rw [exponentText, exponent?, if_pos hmark, hsigned, Option.map_some, List.length_cons,
      List.length_cons, Nat.add_comm 1]

/-- The parts of a number are found again in its text. -/
theorem scanUnsigned?_text {n : Numeral} (h : n.WellFormed) :
    scanUnsigned? n.negative n.unsignedText =
      some (n, n.negative.toNat + n.unsignedText.length) := by
  have hbehind : ∀ c ∈ (fractionText n.fraction ++ exponentText n.exponent).head?,
      c.isDigit = false := by
    intro c hc
    rcases head?_fractionText_append _ _ c hc with rfl | rfl <;> rfl
  have hdrop : (fractionText n.fraction ++ exponentText n.exponent).drop
      (fractionLength n.fraction) = exponentText n.exponent :=
    List.drop_left' (length_fractionText n.fraction)
  have hlength : n.negative.toNat + n.whole.length + fractionLength n.fraction +
      (exponentText n.exponent).length = n.negative.toNat + n.unsignedText.length := by
    rw [unsignedText, List.length_append, List.length_append, length_fractionText]
    omega
  rw [scanUnsigned?, unsignedText, takeWhile_isDigit_of_head? h.whole hbehind, scanBehind?,
    if_pos ⟨h.nonempty, h.leading⟩, List.drop_left, fraction?_text h.fraction, Option.bind_some,
    ← List.drop_drop, List.drop_left, hdrop, exponent?_text, Option.bind_some]
  exact congrArg (fun taken => some (n, taken)) hlength

theorem scan?_text {n : Numeral} (h : n.WellFormed) : scan? n.text = some (n, n.text.length) := by
  have hscan := scanUnsigned?_text h
  have hlength : n.text.length = n.negative.toNat + n.unsignedText.length := by
    rw [text, List.length_append]
    cases n.negative <;> rfl
  rw [scan?_eq, hlength, ← hscan, text]
  cases hn : n.negative with
  | true => rfl
  | false =>
    have hm : n.unsignedText.head? ≠ some '-' := by
      intro hm
      rw [unsignedText, List.head?_append_of_ne_nil _ h.nonempty] at hm
      exact absurd (h.whole '-' (List.mem_of_head? hm)) (by decide)
    exact if_neg hm

theorem wellFormed_toDigits (negative : Bool) (n : Nat) :
    WellFormed ⟨negative, Nat.toDigits 10 n, [], none⟩ := by
  refine ⟨fun c hc => ?_, Nat.toDigits_ne_nil, fun hd => ?_, nofun⟩
  · exact Nat.isDigit_of_mem_toDigits (by decide) (by decide) hc
  · cases n with
    | zero => rfl
    | succ n => exact absurd hd (head?_toDigits n.succ_pos)

/-- The text of an integer is scanned to its end. -/
theorem scan?_integerText (n : Int) :
    scan? (integerText n) =
      some (⟨n < 0, Nat.toDigits 10 n.natAbs, [], none⟩, (integerText n).length) := by
  have htext : integerText n = text ⟨n < 0, Nat.toDigits 10 n.natAbs, [], none⟩ := by
    simp [integerText, text, unsignedText, fractionText, exponentText]
  rw [htext]
  exact scan?_text (wellFormed_toDigits _ _)

/-- An integer that fits sixty-four bits is the value of its text. -/
theorem value?_integer {n : Int} (hl : Int64.minValue.toInt ≤ n) (hh : n < UInt64.size) :
    value? ⟨n < 0, Nat.toDigits 10 n.natAbs, [], none⟩ = some (.integer n) := by
  have hsigned : (if decide (n < 0) then -(n.natAbs : Int) else n.natAbs) = n := by
    split
    next hn =>
      have hn := of_decide_eq_true hn
      omega
    next hn =>
      have hn := of_decide_eq_false (Bool.eq_false_iff.mpr hn)
      omega
  have hzero : ¬ (decide (n < 0) = true ∧ n.natAbs = 0) := by
    rintro ⟨hn, hz⟩
    have hn := of_decide_eq_true hn
    omega
  unfold value?
  simp only [Decimal.ofDigits_toDigits]
  rw [hsigned, if_pos ⟨trivial, trivial, hzero, hl, hh⟩]

end Numeral

end Criteria
