import Criteria.Proofs.NumeralScanning

namespace Criteria

namespace JsonToken

theorem scan_eq_scan_zero_drop (skip : Nat) (cs : List Char) :
    scan skip cs = scan 0 (cs.drop skip) := by
  induction cs generalizing skip with
  | nil => cases skip <;> rfl
  | cons c cs ih =>
    cases skip with
    | zero => rfl
    | succ skip => exact ih skip

theorem scan_blank {c : Char} (h : isBlank c) (cs : List Char) : scan 0 (c :: cs) = scan 0 cs := by
  rw [scan, if_pos h]

theorem scan_blanks {bs : List Char} (h : ∀ c ∈ bs, isBlank c) (cs : List Char) :
    scan 0 (bs ++ cs) = scan 0 cs := by
  induction bs with
  | nil => rfl
  | cons c bs ih =>
    rw [List.cons_append, scan_blank (h c List.mem_cons_self),
      ih fun d hd => h d (List.mem_cons_of_mem c hd)]

/-- A token is scanned at once, and what stands behind it after it. -/
theorem scan_of_first? {text : List Char} {token : JsonToken} {c : Char}
    (hc : text.head? = some c) (hb : isBlank c = false) (rest : List Char)
    (h : first? (text ++ rest) = some (token, text.length)) :
    scan 0 (text ++ rest) = token :: scan 0 rest := by
  obtain ⟨cs, rfl⟩ := List.head?_eq_some_iff.mp hc
  rw [List.cons_append] at h ⊢
  rw [scan, if_neg (by rw [hb]; decide), h]
  simp only [List.length_cons, Nat.add_sub_cancel]
  rw [scan_eq_scan_zero_drop, List.drop_left]

theorem hexDigit?_digitChar : ∀ n < 16, hexDigit? (Nat.digitChar n) = some n := by
  decide

/-- The escape of a control character by its code. -/
theorem hexNumber?_code {n : Nat} (h : n < 0x20) :
    hexNumber? ['0', '0', Nat.digitChar (n / 16), Nat.digitChar (n % 16)] = some n := by
  have hz : hexDigit? '0' = some 0 := by
    decide
  have hhigh := hexDigit?_digitChar (n / 16) (by omega)
  have hlow := hexDigit?_digitChar (n % 16) (by omega)
  have hn : n / 16 * 16 + n % 16 = n := by
    omega
  simp [hexNumber?, hz, hhigh, hlow, hn]

section

variable (done : List Char) (taken : Nat) (cs : List Char)

theorem stringBody?_escape {mark c : Char} (hu : mark ≠ 'u') (hc : escape? mark = some c) :
    stringBody? none done taken ('\\' :: mark :: cs) =
      stringBody? none (c :: done) (taken + 2) cs :=
  stringBody?.eq_3 done taken mark cs c (fun _ _ _ _ _ h => absurd h hu) hc

theorem stringBody?_code {c : Char} (h : c.toNat < 0x20) :
    stringBody? none done taken ('\\' :: 'u' :: '0' :: '0' :: Nat.digitChar (c.toNat / 16) ::
      Nat.digitChar (c.toNat % 16) :: cs) = stringBody? none (c :: done) (taken + 6) cs := by
  have hleads : ¬ (0xD800 ≤ c.toNat ∧ c.toNat < 0xDC00) := by
    omega
  have htrails : ¬ (0xDC00 ≤ c.toNat ∧ c.toNat < 0xE000) := by
    omega
  have hunit : joinUnit? none c.toNat = some (.inl c) := by
    simp only [joinUnit?, if_neg hleads, if_neg htrails, Char.ofNat_toNat]
  rw [stringBody?, hexNumber?_code h, Option.bind_some, hunit]

theorem stringBody?_char {c : Char} (hq : c ≠ '"') (hs : c ≠ '\\') (hc : ¬ c.toNat < 0x20) :
    stringBody? none done taken (c :: cs) = stringBody? none (c :: done) (taken + 1) cs := by
  rw [stringBody?.eq_5 _ _ _ _ _ (fun _ _ _ _ _ h _ => hs h) (fun _ _ h _ => hs h),
    if_neg (by simp [hs, hc]), if_neg hq]

theorem stringBody?_escaped (c : Char) :
    stringBody? none done taken (Json.escaped c ++ cs) =
      stringBody? none (c :: done) (taken + (Json.escaped c).length) cs := by
  unfold Json.escaped
  split
  next => exact stringBody?_escape done taken cs (by decide) rfl
  next => exact stringBody?_escape done taken cs (by decide) rfl
  next => exact stringBody?_escape done taken cs (by decide) rfl
  next => exact stringBody?_escape done taken cs (by decide) rfl
  next => exact stringBody?_escape done taken cs (by decide) rfl
  next => exact stringBody?_escape done taken cs (by decide) rfl
  next => exact stringBody?_escape done taken cs (by decide) rfl
  next hq hs _ _ _ _ _ =>
    split
    next hc => exact stringBody?_code done taken cs hc
    next hc => exact stringBody?_char done taken cs hq hs hc

end

theorem stringBody?_flatMap_escaped (s done : List Char) (taken : Nat) (rest : List Char) :
    stringBody? none done taken (s.flatMap Json.escaped ++ '"' :: rest) =
      some (String.ofList (done.reverse ++ s), taken + (s.flatMap Json.escaped).length + 1) := by
  induction s generalizing done taken with
  | nil =>
    rw [List.append_nil]
    rfl
  | cons c s ih =>
    rw [List.flatMap_cons, List.append_assoc, stringBody?_escaped, ih, List.reverse_cons,
      List.append_assoc, List.singleton_append, List.length_append, Nat.add_assoc taken]

theorem first?_stringText (s : String) (rest : List Char) :
    first? (Json.stringText s ++ rest) = some (.string s, (Json.stringText s).length) := by
  have hbody := stringBody?_flatMap_escaped s.toList [] 1 rest
  have hl : 1 + (s.toList.flatMap Json.escaped).length + 1 = (Json.stringText s).length := by
    simp only [Json.stringText, List.length_cons, List.length_append, List.length_nil]
    omega
  rw [List.reverse_nil, List.nil_append, String.ofList_toList, hl] at hbody
  rw [Json.stringText, List.cons_append, List.cons_append, List.append_assoc, List.singleton_append,
    first?, hbody]
  rfl

theorem scan_stringText (s : String) (rest : List Char) :
    scan 0 (Json.stringText s ++ rest) = .string s :: scan 0 rest :=
  scan_of_first? rfl rfl rest (first?_stringText s rest)

theorem first?_numeral {c : Char} (h : isNumeralChar c) (cs : List Char) :
    first? (c :: cs) = (Numeral.scan? (c :: cs)).bind fun (numeral, taken) =>
      numeral.value?.bind fun n => some (.literal (.number n), taken) := by
  have hne {d : Char} (hd : isNumeralChar d = false) (ds : List Char) : c :: cs ≠ d :: ds := by
    intro he
    cases he
    rw [hd] at h
    cases h
  rw [first?.eq_11 _ (hne rfl) (hne rfl) (hne rfl) (hne rfl) (hne rfl) (hne rfl) (hne rfl)
    (hne rfl) (hne rfl) (hne rfl)]
  rfl

theorem isBlank_of_isNumeralChar {c : Char} (h : isNumeralChar c) : isBlank c = false := by
  by_contra hb
  simp only [isBlank, Bool.or_eq_true, decide_eq_true_eq, Bool.not_eq_false] at hb
  rcases hb with ((rfl | rfl) | rfl) | rfl <;> cases h

theorem scan_ne_nil {c : Char} (h : isBlank c = false) (cs : List Char) : scan 0 (c :: cs) ≠ [] := by
  rw [scan, if_neg (by rw [h]; decide)]
  split <;> exact List.cons_ne_nil _ _

end JsonToken

theorem isNumeralChar_of_isDigit {c : Char} (h : c.isDigit) : isNumeralChar c := by
  simp [isNumeralChar, h]

namespace NumberStyle

theorem isDigit_of_mem_significant {d : Decimal} {c : Char} (hc : c ∈ significant d) : c.isDigit := by
  have hs := List.mem_reverse.mp ((List.dropWhile_suffix _).subset (List.mem_reverse.mp hc))
  exact Nat.isDigit_of_mem_toDigits (by decide) (by decide) hs

theorem isNumeralChar_of_mem_zeros {n : Nat} {c : Char} (hc : c ∈ List.replicate n '0') :
    isNumeralChar c := by
  rw [List.eq_of_mem_replicate hc]
  rfl

theorem isNumeralChar_of_mem_positionalText {pointed : Bool} {digits : List Char} {point : Int}
    (h : ∀ c ∈ digits, isNumeralChar c) : ∀ c ∈ positionalText pointed digits point,
    isNumeralChar c := by
  have hzero : isNumeralChar '0' := rfl
  have hpoint : isNumeralChar '.' := rfl
  intro c hc
  unfold positionalText at hc
  split at hc
  next =>
    simp only [List.mem_append, List.mem_cons] at hc
    rcases hc with (rfl | rfl | hc) | hc
    · exact hzero
    · exact hpoint
    · exact isNumeralChar_of_mem_zeros hc
    · exact h c hc
  next =>
    split at hc
    next =>
      simp only [List.mem_append] at hc
      rcases hc with (hc | hc) | hc
      · exact h c hc
      · exact isNumeralChar_of_mem_zeros hc
      · split at hc
        next =>
          simp only [List.mem_cons, List.not_mem_nil, or_false] at hc
          rcases hc with rfl | rfl
          · exact hpoint
          · exact hzero
        next => cases hc
    next =>
      simp only [List.mem_append, List.mem_cons] at hc
      rcases hc with hc | rfl | hc
      · exact h c (List.mem_of_mem_take hc)
      · exact hpoint
      · exact h c (List.mem_of_mem_drop hc)

theorem isNumeralChar_of_mem_exponentText {digits : List Char} {exponent : Int}
    (h : ∀ c ∈ digits, isNumeralChar c) : ∀ c ∈ exponentText digits exponent,
    isNumeralChar c := by
  intro c hc
  simp only [exponentText, List.mem_append, List.mem_cons] at hc
  rcases hc with (hc | hc) | rfl | rfl | hc
  · exact h c (List.mem_of_mem_take hc)
  · split at hc
    next => cases hc
    next =>
      rcases List.mem_cons.mp hc with rfl | hc
      · rfl
      · exact h c (List.mem_of_mem_drop hc)
  · rfl
  · split <;> rfl
  · exact isNumeralChar_of_isDigit (Nat.isDigit_of_mem_toDigits (by decide) (by decide) hc)

theorem isNumeralChar_of_mem_decimalText (style : NumberStyle) (d : Decimal) :
    ∀ c ∈ style.decimalText d, isNumeralChar c := by
  have hdigits : ∀ c ∈ significant d, isNumeralChar c :=
    fun c hc => isNumeralChar_of_isDigit (isDigit_of_mem_significant hc)
  unfold decimalText
  split
  next => exact isNumeralChar_of_mem_positionalText hdigits
  next => exact isNumeralChar_of_mem_exponentText hdigits

theorem isNumeralChar_of_mem_finiteText (style : NumberStyle) (p : Precision) (negative : Bool)
    (rank : Nat) : ∀ c ∈ style.finiteText p negative rank, isNumeralChar c := by
  intro c hc
  rw [finiteText, List.mem_append] at hc
  rcases hc with hc | hc
  · split at hc
    next =>
      rw [List.mem_singleton.mp hc]
      rfl
    next => cases hc
  · exact isNumeralChar_of_mem_decimalText style _ c hc

end NumberStyle

theorem isNumeralChar_of_mem_integerText (n : Int) : ∀ c ∈ integerText n, isNumeralChar c := by
  intro c hc
  rw [integerText, List.mem_append] at hc
  rcases hc with hc | hc
  · split at hc
    next =>
      rw [List.mem_singleton.mp hc]
      rfl
    next => cases hc
  · exact isNumeralChar_of_isDigit (Nat.isDigit_of_mem_toDigits (by decide) (by decide) hc)

/-- Whether the text of a number, on its own, is read as that number. -/
def JsonNumber.ReadsBack (n : JsonNumber) : Prop :=
  Json.read? (String.ofList n.text) = some (.number n)

theorem Json.read?_eq_some_iff {text : String} {j : Json} :
    Json.read? text = some j ↔ Json.readValue [] (JsonToken.ofText text) = some (j, []) := by
  rw [Json.read?, Json.readFirst?]
  cases hr : Json.readValue [] (JsonToken.ofText text) with
  | none => exact iff_of_false nofun nofun
  | some result =>
    obtain ⟨value, rest⟩ := result
    cases rest with
    | nil => simp
    | cons token rest => exact iff_of_false nofun nofun

def Json.number? : Json → Option JsonNumber
  | .number n => some n
  | _ => none

theorem JsonNumber.readsBack_iff {n : JsonNumber} :
    n.ReadsBack ↔ (Json.read? (String.ofList n.text)).bind Json.number? = some n := by
  rw [ReadsBack]
  constructor
  · intro h
    rw [h]
    rfl
  · intro h
    obtain ⟨j, hj, hn⟩ := Option.bind_eq_some_iff.mp h
    rw [hj]
    cases j with
    | number m =>
      cases hn
      rfl
    | _ => cases hn

instance : DecidablePred JsonNumber.ReadsBack := fun _ =>
  decidable_of_iff _ JsonNumber.readsBack_iff.symm

/-- A number without a text of its own is written as null, which is read as null. -/
theorem JsonNumber.ReadsBack.isNumeralChar {n : JsonNumber} (h : n.ReadsBack) :
    ∀ c ∈ n.text, isNumeralChar c := by
  cases n with
  | integer n => exact isNumeralChar_of_mem_integerText n
  | real x =>
    cases x with
    | finite negative rank => exact style.isNumeralChar_of_mem_finiteText .double negative rank
    | nan => cases h
    | infinite negative =>
      change Json.read? (String.ofList ['n', 'u', 'l', 'l']) = _ at h
      cases h

namespace JsonToken

/-- The text of a number is scanned to its end. -/
theorem first?_number {n : JsonNumber} (h : n.ReadsBack) :
    first? n.text = some (.literal (.number n), n.text.length) := by
  have hc := h.isNumeralChar
  obtain ⟨c, cs, htext⟩ : ∃ c cs, n.text = c :: cs := by
    refine List.exists_cons_of_ne_nil fun he => ?_
    rw [JsonNumber.ReadsBack, he] at h
    cases h
  have hnumeral : isNumeralChar c := hc c (by rw [htext]; exact List.mem_cons_self)
  rw [JsonNumber.ReadsBack, Json.read?_eq_some_iff, ofText, String.toList_ofList, htext, scan,
    if_neg (by rw [isBlank_of_isNumeralChar hnumeral]; decide)] at h
  rw [htext] at hc ⊢
  split at h
  next token taken hfirst =>
    rw [hfirst]
    rw [first?_numeral hnumeral] at hfirst
    obtain ⟨⟨numeral, taken⟩, hs, hfirst⟩ := Option.bind_eq_some_iff.mp hfirst
    obtain ⟨m, hv, hfirst⟩ := Option.bind_eq_some_iff.mp hfirst
    cases hfirst
    rw [Json.readValue, Json.resume] at h
    obtain ⟨hvalue, hrest⟩ := Prod.mk.inj (Option.some.inj h)
    have hpos := Numeral.taken_pos_of_scan? hs
    have hle := Numeral.taken_le_of_scan? hs
    have hall : cs.length ≤ taken - 1 := by
      rw [scan_eq_scan_zero_drop] at hrest
      refine List.drop_eq_nil_iff.mp ?_
      cases hd : cs.drop (taken - 1) with
      | nil => rfl
      | cons d ds =>
        have hmem : d ∈ cs := List.mem_of_mem_drop (by rw [hd]; exact List.mem_cons_self)
        have hblank := isBlank_of_isNumeralChar (hc d (List.mem_cons_of_mem c hmem))
        exact absurd (hd ▸ hrest) (scan_ne_nil hblank ds)
    rw [List.length_cons] at hle ⊢
    rw [hvalue, show taken = cs.length + 1 by omega]
  next => cases h

/-- Whatever stands behind the text of a number, unless it goes on with it. -/
theorem scan_number {n : JsonNumber} (h : n.ReadsBack) {rest : List Char} (hr : EndsNumeral rest) :
    scan 0 (n.text ++ rest) = .literal (.number n) :: scan 0 rest := by
  have hfirst := first?_number h
  obtain ⟨c, cs, htext⟩ : ∃ c cs, n.text = c :: cs := by
    refine List.exists_cons_of_ne_nil fun he => ?_
    rw [he] at hfirst
    cases hfirst
  have hn : isNumeralChar c := h.isNumeralChar c (by rw [htext]; exact List.mem_cons_self)
  rw [htext] at hfirst ⊢
  refine scan_of_first? rfl (isBlank_of_isNumeralChar hn) rest ?_
  rw [← hfirst, List.cons_append, first?_numeral hn, first?_numeral hn, ← List.cons_append,
    Numeral.scan?_append hr]

end JsonToken

/-- A number reads back if its text is scanned to its end and has the number as its value. -/
theorem JsonNumber.readsBack_of_scan? {n : JsonNumber} {numeral : Numeral}
    (hc : ∀ c ∈ n.text, Criteria.isNumeralChar c)
    (hs : Numeral.scan? n.text = some (numeral, n.text.length))
    (hv : numeral.value? = some n) : n.ReadsBack := by
  obtain ⟨c, cs, htext⟩ : ∃ c cs, n.text = c :: cs :=
    List.exists_cons_of_length_pos (Numeral.taken_pos_of_scan? hs)
  have hn : Criteria.isNumeralChar c := hc c (by rw [htext]; exact List.mem_cons_self)
  have hfirst : JsonToken.first? (n.text ++ []) = some (.literal (.number n), n.text.length) := by
    rw [htext] at hs
    rw [List.append_nil, htext, JsonToken.first?_numeral hn, hs, Option.bind_some]
    simp only [hv, Option.bind_some]
  have hscan := JsonToken.scan_of_first? (by rw [htext]; rfl)
    (JsonToken.isBlank_of_isNumeralChar hn) [] hfirst
  rw [List.append_nil] at hscan
  rw [ReadsBack, Json.read?_eq_some_iff, JsonToken.ofText, String.toList_ofList, hscan]
  rfl

/-- Integers that fit sixty-four bits read back. -/
theorem JsonNumber.readsBack_integer {n : Int} (hl : Int64.minValue.toInt ≤ n)
    (hh : n < UInt64.size) : (JsonNumber.integer n).ReadsBack :=
  readsBack_of_scan? (isNumeralChar_of_mem_integerText n) (Numeral.scan?_integerText n)
    (Numeral.value?_integer hl hh)

end Criteria
