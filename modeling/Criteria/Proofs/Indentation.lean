import Criteria.Proofs.AtomText

namespace Criteria

/-- How often a character stands right before another. -/
def countPairs (a b : Char) : List Char → Nat
  | c :: d :: rest => (if c = a ∧ d = b then 1 else 0) + countPairs a b (d :: rest)
  | _ => 0

/-- How many levels a text leaves open: its brackets with a line break right behind them, less those
with one right before them. -/
def openLevels (text : List Char) : Int := countPairs '(' '\n' text - countPairs '\n' ')' text

/-- A text inside `depth` levels with blanks behind every line break, `n` for each level that is
open there; a bracket right behind the break counts already. -/
def indentText (n : Nat) (depth : Int) (text : List Char) : List Char :=
  text.zipIdx.flatMap fun (c, i) =>
    if c = '\n' then c :: List.replicate (n * (depth + openLevels (text.take (i + 2))).toNat) ' '
    else [c]

theorem countPairs_append (a b : Char) (xs ys : List Char) :
    countPairs a b (xs ++ ys) = countPairs a b xs + countPairs a b ys +
      if xs.getLast? = some a ∧ ys.head? = some b then 1 else 0 := by
  induction xs with
  | nil => simp [countPairs]
  | cons c xs ih =>
    cases xs with
    | nil => cases ys <;> simp [countPairs, Nat.add_comm]
    | cons d xs =>
      rw [List.cons_append, List.cons_append, countPairs, ← List.cons_append, ih, countPairs,
        List.getLast?_cons_cons]
      omega

/-- Whether no level opens or closes between two texts. -/
def Unpaired (x y : List Char) : Prop :=
  ¬ (x.getLast? = some '(' ∧ y.head? = some '\n') ∧
    ¬ (x.getLast? = some '\n' ∧ y.head? = some ')')

theorem unpaired_nil_right (x : List Char) : Unpaired x [] := ⟨nofun, nofun⟩

theorem Unpaired.take {x y : List Char} (h : Unpaired x y) (k : Nat) : Unpaired x (y.take k) := by
  cases k with
  | zero => exact unpaired_nil_right x
  | succ k =>
    have hh : (y.take (k + 1)).head? = y.head? := by
      rw [List.head?_take, if_neg k.succ_ne_zero]
    rw [Unpaired, hh]
    exact h

theorem openLevels_append {x y : List Char} (h : Unpaired x y) :
    openLevels (x ++ y) = openLevels x + openLevels y := by
  simp only [openLevels, countPairs_append, if_neg h.1, if_neg h.2]
  omega

theorem take_append_nonneg {x y : List Char} {depth : Int} (h : Unpaired x y)
    (hx : ∀ k, 0 ≤ depth + openLevels (x.take k))
    (hy : ∀ k, 0 ≤ depth + openLevels x + openLevels (y.take k)) (k : Nat) :
    0 ≤ depth + openLevels ((x ++ y).take k) := by
  by_cases hk : k ≤ x.length
  · rw [List.take_append_of_le_length hk]
    exact hx k
  · have hsplit : (x ++ y).take k = x ++ y.take (k - x.length) := by
      rw [List.take_append, List.take_of_length_le (by omega)]
    rw [hsplit, openLevels_append (h.take _), ← Int.add_assoc]
    exact hy _

/-- The blanks behind a line break depend on what stands before it, and on the character behind. -/
theorem indentText_append {x y : List Char} (h : Unpaired x y) (n : Nat) (depth : Int) :
    indentText n depth (x ++ y) =
      indentText n depth x ++ indentText n (depth + openLevels x) y := by
  have hx : ∀ c i, (c, i) ∈ x.zipIdx → c = '\n' →
      openLevels ((x ++ y).take (i + 2)) = openLevels (x.take (i + 2)) := by
    rintro c i hi rfl
    obtain ⟨hlt, hc⟩ := List.getElem?_eq_some_iff.mp (List.mem_zipIdx_iff_getElem?.mp hi)
    by_cases hl : i + 2 ≤ x.length
    · rw [List.take_append_of_le_length hl]
    · -- the break ends the first text, so the second does not begin with a closing bracket
      have hlast : x.getLast? = some '\n' := by
        rw [List.getLast?_eq_getElem?, show x.length - 1 = i by omega]
        exact List.mem_zipIdx_iff_getElem?.mp hi
      have hone : openLevels (y.take 1) = 0 := by
        cases y <;> rfl
      rw [List.take_append, List.take_of_length_le (by omega), show i + 2 - x.length = 1 by omega,
        openLevels_append (h.take 1), hone, Int.add_zero]
  have hy (i : Nat) : openLevels ((x ++ y).take (x.length + i + 2)) =
      openLevels x + openLevels (y.take (i + 2)) := by
    rw [Nat.add_assoc, List.take_length_add_append, openLevels_append (h.take _)]
  rw [indentText, List.zipIdx_append, List.flatMap_append]
  congr 1
  · refine List.flatMap_congr fun ⟨c, i⟩ hi => ?_
    dsimp only
    split
    next hc => rw [hx c i hi hc]
    next => rfl
  · rw [List.zipIdx_eq_map_add, List.flatMap_map]
    refine List.flatMap_congr fun ⟨c, i⟩ _ => ?_
    simp only [Nat.zero_add, hy, Int.add_assoc]

theorem countPairs_eq_zero {a b : Char} {text : List Char} (h : a ∉ text ∨ b ∉ text) :
    countPairs a b text = 0 := by
  induction text with
  | nil => rfl
  | cons c text ih =>
    cases text with
    | nil => rfl
    | cons d text =>
      have hn : ¬ (c = a ∧ d = b) := by
        rintro ⟨rfl, rfl⟩
        exact h.elim (· List.mem_cons_self) (· (List.mem_cons_of_mem _ List.mem_cons_self))
      rw [countPairs, if_neg hn, ih (h.imp (· <| List.mem_cons_of_mem c ·)
        (· <| List.mem_cons_of_mem c ·))]

section

variable {text : List Char} (h : '\n' ∉ text)

include h

theorem openLevels_of_oneLine : openLevels text = 0 := by
  rw [openLevels, countPairs_eq_zero (.inr h), countPairs_eq_zero (.inl h)]
  rfl

theorem indentText_of_oneLine (n : Nat) (depth : Int) : indentText n depth text = text := by
  have hc : ∀ c i, (c, i) ∈ text.zipIdx → c ≠ '\n' := by
    rintro c i hi rfl
    exact h (List.mem_of_getElem? (List.mem_zipIdx_iff_getElem?.mp hi))
  calc indentText n depth text = text.zipIdx.flatMap fun entry => [entry.1] :=
        List.flatMap_congr fun ⟨c, i⟩ hi => if_neg (hc c i hi)
    _ = text.zipIdx.map Prod.fst := List.map_eq_flatMap.symm
    _ = text := List.zipIdx_map_fst 0 text

end

/-- A text that closes the levels it opens, in order, and neither begins by closing one nor ends by
opening one. -/
structure Balanced (text : List Char) : Prop where
  head : text.head? ≠ some ')'
  last : text.getLast? ≠ some '('
  broken : text.getLast? ≠ some '\n'
  level : openLevels text = 0
  nonneg : ∀ k, 0 ≤ openLevels (text.take k)

namespace Balanced

theorem nil : Balanced [] := by
  refine ⟨nofun, nofun, nofun, rfl, fun k => ?_⟩
  rw [List.take_nil]
  decide

theorem of_oneLine {text : List Char} (h : '\n' ∉ text) (hh : text.head? ≠ some ')')
    (hl : text.getLast? ≠ some '(') : Balanced text := by
  refine ⟨hh, hl, fun hb => h (List.mem_of_getLast? hb), openLevels_of_oneLine h, fun k => ?_⟩
  have hk : '\n' ∉ text.take k := fun hm => h (List.mem_of_mem_take hm)
  exact Int.le_of_eq (openLevels_of_oneLine hk).symm

theorem unpaired {x : List Char} (h : Balanced x) (y : List Char) : Unpaired x y :=
  ⟨fun hp => h.last hp.1, fun hp => h.broken hp.1⟩

theorem append {x y : List Char} (hx : Balanced x) (hy : Balanced y) : Balanced (x ++ y) := by
  have hu := hx.unpaired y
  refine ⟨fun h => ?_, fun h => ?_, fun h => ?_, ?_, fun k => ?_⟩
  · rw [List.head?_append] at h
    exact (Option.or_eq_some_iff.mp h).elim hx.head fun h => hy.head h.2
  · rw [List.getLast?_append] at h
    exact (Option.or_eq_some_iff.mp h).elim hy.last fun h => hx.last h.2
  · rw [List.getLast?_append] at h
    exact (Option.or_eq_some_iff.mp h).elim hy.broken fun h => hx.broken h.2
  · rw [openLevels_append hu, hx.level, hy.level]
    rfl
  · have hk := @take_append_nonneg x y 0 hu (fun k => ?_) (fun k => ?_) k
    · rwa [Int.zero_add] at hk
    · rw [Int.zero_add]
      exact hx.nonneg k
    · rw [hx.level, Int.zero_add, Int.zero_add]
      exact hy.nonneg k

theorem indentText_append {x : List Char} (hx : Balanced x) (y : List Char) (n : Nat)
    (depth : Int) :
    indentText n depth (x ++ y) = indentText n depth x ++ indentText n depth y := by
  rw [Criteria.indentText_append (hx.unpaired y), hx.level, Int.add_zero]

end Balanced

section

variable {x : List Char} (hx : Balanced x)

include hx

theorem unpaired_opening : Unpaired ['(', '\n'] (x ++ ['\n', ')']) := by
  refine ⟨nofun, fun hp => ?_⟩
  have hh := hp.2
  rw [List.head?_append] at hh
  exact (Option.or_eq_some_iff.mp hh).elim hx.head fun h => nomatch h.2

theorem openLevels_closing : openLevels (x ++ ['\n', ')']) = -1 := by
  rw [openLevels_append (hx.unpaired _), hx.level]
  rfl

/-- A nested level in brackets on lines of its own. -/
theorem Balanced.block : Balanced (['(', '\n'] ++ (x ++ ['\n', ')'])) := by
  have hu := unpaired_opening hx
  have hlast : (['(', '\n'] ++ (x ++ ['\n', ')'])).getLast? = some ')' := by
    rw [List.getLast?_append, List.getLast?_append]
    rfl
  refine ⟨nofun, ?_, ?_, ?_, fun k => ?_⟩
  · rw [hlast]
    decide
  · rw [hlast]
    decide
  · rw [openLevels_append hu, openLevels_closing hx]
    rfl
  · have hopening (k : Nat) : 0 ≤ openLevels (['(', '\n'].take k) := by
      match k with
      | 0 => decide
      | 1 => decide
      | k + 2 =>
        rw [List.take_of_length_le (Nat.le_add_left 2 k)]
        decide
    have hclosing (k : Nat) : 0 ≤ 1 + openLevels (['\n', ')'].take k) := by
      match k with
      | 0 => decide
      | 1 => decide
      | k + 2 =>
        rw [List.take_of_length_le (Nat.le_add_left 2 k)]
        decide
    have hinner (k : Nat) : 0 ≤ 1 + openLevels ((x ++ ['\n', ')']).take k) := by
      refine take_append_nonneg (hx.unpaired _) (fun k => ?_) (fun k => ?_) k
      · have := hx.nonneg k
        omega
      · rw [hx.level]
        exact hclosing k
    have hk := @take_append_nonneg ['(', '\n'] (x ++ ['\n', ')']) 0 hu (fun k => ?_) (fun k => ?_) k
    · rwa [Int.zero_add] at hk
    · rw [Int.zero_add]
      exact hopening k
    · exact hinner k

theorem indentText_block (n depth : Nat) :
    indentText n depth (['(', '\n'] ++ (x ++ ['\n', ')'])) =
      '(' :: '\n' :: List.replicate (n * (depth + 1)) ' ' ++
        (indentText n (depth + 1 : Nat) x ++
          ('\n' :: List.replicate (n * depth) ' ' ++ [')'])) := by
  have hopen : openLevels ['(', '\n'] = 1 := rfl
  have hclose : openLevels ['\n', ')'] = -1 := rfl
  have hopening : indentText n depth ['(', '\n'] =
      '(' :: '\n' :: List.replicate (n * (depth + 1)) ' ' := by
    change '(' :: '\n' :: (List.replicate (n * (depth + openLevels ['(', '\n']).toNat) ' ' ++ []) = _
    rw [hopen, List.append_nil]
    rfl
  have hclosing : indentText n (depth + 1 : Nat) ['\n', ')'] =
      '\n' :: List.replicate (n * depth) ' ' ++ [')'] := by
    have hlevels : ((depth + 1 : Nat) + openLevels ['\n', ')']).toNat = depth := by
      omega
    change '\n' :: List.replicate (n * ((depth + 1 : Nat) + openLevels ['\n', ')']).toNat) ' ' ++
      [')'] = _
    rw [hlevels]
  have hdepth : (depth : Int) + 1 = (depth + 1 : Nat) := rfl
  rw [indentText_append (unpaired_opening hx), hopen, hdepth, hx.indentText_append, hopening,
    hclosing]

end

/-- A text on one line that takes no part in opening or closing a level, whatever stands around
it. -/
structure IsInline (text : List Char) : Prop where
  oneLine : '\n' ∉ text
  head : text.head? ≠ some ')'
  last : text.getLast? ≠ some '('

/-- Whether a text has neither line breaks nor brackets. -/
def IsUnbroken (text : List Char) : Prop := ∀ c ∈ text, c ≠ '\n' ∧ c ≠ '(' ∧ c ≠ ')'

instance (text : List Char) : Decidable (IsUnbroken text) := List.decidableBAll _ text

namespace IsUnbroken

theorem isInline {text : List Char} (h : IsUnbroken text) : IsInline text :=
  ⟨fun hm => (h _ hm).1 rfl, fun hh => (h _ (List.mem_of_head? hh)).2.2 rfl,
    fun hl => (h _ (List.mem_of_getLast? hl)).2.1 rfl⟩

theorem append {x y : List Char} (hx : IsUnbroken x) (hy : IsUnbroken y) : IsUnbroken (x ++ y) :=
  List.forall_mem_append.mpr ⟨hx, hy⟩

theorem digits (n : Nat) : IsUnbroken (Nat.toDigits 10 n) := by
  intro c hc
  have hw := isWordChar_of_mem_toDigits hc
  refine ⟨?_, ?_, ?_⟩ <;> rintro rfl <;> exact absurd hw (by decide)

theorem mark (style : Placeholder) (position : Nat) :
    IsUnbroken (style.mark position).toList := by
  cases style with
  | question =>
    rw [Placeholder.mark]
    decide
  | dollar =>
    have hdollar : IsUnbroken "$".toList := by
      decide
    have hdigits : IsUnbroken (String.ofList (Nat.toDigits 10 position)).toList := by
      rw [String.toList_ofList]
      exact digits position
    rw [Placeholder.mark, String.toList_append]
    exact hdollar.append hdigits

end IsUnbroken

namespace IsInline

theorem balanced {text : List Char} (h : IsInline text) : Balanced text :=
  Balanced.of_oneLine h.oneLine h.head h.last

theorem append {x y : List Char} (hx : IsInline x) (hy : IsInline y) : IsInline (x ++ y) := by
  have hb := hx.balanced.append hy.balanced
  refine ⟨fun h => ?_, hb.head, hb.last⟩
  exact (List.mem_append.mp h).elim hx.oneLine hy.oneLine

end IsInline

/-- A template whose text is inline however its values are marked. -/
def Template.Inline (t : Template) : Prop :=
  ∀ style offset, IsInline (t.sql style offset).toList

namespace Template.Inline

theorem nil : Inline [] := fun _ _ => ⟨nofun, nofun, nofun⟩

theorem text {s : String} (hs : IsInline s.toList) : Inline [.text s] := by
  intro style offset
  rw [sql, sql, String.append_empty]
  exact hs

theorem bound (value : Value) : Inline [.bound value] := by
  intro style offset
  rw [sql, sql, String.append_empty]
  exact (IsUnbroken.mark style (offset + 1)).isInline

theorem append {t u : Template} (ht : t.Inline) (hu : u.Inline) : (t ++ u).Inline := by
  intro style offset
  rw [sql_append, String.toList_append]
  exact (ht style offset).append (hu style _)

theorem joined {separator : String} (hs : IsInline separator.toList) {parts : List Template}
    (hp : ∀ part ∈ parts, part.Inline) : (joined separator parts).Inline := by
  induction parts with
  | nil => exact nil
  | cons part parts ih =>
    have hpart := hp part List.mem_cons_self
    have hparts := ih fun part h => hp part (List.mem_cons_of_mem _ h)
    cases parts with
    | nil =>
      rw [joined_singleton]
      exact hpart
    | cons next parts =>
      rw [joined_cons_cons]
      exact hpart.append ((text hs).append hparts)

theorem parenthesised {t : Template} (h : t.Inline) : t.parenthesised.Inline := by
  intro style offset
  have htext : (t.parenthesised.sql style offset).toList =
      '(' :: ((t.sql style offset).toList ++ [')']) := by
    simp [Template.parenthesised, sql, sql_append]
  rw [htext]
  refine ⟨?_, ?_, ?_⟩
  · rw [List.mem_cons, List.mem_append, not_or, not_or]
    exact ⟨by decide, (h style offset).oneLine, by decide⟩
  · rw [List.head?_cons]
    decide
  · rw [← List.cons_append, List.getLast?_concat]
    decide

end Template.Inline

theorem Atom.sql_isIn (style : Placeholder) (offset : Nat) (column : String) (negated : Bool)
    (values : List Value) :
    (isIn column negated values).template.sql style offset =
      column ++ (if negated then " NOT IN " else " IN ") ++
        (Template.joined ", " (values.map fun value => [.bound value])).parenthesised.sql
          style offset := by
  have hopening : (if negated then " NOT IN (" else " IN (") =
      (if negated then " NOT IN " else " IN ") ++ "(" := by
    cases negated <;> rfl
  rw [template, hopening, ← String.append_assoc, List.cons_append, Template.sql,
    Template.parenthesised, List.cons_append, Template.sql, String.append_assoc]

/-- A test is written on one line if its column is. -/
theorem Atom.inline_template {column : String} (hc : IsUnbroken column.toList) {a : Atom}
    (ha : a.IsAbout column) : a.template.Inline := by
  cases a with
  | compare c comparison value =>
    cases ha
    have hs : IsUnbroken comparison.symbol.toList := by
      cases comparison <;> decide
    have hblank : IsUnbroken " ".toList := by
      decide
    have htext : IsUnbroken (column ++ " " ++ comparison.symbol ++ " ").toList := by
      rw [String.toList_append, String.toList_append, String.toList_append]
      exact ((hc.append hblank).append hs).append hblank
    exact (Template.Inline.text htext.isInline).append (Template.Inline.bound value)
  | isNull c negated =>
    cases ha
    have hs : IsUnbroken (if negated then " IS NOT NULL" else " IS NULL").toList := by
      cases negated <;> decide
    refine .text (IsUnbroken.isInline ?_)
    rw [String.toList_append]
    exact hc.append hs
  | isIn c negated values =>
    cases ha
    have hs : IsUnbroken (if negated then " NOT IN " else " IN ").toList := by
      cases negated <;> decide
    have hcomma : IsUnbroken ", ".toList := by
      decide
    have hvalues : (Template.joined ", " (values.map fun value => [.bound value])).Inline := by
      refine .joined hcomma.isInline fun part hp => ?_
      obtain ⟨value, _, rfl⟩ := List.mem_map.mp hp
      exact .bound value
    intro style offset
    rw [sql_isIn, String.toList_append, String.toList_append]
    exact (hc.append hs).isInline.append (hvalues.parenthesised style offset)
  | numerals left right =>
    have heq : IsUnbroken "=".toList := by
      decide
    have htext : (s!"{left}={right}").toList =
        Nat.toDigits 10 left ++ ("=".toList ++ Nat.toDigits 10 right) := by
      have he : toString "=" = "=" := rfl
      simp [he]
    refine .text (IsUnbroken.isInline ?_)
    rw [htext]
    exact (IsUnbroken.digits left).append (heq.append (IsUnbroken.digits right))

theorem Condition.inline_template {column : String} (hc : IsUnbroken column.toList) {c : Condition}
    (ha : ∀ a ∈ c.atoms, a.IsAbout column) : c.template.Inline := by
  cases c with
  | atom a => exact Atom.inline_template hc (ha a List.mem_cons_self)
  | joined connective atoms =>
    have hs : IsUnbroken connective.separator.toList := by
      cases connective <;> decide
    refine Template.Inline.parenthesised (Template.Inline.joined hs.isInline ?_)
    rintro _ hm
    obtain ⟨a, h, rfl⟩ := List.mem_map.mp hm
    exact Atom.inline_template hc (ha a h)

theorem inline_groupTemplate {first : Condition} {rest : List Condition}
    (h : ∀ c ∈ first :: rest, c.template.Inline) : (groupTemplate first rest).Inline := by
  have hand : IsUnbroken " AND ".toList := by
    decide
  rw [groupTemplate]
  split
  next => exact h first List.mem_cons_self
  next =>
    refine .parenthesised (.joined hand.isInline fun part hp => ?_)
    obtain ⟨c, hc, rfl⟩ := List.mem_map.mp hp
    exact h c hc

/-- A template with `n` blanks for each level, inside `depth` levels, against the same template
without blanks. -/
structure Indents (n depth : Nat) (t flat : Template) : Prop where
  values : t.values = flat.values
  balanced : ∀ style offset, Balanced (flat.sql style offset).toList
  text : ∀ style offset,
    (t.sql style offset).toList = indentText n depth (flat.sql style offset).toList

namespace Indents

variable {n depth : Nat} {t u flat flat' : Template}

theorem of_inline (h : t.Inline) : Indents n depth t t :=
  ⟨rfl, fun style offset => (h style offset).balanced,
    fun style offset => (indentText_of_oneLine (h style offset).oneLine n depth).symm⟩

theorem append (ht : Indents n depth t flat) (hu : Indents n depth u flat') :
    Indents n depth (t ++ u) (flat ++ flat') := by
  refine ⟨?_, fun style offset => ?_, fun style offset => ?_⟩
  · rw [Template.values_append, Template.values_append, ht.values, hu.values]
  · rw [Template.sql_append, String.toList_append]
    exact (ht.balanced style offset).append (hu.balanced style _)
  · rw [Template.sql_append, Template.sql_append, String.toList_append, String.toList_append,
      (ht.balanced style offset).indentText_append, ht.text, hu.text, ht.values]

theorem toList_sql_block (n depth : Nat) (t : Template) (style : Placeholder) (offset : Nat) :
    (Template.sql style offset (.text ("(\n" ++ blanks (n * (depth + 1))) ::
      (t ++ [.text ("\n" ++ blanks (n * depth) ++ ")")]))).toList =
        '(' :: '\n' :: List.replicate (n * (depth + 1)) ' ' ++
          ((t.sql style offset).toList ++ ('\n' :: List.replicate (n * depth) ' ' ++ [')'])) := by
  simp [Template.sql, Template.sql_append, blanks]

theorem block (h : Indents n (depth + 1) t flat) :
    Indents n depth
      (.text ("(\n" ++ blanks (n * (depth + 1))) ::
        (t ++ [.text ("\n" ++ blanks (n * depth) ++ ")")]))
      (.text ("(\n" ++ blanks (0 * (depth + 1))) ::
        (flat ++ [.text ("\n" ++ blanks (0 * depth) ++ ")")])) := by
  have hflat (style : Placeholder) (offset : Nat) :
      (Template.sql style offset (.text ("(\n" ++ blanks (0 * (depth + 1))) ::
        (flat ++ [.text ("\n" ++ blanks (0 * depth) ++ ")")]))).toList =
          ['(', '\n'] ++ ((flat.sql style offset).toList ++ ['\n', ')']) := by
    rw [toList_sql_block, Nat.zero_mul, Nat.zero_mul]
    rfl
  refine ⟨?_, fun style offset => ?_, fun style offset => ?_⟩
  · simp [Template.values_append, h.values]
  · rw [hflat]
    exact (h.balanced style offset).block
  · rw [hflat, toList_sql_block, indentText_block (h.balanced style offset), h.text]

end Indents

mutual

/-- Blanks follow the levels that are open, however levels stand in each other. -/
theorem Term.indents (n : Nat) : ∀ (depth : Nat) (term : Term),
    (∀ c ∈ term.conditions, c.template.Inline) →
    Indents n depth (term.template n depth) (term.template 0 depth)
  | depth, .group first rest, h => by
    rw [Term.template, Term.template]
    exact .of_inline (inline_groupTemplate h)
  | depth, .block first rest, h => by
    rw [Term.conditions, List.forall_mem_append] at h
    rw [Term.template, Term.template]
    exact .block ((Term.indents n (depth + 1) first h.1).append
      (indents_linkedTemplate n (depth + 1) rest h.2))

theorem indents_linkedTemplate (n : Nat) : ∀ (depth : Nat) (links : List (Connective × Term)),
    (∀ c ∈ linkedConditions links, c.template.Inline) →
    Indents n depth (linkedTemplate n depth links) (linkedTemplate 0 depth links)
  | depth, [], _ => .of_inline .nil
  | depth, (c, term) :: rest, h => by
    rw [linkedConditions, List.forall_mem_append] at h
    have hs : IsUnbroken c.separator.toList := by
      cases c <;> decide
    rw [linkedTemplate, linkedTemplate]
    exact Indents.append (.of_inline (.text hs.isInline))
      ((Term.indents n depth term h.1).append (indents_linkedTemplate n depth rest h.2))

end

theorem Clause.indents {clause : Clause} (h : ∀ c ∈ clause.conditions, c.template.Inline) (n : Nat) :
    Indents n 0 (clause.template n) (clause.template 0) := by
  rw [Clause.conditions, List.forall_mem_append] at h
  exact (Term.indents n 0 clause.first h.1).append (indents_linkedTemplate n 0 clause.rest h.2)

theorem Where.inline_conditions {tree : Where} {clause : Option Clause}
    (hc : tree.clause? = .ok clause)
    (hcolumns : ∀ entry ∈ tree.entries,
      IsUnbroken (ConditionKey.ofText entry.1).column.toList) :
    ∀ c ∈ (clause.map Clause.conditions).getD [], c.template.Inline := by
  intro c hm
  obtain ⟨entry, he, hentry⟩ := exists_of_forall₂_of_mem
    (forall₂_of_mapM_ok (Where.mapM_entries hc)) hm
  exact Condition.inline_template (hcolumns entry he) (ConditionKey.isAbout_condition hentry)

/-- The indent of a format puts blanks behind the line breaks and has no other effect. The levels
open behind a line break, counted in the text without blanks, say how many; they are never fewer
than none, and at the end none is open. -/
theorem Where.compile_indent (tree : Where) (format : Format) (offset : Nat)
    (hcolumns : ∀ entry ∈ tree.entries, IsUnbroken (ConditionKey.ofText entry.1).column.toList)
    (f : Fragment) (hf : tree.compile format offset = .ok f) :
    ∃ flat, tree.compile { format with indent := 0 } offset = .ok flat ∧
      (∀ n, tree.compile { format with indent := n } offset =
        .ok ⟨String.ofList (indentText n 0 flat.sql.toList), flat.params⟩) ∧
      (∀ k, 0 ≤ openLevels (flat.sql.toList.take k)) ∧ openLevels flat.sql.toList = 0 := by
  obtain ⟨t, ht, rfl⟩ := Where.compile_eq_ok hf
  obtain ⟨clause, hc, rfl⟩ := Where.template_eq_ok ht
  have hinline := Where.inline_conditions hc hcolumns
  have hi (n : Nat) : Indents n 0 ((clause.map (Clause.template n)).getD [])
      ((clause.map (Clause.template 0)).getD []) := by
    cases clause with
    | none => exact .of_inline .nil
    | some clause => exact clause.indents hinline n
  have hb := (hi 0).balanced format.placeholder offset
  have hflat := Where.compile_of_clause? hc { format with indent := 0 } offset
  refine ⟨_, hflat, fun n => ?_, hb.nonneg, hb.level⟩
  have hsql := congrArg String.ofList ((hi n).text format.placeholder offset)
  rw [String.ofList_toList] at hsql
  rw [Where.compile_of_clause? hc, Template.fragment, hsql, (hi n).values]
  rfl

/-- A level that is nothing but a level, and another one next to it. -/
def nestedFruits : Where :=
  ((Where.ofGroup (Group.withOperand {} "id" (.scalar (.int 5)))).nested.nested).orNested
    ((Where.ofGroup (Group.withOperand {} "ripe" (.scalar (.int 1)))).andNested
      (Where.ofGroup (Group.withOperand {} "%name" (.scalar (.text "k%")))))

def nestedFruitsText : String :=
  "(\n(\nid = $3\n)\n) OR (\nripe = $4 AND (\nname LIKE $5\n)\n)"

set_option maxRecDepth 4000 in
theorem compile_indent_nestedFruits :
    (∀ n, nestedFruits.compile ⟨.dollar, n⟩ 2 =
      .ok ⟨String.ofList (indentText n 0 nestedFruitsText.toList),
        [.int 5, .int 1, .text "k%"]⟩) ∧
    openLevels nestedFruitsText.toList = 0 := by
  have hcolumns : ∀ entry ∈ nestedFruits.entries,
      IsUnbroken (ConditionKey.ofText entry.1).column.toList := by
    decide +kernel
  have hf : nestedFruits.compile ⟨.dollar, 0⟩ 2 =
      .ok ⟨nestedFruitsText, [.int 5, .int 1, .text "k%"]⟩ := by
    rfl
  obtain ⟨flat, hflat, hindent, _, hlevel⟩ :=
    nestedFruits.compile_indent ⟨.dollar, 0⟩ 2 hcolumns _ hf
  cases hf.symm.trans hflat
  exact ⟨hindent, hlevel⟩

end Criteria
