import Criteria.Proofs.Numbering
import Criteria.Proofs.Scanning

namespace Criteria

/-- The text of a template with a question mark for each bound value. -/
def Template.chars : Template → List Char
  | [] => []
  | .text s :: rest => s.toList ++ chars rest
  | .bound _ :: rest => '?' :: chars rest

namespace Template

theorem toList_sql_question (offset : Nat) (t : Template) :
    (t.sql .question offset).toList = t.chars := by
  induction t generalizing offset with
  | nil => rfl
  | cons piece rest ih =>
    cases piece with
    | text s => rw [sql, String.toList_append, ih, chars]
    | bound value =>
      have hm : (Placeholder.question.mark (offset + 1)).toList = ['?'] := by
        simp [Placeholder.mark]
      rw [sql, String.toList_append, ih, hm, chars]
      rfl

@[simp] theorem chars_append (t u : Template) : (t ++ u).chars = t.chars ++ u.chars := by
  induction t with
  | nil => rfl
  | cons piece rest ih => cases piece <;> simp [chars, ih]

/-- The tokens of a template's text, in front of any text that does not go on with a word. -/
def Cuts (t : Template) (ts : List Token) : Prop :=
  ∀ others cs, Delimited cs →
    tokens? (t.values ++ others) (t.chars ++ cs) = (tokens? others cs).map (ts ++ ·)

theorem chars_joined_cons_cons (separator : String) (part next : Template) (rest : List Template) :
    (joined separator (part :: next :: rest)).chars =
      part.chars ++ (separator.toList ++ (joined separator (next :: rest)).chars) := by
  rw [joined_cons_cons, chars_append, chars]

end Template

def Comparison.tokens : Comparison → List Token
  | .notLike => [.not, .comparison .like]
  | comparison => [.comparison comparison]

def listedTokens : List Value → List Token
  | [] => [.closing]
  | [value] => [.bound value, .closing]
  | value :: next :: rest => .bound value :: .comma :: listedTokens (next :: rest)

namespace Atom

def tokens : Atom → List Token
  | .compare column comparison value => .name column :: comparison.tokens ++ [.bound value]
  | .isNull column negated => .name column :: .is :: if negated then [.not, .null] else [.null]
  | .isIn column negated values =>
    .name column :: (if negated then [.not, .isIn, .opening] else [.isIn, .opening]) ++
      listedTokens values
  | .numerals left right => [.numeral left, .comparison .eq, .numeral right]

/-- A test with a plain column; a list of alternatives is not empty. -/
def Plain : Atom → Prop
  | .compare column _ _ => IsPlainColumn column
  | .isNull column _ => IsPlainColumn column
  | .isIn column _ values => IsPlainColumn column ∧ values ≠ []
  | .numerals _ _ => True

end Atom

theorem listedValues?_listedTokens {values : List Value} (hn : values ≠ []) (rest : List Token) :
    listedValues? (listedTokens values ++ rest) = some (values, rest) := by
  induction values with
  | nil => exact absurd rfl hn
  | cons value values ih =>
    cases values with
    | nil => rfl
    | cons next values =>
      rw [listedTokens, List.cons_append, List.cons_append, listedValues?,
        ih (List.cons_ne_nil _ _)]
      rfl

theorem Atom.read?_tokens {a : Atom} (h : a.Plain) (rest : List Token) :
    Atom.read? (a.tokens ++ rest) = some (a, rest) := by
  cases a with
  | compare column comparison value => cases comparison <;> rfl
  | isNull column negated => cases negated <;> rfl
  | isIn column negated values =>
    cases negated
    · simp [tokens, read?, listedValues?_listedTokens h.2]
    · simp [tokens, read?, listedValues?_listedTokens h.2]
  | numerals left right => rfl

theorem Lexeme.ofTokens?_of_read? {ts rest : List Token} {a : Atom}
    (h : Atom.read? ts = some (a, rest)) :
    ofTokens? ts = (ofTokens? rest).map (.atom a :: ·) := by
  rw [ofTokens?.eq_def ts]
  split
  next => cases h
  next => cases h
  next => cases h
  next => cases h
  next =>
    split
    next hn => rw [h] at hn; cases hn
    next hs =>
      rw [h] at hs
      cases hs
      rfl

theorem tokens?_listed {values : List Value} (hn : values ≠ []) (others : List Value)
    (cs : List Char) :
    tokens? (values ++ others)
        ((Template.joined ", " (values.map fun value => [.bound value])).chars ++ ')' :: cs) =
      (tokens? others cs).map (listedTokens values ++ ·) := by
  induction values with
  | nil => exact absurd rfl hn
  | cons value values ih =>
    cases values with
    | nil =>
      have hs : Spells [')'] [.closing] := by decide
      have hc := hs.tokens? (apart_of_getLast? rfl rfl rfl cs) others
      rw [List.map_singleton, Template.joined_singleton]
      change tokens? (value :: others) ('?' :: ([')'] ++ cs)) = _
      rw [tokens?_mark, hc, Option.map_map]
      rfl
    | cons next values =>
      have hs : Spells ", ".toList [.comma] := by decide
      have hl : ", ".toList.getLast? = some ' ' := by decide
      rw [List.map_cons, List.map_cons, Template.chars_joined_cons_cons, List.append_assoc,
        List.append_assoc]
      change tokens? (value :: (next :: values ++ others)) ('?' :: (", ".toList ++ _)) = _
      rw [tokens?_mark, hs.tokens? (apart_of_getLast? hl rfl rfl _)]
      rw [List.map_cons] at ih
      rw [ih (List.cons_ne_nil _ _), Option.map_map, Option.map_map]
      rfl

theorem Comparison.spells (comparison : Comparison) :
    Spells (' ' :: (comparison.symbol.toList ++ [' '])) comparison.tokens := by
  cases comparison <;> decide

namespace Atom

theorem chars_compare (column : String) (comparison : Comparison) (value : Value) :
    (compare column comparison value).template.chars =
      column.toList ++ (' ' :: (comparison.symbol.toList ++ [' ']) ++ ['?']) := by
  simp [template, Template.chars]

theorem chars_isNull (column : String) (negated : Bool) :
    (isNull column negated).template.chars =
      column.toList ++ ' ' :: (if negated then "IS NOT NULL" else "IS NULL").toList := by
  cases negated <;> simp [template, Template.chars]

theorem chars_isIn (column : String) (negated : Bool) (values : List Value) :
    (isIn column negated values).template.chars =
      column.toList ++ (' ' :: (if negated then "NOT IN (" else "IN (").toList ++
        ((Template.joined ", " (values.map fun value => [.bound value])).chars ++ [')'])) := by
  cases negated <;> simp [template, Template.chars]

theorem chars_numerals (left right : Nat) :
    (numerals left right).template.chars =
      Nat.toDigits 10 left ++ (['='] ++ Nat.toDigits 10 right) := by
  have he : toString "=" = "=" := rfl
  simp [template, Template.chars, he]

theorem cuts_compare {column : String} (h : IsPlainColumn column) (comparison : Comparison)
    (value : Value) :
    (compare column comparison value).template.Cuts (compare column comparison value).tokens := by
  intro others cs hd
  have hl : (' ' :: (comparison.symbol.toList ++ [' '])).getLast? = some ' ' := by
    rw [← List.cons_append, List.getLast?_concat]
  rw [chars_compare, List.append_assoc, List.append_assoc,
    h.spells.tokens? (apart_of_head? rfl rfl rfl _),
    comparison.spells.tokens? (apart_of_getLast? hl rfl rfl _)]
  change ((tokens? (value :: others) ('?' :: cs)).map _).map _ = _
  rw [tokens?_mark, Option.map_map, Option.map_map]
  simp [tokens, Function.comp_def]

theorem cuts_isNull {column : String} (h : IsPlainColumn column) (negated : Bool) :
    (isNull column negated).template.Cuts (isNull column negated).tokens := by
  intro others cs hd
  have hs : Spells (' ' :: (if negated then "IS NOT NULL" else "IS NULL").toList)
      (.is :: if negated then [.not, .null] else [.null]) := by
    cases negated <;> decide
  have hl : (' ' :: (if negated then "IS NOT NULL" else "IS NULL").toList).getLast? =
      some 'L' := by
    cases negated <;> decide
  have hw : ∀ x ∈ (' ' :: (if negated then "IS NOT NULL" else "IS NULL").toList).getLast?,
      isSignChar x = false := by
    intro x hx
    rw [hl] at hx
    cases hx
    rfl
  rw [chars_isNull, List.append_assoc, h.spells.tokens? (apart_of_head? rfl rfl rfl _)]
  change (tokens? others _).map _ = _
  rw [hs.tokens? (hd.apart hw), Option.map_map]
  rfl

theorem cuts_isIn {column : String} (h : IsPlainColumn column) (negated : Bool)
    {values : List Value} (hn : values ≠ []) :
    (isIn column negated values).template.Cuts (isIn column negated values).tokens := by
  intro others cs hd
  have hs : Spells (' ' :: (if negated then "NOT IN (" else "IN (").toList)
      (if negated then [.not, .isIn, .opening] else [.isIn, .opening]) := by
    cases negated <;> decide
  have hl : (' ' :: (if negated then "NOT IN (" else "IN (").toList).getLast? = some '(' := by
    cases negated <;> decide
  rw [values_isIn, chars_isIn, List.append_assoc, List.append_assoc, List.append_assoc,
    h.spells.tokens? (apart_of_head? rfl rfl rfl _),
    hs.tokens? (apart_of_getLast? hl rfl rfl _)]
  change ((tokens? _ (_ ++ ')' :: cs)).map _).map _ = _
  rw [tokens?_listed hn, Option.map_map, Option.map_map]
  simp [tokens, Function.comp_def]

theorem cuts_numerals (left right : Nat) :
    (numerals left right).template.Cuts (numerals left right).tokens := by
  intro others cs hd
  have hs : Spells ['='] [.comparison .eq] := by decide
  have hl : ∀ n, ∀ x ∈ (Nat.toDigits 10 n).getLast?, isSignChar x = false := by
    intro n x hx
    exact isSignChar_of_isWordChar (isWordChar_of_mem_toDigits (List.mem_of_mem_getLast? hx))
  have hr : Apart ['='] (Nat.toDigits 10 right ++ cs) := by
    intro x hx y hy
    cases hx
    rw [List.head?_append_of_ne_nil _ Nat.toDigits_ne_nil] at hy
    have hw := isWordChar_of_mem_toDigits (List.mem_of_mem_head? hy)
    rw [together, isSignChar_of_isWordChar hw]
    rfl
  have he : Delimited (['='] ++ (Nat.toDigits 10 right ++ cs)) := delimited_of_head? rfl rfl
  rw [chars_numerals, List.append_assoc, List.append_assoc,
    (spells_digits left).tokens? (he.apart (hl left)), hs.tokens? hr]
  change ((tokens? others _).map _).map _ = _
  rw [(spells_digits right).tokens? (hd.apart (hl right)), Option.map_map, Option.map_map]
  rfl

theorem cuts_template {a : Atom} (h : a.Plain) : a.template.Cuts a.tokens := by
  cases a with
  | compare column comparison value => exact cuts_compare h comparison value
  | isNull column negated => exact cuts_isNull h negated
  | isIn column negated values => exact cuts_isIn h.1 negated h.2
  | numerals left right => exact cuts_numerals left right

end Atom

end Criteria
