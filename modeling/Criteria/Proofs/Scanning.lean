import Criteria.Proofs.Grammar
import Mathlib.Data.List.SplitBy

namespace Criteria

inductive Token where
  | opening
  | closing
  | comma
  | connective (c : Connective)
  | not
  | isIn
  | is
  | null
  | comparison (c : Comparison)
  | name (s : String)
  | numeral (n : Nat)
  | bound (value : Value)
  deriving DecidableEq

def isWordChar (c : Char) : Bool := c.isAlphanum || c = '_'

def isSignChar (c : Char) : Bool := c = '!' || c = '<' || c = '=' || c = '>'

/-- Whether two neighbours belong to one token. -/
def together (a b : Char) : Bool := isWordChar a && isWordChar b || isSignChar a && isSignChar b

/-- The texts of the tokens; blanks only separate them. -/
def segments (cs : List Char) : List (List Char) :=
  (cs.splitBy together).filter fun s => !s.all Char.isWhitespace

/-- Letters, digits and underscores, the first of them not a digit. -/
def isIdentifier : List Char → Bool
  | [] => false
  | c :: cs => isWordChar c && !c.isDigit && cs.all isWordChar

namespace Token

def keywords : List (List Char × Token) :=
  [("AND".toList, connective .and), ("OR".toList, connective .or), ("NOT".toList, not),
    ("IN".toList, isIn), ("IS".toList, is), ("NULL".toList, null),
    ("LIKE".toList, comparison .like)]

def signs : List (List Char × Token) :=
  [("(".toList, opening), (")".toList, closing), (",".toList, comma), ("=".toList, comparison .eq),
    ("!=".toList, comparison .ne), ("<".toList, comparison .lt), ("<=".toList, comparison .le),
    (">".toList, comparison .gt), (">=".toList, comparison .ge)]

def reservedWords : List (List Char) := keywords.map Prod.fst

/-- Keywords are known in any case. -/
def ofText? (s : List Char) : Option Token :=
  if s.all Char.isDigit then some (numeral (Nat.ofDigitChars 10 s 0))
  else if s.map Char.toUpper ∈ reservedWords then keywords.lookup (s.map Char.toUpper)
  else if isIdentifier s then some (name (String.ofList s))
  else signs.lookup s

/-- The token of a text; a question mark stands for the next value. -/
def next? (values : List Value) (s : List Char) : Option (Token × List Value) :=
  if s = ['?'] then
    match values with
    | [] => none
    | value :: values => some (bound value, values)
  else (ofText? s).map (·, values)

/-- Every value is used in the end. -/
def scan? (values : List Value) : List (List Char) → Option (List Token)
  | [] => if values.isEmpty then some [] else none
  | s :: rest => (next? values s).bind fun (t, values) => (scan? values rest).map (t :: ·)

end Token

/-- The tokens of a text whose question marks stand for the values in order. -/
def tokens? (values : List Value) (cs : List Char) : Option (List Token) :=
  Token.scan? values (segments cs)

def listedValues? : List Token → Option (List Value × List Token)
  | .bound value :: .closing :: rest => some ([value], rest)
  | .bound value :: .comma :: rest =>
    (listedValues? rest).map fun (values, rest) => (value :: values, rest)
  | _ => none

def Atom.read? : List Token → Option (Atom × List Token)
  | .name column :: .comparison comparison :: .bound value :: rest =>
    some (.compare column comparison value, rest)
  | .name column :: .not :: .comparison .like :: .bound value :: rest =>
    some (.compare column .notLike value, rest)
  | .name column :: .is :: .null :: rest => some (.isNull column false, rest)
  | .name column :: .is :: .not :: .null :: rest => some (.isNull column true, rest)
  | .name column :: .isIn :: .opening :: rest =>
    (listedValues? rest).map fun (values, rest) => (.isIn column false values, rest)
  | .name column :: .not :: .isIn :: .opening :: rest =>
    (listedValues? rest).map fun (values, rest) => (.isIn column true values, rest)
  | .numeral left :: .comparison .eq :: .numeral right :: rest =>
    some (.numerals left right, rest)
  | _ => none

theorem length_lt_of_listedValues? {ts rest : List Token} {values : List Value}
    (h : listedValues? ts = some (values, rest)) : rest.length < ts.length := by
  fun_induction listedValues? ts generalizing values rest with
  | case1 value rest' =>
    cases h
    simp only [List.length_cons]
    omega
  | case2 value rest' ih =>
    obtain ⟨⟨values', rest''⟩, hl, h⟩ := Option.map_eq_some_iff.mp h
    cases h
    have := ih hl
    simp only [List.length_cons]
    omega
  | case3 => cases h

theorem Atom.length_lt_of_read? {ts rest : List Token} {a : Atom}
    (h : Atom.read? ts = some (a, rest)) : rest.length < ts.length := by
  have listed {f : List Value → Atom} {us : List Token}
      (hl : ((listedValues? us).map fun (values, rest) => (f values, rest)) = some (a, rest)) :
      rest.length < us.length := by
    obtain ⟨⟨values, rest'⟩, hl, he⟩ := Option.map_eq_some_iff.mp hl
    cases he
    exact length_lt_of_listedValues? hl
  unfold Atom.read? at h
  split at h
  case h_5 =>
    have := listed h
    simp only [List.length_cons]
    omega
  case h_6 =>
    have := listed h
    simp only [List.length_cons]
    omega
  case h_8 => cases h
  all_goals
    cases h
    simp only [List.length_cons]
    omega

def Lexeme.ofTokens? : List Token → Option (List Lexeme)
  | [] => some []
  | .opening :: rest => (ofTokens? rest).map (.opening :: ·)
  | .closing :: rest => (ofTokens? rest).map (.closing :: ·)
  | .connective c :: rest => (ofTokens? rest).map (.connective c :: ·)
  | t :: rest =>
    match h : Atom.read? (t :: rest) with
    | none => none
    | some (a, behind) =>
      have := Atom.length_lt_of_read? h
      (ofTokens? behind).map (.atom a :: ·)
termination_by ts => ts.length
decreasing_by
  all_goals simp only [List.length_cons] at *
  all_goals omega

def lexemes? (values : List Value) (cs : List Char) : Option (List Lexeme) :=
  (tokens? values cs).bind Lexeme.ofTokens?

/-- The expression that a text spells, its question marks standing for the values in order. -/
def Expression.read? (values : List Value) (sql : String) : Option Expression :=
  (lexemes? values sql.toList).bind Expression.ofLexemes?

/-- A text is read as the expression that the grammar derives from its lexemes. -/
theorem Expression.read?_eq_some_iff {values : List Value} {sql : String} {e : Expression} :
    Expression.read? values sql = some e ↔
      ∃ ls, lexemes? values sql.toList = some ls ∧ Disjunction ls e := by
  rw [read?, Option.bind_eq_some_iff]
  simp only [ofLexemes?_eq_some_iff]

/-- Whether a text can be cut between two parts without cutting a token. -/
def Apart (l m : List Char) : Prop := ∀ x ∈ l.getLast?, ∀ y ∈ m.head?, together x y = false

/-- A text that does not go on with a word. -/
def Delimited (cs : List Char) : Prop := ∀ y ∈ cs.head?, isWordChar y = false

theorem apart_of_head? {m : List Char} {y : Char} (hm : m.head? = some y)
    (hw : isWordChar y = false) (hs : isSignChar y = false) (l : List Char) : Apart l m := by
  intro x _ y' hy
  rw [hm] at hy
  cases hy
  simp [together, hw, hs]

theorem apart_of_getLast? {l : List Char} {x : Char} (hl : l.getLast? = some x)
    (hw : isWordChar x = false) (hs : isSignChar x = false) (m : List Char) : Apart l m := by
  intro x' hx y _
  rw [hl] at hx
  cases hx
  simp [together, hw, hs]

theorem delimited_of_head? {cs : List Char} {y : Char} (hc : cs.head? = some y)
    (hw : isWordChar y = false) : Delimited cs := by
  intro y' hy
  rw [hc] at hy
  cases hy
  exact hw

theorem Delimited.apart {l cs : List Char} (hl : ∀ x ∈ l.getLast?, isSignChar x = false)
    (h : Delimited cs) : Apart l cs := by
  intro x hx y hy
  rw [together, hl x hx, h y hy]
  simp

theorem segments_append {l m : List Char} (h : Apart l m) :
    segments (l ++ m) = segments l ++ segments m := by
  rw [segments, List.splitBy_append h, List.filter_append]
  rfl

theorem isWhitespace_of_isWordChar {c : Char} (h : isWordChar c) : c.isWhitespace = false := by
  cases hw : c.isWhitespace with
  | false => rfl
  | true =>
    simp only [Char.isWhitespace, Bool.or_eq_true, decide_eq_true_eq] at hw
    rcases hw with ((rfl | rfl) | rfl) | rfl <;> cases h

theorem isWordChar_of_isWhitespace {c : Char} (h : c.isWhitespace) : isWordChar c = false := by
  cases hw : isWordChar c with
  | false => rfl
  | true =>
    rw [isWhitespace_of_isWordChar hw] at h
    cases h

theorem isSignChar_of_isWhitespace {c : Char} (h : c.isWhitespace) : isSignChar c = false := by
  simp only [Char.isWhitespace, Bool.or_eq_true, decide_eq_true_eq] at h
  rcases h with ((rfl | rfl) | rfl) | rfl <;> rfl

theorem isSignChar_of_isWordChar {c : Char} (h : isWordChar c) : isSignChar c = false := by
  cases hs : isSignChar c with
  | false => rfl
  | true =>
    simp only [isSignChar, Bool.or_eq_true, decide_eq_true_eq] at hs
    rcases hs with ((rfl | rfl) | rfl) | rfl <;> cases h

theorem segments_of_word {w : List Char} (hn : w ≠ []) (hw : ∀ c ∈ w, isWordChar c) :
    segments w = [w] := by
  have hc : w.IsChain fun a b => together a b := by
    apply List.Pairwise.isChain
    apply List.Pairwise.imp_of_mem (R := fun _ _ => True)
    · intro a b ha hb _
      simp [together, hw a ha, hw b hb]
    · exact List.pairwise_of_forall fun _ _ => trivial
  have hb : w.all Char.isWhitespace = false := by
    obtain ⟨c, cs, rfl⟩ := List.exists_cons_of_ne_nil hn
    rw [List.all_cons, isWhitespace_of_isWordChar (hw c List.mem_cons_self), Bool.false_and]
  rw [segments, List.splitBy_of_isChain hn hc]
  simp only [List.filter_cons, hb, Bool.not_false, if_true, List.filter_nil]

theorem isWordChar_of_isIdentifier {w : List Char} (h : isIdentifier w) :
    w ≠ [] ∧ ∀ c ∈ w, isWordChar c := by
  cases w with
  | nil => cases h
  | cons c cs =>
    simp only [isIdentifier, Bool.and_eq_true, List.all_eq_true] at h
    refine ⟨List.cons_ne_nil _ _, ?_⟩
    intro d hd
    rcases List.mem_cons.mp hd with rfl | hd
    · exact h.1.1
    · exact h.2 d hd

namespace Token

theorem ofText?_name {w : List Char} (hi : isIdentifier w)
    (hr : w.map Char.toUpper ∉ reservedWords) : ofText? w = some (name (String.ofList w)) := by
  have hd : ¬ w.all Char.isDigit := by
    cases w with
    | nil => cases hi
    | cons c cs =>
      intro h
      simp only [List.all_cons, Bool.and_eq_true] at h
      simp only [isIdentifier, h.1, Bool.not_true, Bool.and_false, Bool.false_and] at hi
      cases hi
  rw [ofText?, if_neg hd, if_neg hr, if_pos hi]

theorem ofText?_digits (n : Nat) : ofText? (Nat.toDigits 10 n) = some (numeral n) := by
  have hd : (Nat.toDigits 10 n).all Char.isDigit := by
    rw [List.all_eq_true]
    intro c hc
    exact Nat.isDigit_of_mem_toDigits (by omega) (by omega) hc
  rw [ofText?, if_pos hd, Nat.ofDigitChars_ten_toDigits]

theorem next?_of_ne {s : List Char} (h : s ≠ ['?']) (values : List Value) :
    next? values s = (ofText? s).map (·, values) :=
  if_neg h

theorem scan?_append {ss : List (List Char)} {ts : List Token} (h : ss.mapM ofText? = some ts)
    (values : List Value) (rest : List (List Char)) :
    scan? values (ss ++ rest) = (scan? values rest).map (ts ++ ·) := by
  induction ss generalizing ts with
  | nil =>
    cases h
    simp
  | cons s ss ih =>
    rw [List.mapM_cons] at h
    obtain ⟨t, ht, h⟩ := Option.bind_eq_some_iff.mp h
    obtain ⟨ts', hts, h⟩ := Option.bind_eq_some_iff.mp h
    cases h
    have hq : s ≠ ['?'] := by
      rintro rfl
      cases ht
    rw [List.cons_append, scan?, next?_of_ne hq, ht, Option.map_some, Option.bind_some]
    simp [ih hts, Function.comp_def]

end Token

/-- A text without question marks, cut into tokens. -/
def Spells (l : List Char) (ts : List Token) : Prop := (segments l).mapM Token.ofText? = some ts

instance (l : List Char) (ts : List Token) : Decidable (Spells l ts) :=
  inferInstanceAs (Decidable (_ = _))

theorem Spells.append {l m : List Char} {ts us : List Token} (hl : Spells l ts) (hm : Spells m us)
    (ha : Apart l m) : Spells (l ++ m) (ts ++ us) := by
  rw [Spells, segments_append ha, List.mapM_append, show (segments l).mapM _ = _ from hl,
    show (segments m).mapM _ = _ from hm]
  rfl

theorem spells_blanks {bs : List Char} (hb : ∀ c ∈ bs, c.isWhitespace) : Spells bs [] := by
  induction bs with
  | nil => rfl
  | cons c bs ih =>
    have hc := hb c List.mem_cons_self
    have hs : Spells [c] [] := by
      simp [Spells, segments, List.splitBy_of_isChain, hc]
    have ha : Apart [c] bs :=
      apart_of_getLast? rfl (isWordChar_of_isWhitespace hc) (isSignChar_of_isWhitespace hc) bs
    exact hs.append (ih fun d hd => hb d (List.mem_cons_of_mem c hd)) ha

theorem isWordChar_of_mem_toDigits {n : Nat} {c : Char} (hc : c ∈ Nat.toDigits 10 n) :
    isWordChar c := by
  simp [isWordChar, Char.isAlphanum, Nat.isDigit_of_mem_toDigits (by omega) (by omega) hc]

theorem spells_digits (n : Nat) : Spells (Nat.toDigits 10 n) [.numeral n] := by
  have hw : ∀ c ∈ Nat.toDigits 10 n, isWordChar c := fun _ hc => isWordChar_of_mem_toDigits hc
  rw [Spells, segments_of_word Nat.toDigits_ne_nil hw, List.mapM_cons, Token.ofText?_digits]
  rfl

/-- A column whose name is read as a name: an identifier and not a keyword. -/
def IsPlainColumn (column : String) : Prop :=
  isIdentifier column.toList ∧ column.toList.map Char.toUpper ∉ Token.reservedWords

instance : DecidablePred IsPlainColumn := fun _ => inferInstanceAs (Decidable (_ ∧ _))

theorem IsPlainColumn.spells {column : String} (h : IsPlainColumn column) :
    Spells column.toList [.name column] := by
  obtain ⟨hn, hw⟩ := isWordChar_of_isIdentifier h.1
  rw [Spells, segments_of_word hn hw, List.mapM_cons, Token.ofText?_name h.1 h.2,
    String.ofList_toList]
  rfl

theorem Spells.tokens? {l m : List Char} {ts : List Token} (h : Spells l ts) (ha : Apart l m)
    (values : List Value) :
    Criteria.tokens? values (l ++ m) = (Criteria.tokens? values m).map (ts ++ ·) := by
  rw [Criteria.tokens?, segments_append ha, Token.scan?_append h]
  rfl

theorem tokens?_mark (value : Value) (values : List Value) (cs : List Char) :
    tokens? (value :: values) ('?' :: cs) = (tokens? values cs).map (.bound value :: ·) := by
  have hs : segments ('?' :: cs) = ['?'] :: segments cs :=
    segments_append (l := ['?']) (apart_of_getLast? rfl rfl rfl cs)
  rw [tokens?, hs]
  rfl

end Criteria
