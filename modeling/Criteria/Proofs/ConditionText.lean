import Criteria.Proofs.AtomText

namespace Criteria

/-- The lexemes of a template's text, in front of any text that does not go on with a word. -/
def Template.Reads (t : Template) (ls : List Lexeme) : Prop :=
  ∀ others cs, Delimited cs →
    lexemes? (t.values ++ others) (t.chars ++ cs) = (lexemes? others cs).map (ls ++ ·)

/-- A template whose text is a factor of a condition. -/
def FactorText (t : Template) (e : Expression) : Prop := ∃ ls, t.Reads ls ∧ Factor ls e

/-- A template whose text is a level of a condition. -/
def LevelText (t : Template) (level : Level) : Prop := ∃ ls, t.Reads ls ∧ level.Derives ls

theorem Atom.factorText {a : Atom} (h : a.Plain) : FactorText a.template (.atom a) := by
  refine ⟨[.atom a], ?_, .atom a⟩
  intro others cs hd
  rw [lexemes?, Atom.cuts_template h others cs hd]
  cases ht : tokens? others cs with
  | none => simp [lexemes?, ht]
  | some ts => simp [lexemes?, ht, Lexeme.ofTokens?_of_read? (Atom.read?_tokens h ts)]

theorem Spells.lexemes? {l cs : List Char} {t : Token} {x : Lexeme} (h : Spells l [t])
    (hx : ∀ ts, Lexeme.ofTokens? (t :: ts) = (Lexeme.ofTokens? ts).map (x :: ·)) (ha : Apart l cs)
    (values : List Value) :
    Criteria.lexemes? values (l ++ cs) = (Criteria.lexemes? values cs).map (x :: ·) := by
  rw [Criteria.lexemes?, h.tokens? ha]
  cases ht : Criteria.tokens? values cs with
  | none => simp [Criteria.lexemes?, ht]
  | some ts => simp [Criteria.lexemes?, ht, hx]

theorem lexemes?_opening (values : List Value) (cs : List Char) :
    lexemes? values ('(' :: cs) = (lexemes? values cs).map (.opening :: ·) := by
  have hs : Spells ['('] [.opening] := by decide
  exact hs.lexemes? (fun ts => by rw [Lexeme.ofTokens?]) (apart_of_getLast? rfl rfl rfl cs) values

theorem lexemes?_closing (values : List Value) (cs : List Char) :
    lexemes? values (')' :: cs) = (lexemes? values cs).map (.closing :: ·) := by
  have hs : Spells [')'] [.closing] := by decide
  exact hs.lexemes? (fun ts => by rw [Lexeme.ofTokens?]) (apart_of_getLast? rfl rfl rfl cs) values

theorem Connective.toList_separator (c : Connective) :
    c.separator.toList = ' ' :: (c.keyword.toList ++ [' ']) := by
  simp [separator]

theorem lexemes?_separator (c : Connective) (values : List Value) (cs : List Char) :
    lexemes? values (c.separator.toList ++ cs) = (lexemes? values cs).map (.connective c :: ·) := by
  have hs : Spells c.separator.toList [.connective c] := by
    cases c <;> decide
  have hl : c.separator.toList.getLast? = some ' ' := by
    cases c <;> decide
  exact hs.lexemes? (fun ts => by rw [Lexeme.ofTokens?]) (apart_of_getLast? hl rfl rfl cs) values

theorem lexemes?_blanks {bs : List Char} (hb : ∀ c ∈ bs, c.isWhitespace) (values : List Value)
    (cs : List Char) : lexemes? values (bs ++ cs) = lexemes? values cs := by
  have ha : Apart bs cs := by
    intro x hx y _
    have hw := hb x (List.mem_of_mem_getLast? hx)
    simp [together, isWordChar_of_isWhitespace hw, isSignChar_of_isWhitespace hw]
  rw [lexemes?, (spells_blanks hb).tokens? ha, lexemes?]
  simp

theorem FactorText.level {t : Template} {e : Expression} (h : FactorText t e) :
    LevelText t (Level.start e) := by
  obtain ⟨ls, hr, hf⟩ := h
  exact ⟨ls, hr, Level.derives_start hf⟩

theorem LevelText.join {t u : Template} {level : Level} {e : Expression} (c : Connective)
    (h : LevelText t level) (hu : FactorText u e) :
    LevelText (t ++ .text c.separator :: u) (level.join c e) := by
  obtain ⟨ls, hr, hd⟩ := h
  obtain ⟨ms, hru, hf⟩ := hu
  refine ⟨ls ++ .connective c :: ms, ?_, hd.join c hf⟩
  intro others cs hcs
  have hdl : Delimited (c.separator.toList ++ (u.chars ++ cs)) := by
    rw [c.toList_separator]
    exact delimited_of_head? rfl rfl
  rw [Template.values_append, Template.chars_append, List.append_assoc, List.append_assoc]
  rw [Template.values_text, Template.chars, List.append_assoc, hr _ _ hdl, lexemes?_separator,
    hru others cs hcs, Option.map_map, Option.map_map]
  simp [Function.comp_def]

theorem LevelText.joinAll {t : Template} {level : Level} (c : Connective) {parts : List Template}
    {es : List Expression} (h : LevelText t level) (hp : List.Forall₂ FactorText parts es) :
    LevelText (t ++ parts.flatMap (.text c.separator :: ·))
      (level.joinAll (es.map fun e => (c, e))) := by
  induction hp generalizing t level with
  | nil =>
    rw [List.flatMap_nil, List.append_nil]
    exact h
  | cons hu _ ih =>
    have hn := ih (h.join c hu)
    rw [List.append_assoc] at hn
    exact hn

/-- A level in parentheses, with blanks inside them or without. -/
theorem LevelText.enclosed {t : Template} {level : Level} (h : LevelText t level)
    {before behind : String} {bs bs' : List Char} (hb : before.toList = '(' :: bs)
    (hb' : behind.toList = bs' ++ [')']) (hw : ∀ c ∈ bs, c.isWhitespace)
    (hw' : ∀ c ∈ bs', c.isWhitespace) :
    FactorText (.text before :: (t ++ [.text behind])) level.expression := by
  obtain ⟨ls, hr, hd⟩ := h
  refine ⟨.opening :: ls ++ [.closing], ?_, .block hd.expression⟩
  intro others cs hcs
  have hdl : Delimited (bs' ++ ')' :: cs) := by
    cases bs' with
    | nil => exact delimited_of_head? rfl rfl
    | cons b bs' =>
      exact delimited_of_head? rfl (isWordChar_of_isWhitespace (hw' b List.mem_cons_self))
  have hv : Template.values (.text before :: (t ++ [.text behind])) = t.values := by
    simp [Template.values_append]
  have hc : Template.chars (.text before :: (t ++ [.text behind])) ++ cs =
      '(' :: (bs ++ (t.chars ++ (bs' ++ ')' :: cs))) := by
    simp [Template.chars, hb, hb']
  rw [hv, hc, lexemes?_opening, lexemes?_blanks hw, hr _ _ hdl, lexemes?_blanks hw',
    lexemes?_closing, Option.map_map, Option.map_map]
  simp [Function.comp_def]

theorem LevelText.parenthesised {t : Template} {level : Level} (h : LevelText t level) :
    FactorText t.parenthesised level.expression := by
  have ho : "(".toList = '(' :: [] := by decide
  have hc : ")".toList = [] ++ [')'] := by decide
  exact h.enclosed ho hc (by simp) (by simp)

theorem Template.joined_cons_eq_flatMap (separator : String) (t : Template)
    (parts : List Template) :
    joined separator (t :: parts) = t ++ parts.flatMap (.text separator :: ·) :=
  intercalate_cons_eq_flatMap _ t parts

/-- A condition with plain tests; one in parentheses has some. -/
def Condition.Plain : Condition → Prop
  | .atom a => a.Plain
  | .joined _ atoms => atoms ≠ [] ∧ ∀ a ∈ atoms, a.Plain

/-- What the text of a condition spells; one in parentheses has some tests. -/
def Condition.expression : Condition → Expression
  | .atom a => .atom a
  | .joined _ [] => default
  | .joined c (a :: atoms) =>
    ((Level.start (.atom a)).joinAll (atoms.map fun b => (c, .atom b))).expression

theorem Condition.factorText {c : Condition} (h : c.Plain) : FactorText c.template c.expression := by
  cases c with
  | atom a => exact Atom.factorText h
  | joined c atoms =>
    obtain ⟨hn, ha⟩ := h
    obtain ⟨a, atoms, rfl⟩ := List.exists_cons_of_ne_nil hn
    have hf := (Atom.factorText (ha a List.mem_cons_self)).level
    have hp : List.Forall₂ FactorText (atoms.map Atom.template) (atoms.map .atom) := by
      rw [List.forall₂_map_left_iff, List.forall₂_map_right_iff, List.forall₂_same]
      exact fun b hb => Atom.factorText (ha b (List.mem_cons_of_mem a hb))
    have hl := (hf.joinAll c hp).parenthesised
    rw [List.map_map] at hl
    rw [template, List.map_cons, Template.joined_cons_eq_flatMap]
    exact hl

namespace ConditionKey

variable {key : ConditionKey}

theorem plain_equality (h : IsPlainColumn key.column) (operand : Operand) :
    (key.equality operand).Plain := by
  cases operand with
  | scalar value =>
    rw [equality_scalar]
    split
    next => exact h
    next => exact h
  | list values =>
    by_cases hv : values = []
    · rw [hv]
      exact trivial
    · rw [equality_list key hv]
      split
      next => exact h
      next hn =>
        split
        next => exact ⟨h, hn⟩
        next =>
          refine ⟨List.cons_ne_nil _ _, ?_⟩
          intro a ha
          rcases List.mem_cons.mp ha with rfl | ha
          · exact h
          · rw [List.mem_singleton.mp ha]
            exact ⟨h, hn⟩

theorem plain_compares (h : IsPlainColumn key.column) (comparison : Comparison)
    (values : List Value) : ∀ a ∈ values.map (.compare key.column comparison), Atom.Plain a := by
  intro a ha
  obtain ⟨value, _, rfl⟩ := List.mem_map.mp ha
  exact h

theorem plain_likeness (h : IsPlainColumn key.column) (operand : Operand) :
    (key.likeness operand).Plain := by
  cases operand with
  | scalar value =>
    rw [likeness_scalar]
    split
    next => exact h
    next => exact h
  | list values =>
    by_cases hv : values = []
    · rw [hv]
      exact trivial
    · rw [likeness_list key hv]
      constructor
      · intro he
        obtain ⟨hm, hr⟩ := List.append_eq_nil_iff.mp he
        rw [List.map_eq_nil_iff] at hm
        have hl : (nonNull values).length ≠ values.length := by
          simpa [hm] using fun e : 0 = values.length => hv (List.length_eq_zero_iff.mp e.symm)
        rw [if_neg hl] at hr
        cases hr
      · intro a ha
        rcases List.mem_append.mp ha with ha | ha
        · exact plain_compares h _ _ a ha
        · split at ha
          next => cases ha
          next =>
            rw [List.mem_singleton.mp ha]
            exact h

theorem plain_ordering (h : IsPlainColumn key.column) {comparison : Comparison}
    {operand : Operand} {c : Condition} (hc : key.ordering comparison operand = .ok c) :
    c.Plain := by
  obtain ⟨value, rfl, _, rfl⟩ | ⟨values, rfl, _, rfl⟩ := ordering_eq_ok hc
  · exact h
  · split
    next => exact trivial
    next hv => exact ⟨by simpa using hv, plain_compares h _ _⟩

theorem plain_bounds (h : IsPlainColumn key.column) {operand : Operand} {c : Condition}
    (hc : key.bounds operand = .ok c) : c.Plain := by
  obtain ⟨low, high, rfl, _, _, rfl⟩ := bounds_eq_ok hc
  split
  next => exact ⟨List.cons_ne_nil _ _, by simp [Atom.Plain, h]⟩
  next => exact ⟨List.cons_ne_nil _ _, by simp [Atom.Plain, h]⟩

theorem plain_condition (h : IsPlainColumn key.column) {operand : Operand} {c : Condition}
    (hc : key.condition operand = .ok c) : c.Plain := by
  rcases condition_eq_ok hc with rfl | rfl | hc | ⟨comparison, hc⟩
  · exact plain_equality h operand
  · exact plain_likeness h operand
  · exact plain_bounds h hc
  · exact plain_ordering h hc

end ConditionKey

theorem factorText_groupTemplate {first : Condition} {rest : List Condition} {e : Expression}
    {es : List Expression} (hf : FactorText first.template e)
    (hr : List.Forall₂ (fun c e => FactorText c.template e) rest es) :
    FactorText (groupTemplate first rest)
      ((Level.start e).joinAll (es.map fun e => (.and, e))).expression := by
  have hp : List.Forall₂ FactorText (rest.map Condition.template) es :=
    List.forall₂_map_left_iff.mpr hr
  have hl := (hf.level.joinAll .and hp).parenthesised
  cases rest with
  | nil =>
    cases hr
    exact hf
  | cons next rest =>
    rw [groupTemplate, if_neg (by simp), List.map_cons, Template.joined_cons_eq_flatMap]
    exact hl

/-- A link of a level whose term has the same text, up to blanks, at every depth. -/
def LinkText (link : Connective × Term) (operand : Connective × Expression) : Prop :=
  link.1 = operand.1 ∧ ∀ indent depth, FactorText (link.2.template indent depth) operand.2

theorem LevelText.linked {t : Template} {level : Level} {links : List (Connective × Term)}
    {operands : List (Connective × Expression)} (indent depth : Nat) (h : LevelText t level)
    (hl : List.Forall₂ LinkText links operands) :
    LevelText (t ++ linkedTemplate indent depth links) (level.joinAll operands) := by
  induction hl generalizing t level with
  | nil =>
    rw [linkedTemplate, List.append_nil]
    exact h
  | @cons link operand links operands hu _ ih =>
    obtain ⟨c, term⟩ := link
    obtain ⟨c', e⟩ := operand
    obtain ⟨rfl, ht⟩ := hu
    have hn := ih (h.join c (ht indent depth))
    rw [List.append_assoc] at hn
    exact hn

theorem factorText_block {first : Term} {rest : List (Connective × Term)} {e : Expression}
    {operands : List (Connective × Expression)}
    (hf : ∀ indent depth, FactorText (first.template indent depth) e)
    (hr : List.Forall₂ LinkText rest operands) (indent depth : Nat) :
    FactorText ((Term.block first rest).template indent depth)
      ((Level.start e).joinAll operands).expression := by
  have hl := (hf indent (depth + 1)).level.linked indent (depth + 1) hr
  have ho : ("(\n" ++ blanks (indent * (depth + 1))).toList =
      '(' :: '\n' :: List.replicate (indent * (depth + 1)) ' ' := by
    simp [blanks]
  have hc : ("\n" ++ blanks (indent * depth) ++ ")").toList =
      '\n' :: List.replicate (indent * depth) ' ' ++ [')'] := by
    simp [blanks]
  have hw : ∀ n, ∀ c ∈ '\n' :: List.replicate n ' ', c.isWhitespace := by
    intro n c hc
    rcases List.mem_cons.mp hc with rfl | hc
    · rfl
    · rw [List.eq_of_mem_replicate hc]
      rfl
  rw [Term.template]
  exact hl.enclosed ho hc (hw _) (hw _)

theorem LevelText.read? {t : Template} {level : Level} (h : LevelText t level) (offset : Nat) :
    Expression.read? t.values (t.sql .question offset) = some level.expression := by
  obtain ⟨ls, hr, hd⟩ := h
  have hl := hr [] [] (by simp [Delimited])
  rw [List.append_nil, List.append_nil] at hl
  have hn : lexemes? [] [] = some [] := by
    rw [lexemes?, show tokens? [] [] = some [] from rfl, Option.bind_some, Lexeme.ofTokens?]
  rw [hn, Option.map_some, List.append_nil] at hl
  rw [Expression.read?_eq_some_iff, Template.toList_sql_question]
  exact ⟨ls, hl, hd.expression⟩

end Criteria
