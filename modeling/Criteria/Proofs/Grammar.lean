import Criteria.Proofs.Truth

namespace Criteria

inductive Expression where
  | atom (a : Atom)
  | and (left right : Expression)
  | or (left right : Expression)
  deriving DecidableEq

instance : Inhabited Expression := ⟨.atom (.numerals 1 0)⟩

def Expression.truth (test : Atom → Truth) : Expression → Truth
  | .atom a => test a
  | .and left right => (left.truth test).and (right.truth test)
  | .or left right => (left.truth test).or (right.truth test)

inductive Lexeme where
  | atom (a : Atom)
  | opening
  | closing
  | connective (c : Connective)
  deriving DecidableEq

mutual

/-- A test, or a condition in parentheses. -/
inductive Factor : List Lexeme → Expression → Prop
  | atom (a : Atom) : Factor [.atom a] (.atom a)
  | block {ls : List Lexeme} {e : Expression} : Disjunction ls e →
    Factor (.opening :: ls ++ [.closing]) e

/-- Factors joined by AND. -/
inductive Conjunction : List Lexeme → Expression → Prop
  | factor {ls : List Lexeme} {e : Expression} : Factor ls e → Conjunction ls e
  | and {ls ms : List Lexeme} {e f : Expression} : Conjunction ls e → Factor ms f →
    Conjunction (ls ++ .connective .and :: ms) (.and e f)

/-- Conjunctions joined by OR. -/
inductive Disjunction : List Lexeme → Expression → Prop
  | conjunction {ls : List Lexeme} {e : Expression} : Conjunction ls e → Disjunction ls e
  | or {ls ms : List Lexeme} {e f : Expression} : Disjunction ls e → Conjunction ms f →
    Disjunction (ls ++ .connective .or :: ms) (.or e f)

end

/-- A level of parentheses read so far: the conjunctions that have ended, if any, and the one that
may go on. -/
structure Level where
  ended : Option Expression
  run : Expression

namespace Level

def start (e : Expression) : Level := ⟨none, e⟩

def expression (level : Level) : Expression :=
  match level.ended with
  | none => level.run
  | some e => .or e level.run

def join (level : Level) : Connective → Expression → Level
  | .and, e => ⟨level.ended, .and level.run e⟩
  | .or, e => ⟨some level.expression, e⟩

def extend : Option (Level × Connective) → Expression → Level
  | none, e => start e
  | some (level, c), e => level.join c e

def joinAll (level : Level) (links : List (Connective × Expression)) : Level :=
  links.foldl (fun level link => level.join link.1 link.2) level

end Level

mutual

/-- Reads on where an operand has to stand, with what stands before it on its level and on each
level around it. -/
def readOperand (outer : List (Option (Level × Connective)))
    (before : Option (Level × Connective)) : List Lexeme → Option Expression
  | .atom a :: rest => readConnective outer (Level.extend before (.atom a)) rest
  | .opening :: rest => readOperand (before :: outer) none rest
  | _ => none

def readConnective (outer : List (Option (Level × Connective))) (level : Level) :
    List Lexeme → Option Expression
  | [] => if outer.isEmpty then some level.expression else none
  | .connective c :: rest => readOperand outer (some (level, c)) rest
  | .closing :: rest =>
    match outer with
    | [] => none
    | before :: outer => readConnective outer (Level.extend before level.expression) rest
  | _ => none

end

def Expression.ofLexemes? (ls : List Lexeme) : Option Expression := readOperand [] none ls

/-- Lexemes that a level stands for. -/
def Level.Derives (ls : List Lexeme) (level : Level) : Prop :=
  match level.ended with
  | none => Conjunction ls level.run
  | some e =>
    ∃ ks ms, ls = ks ++ .connective .or :: ms ∧ Disjunction ks e ∧ Conjunction ms level.run

namespace Level

theorem derives_start {ls : List Lexeme} {e : Expression} (h : Factor ls e) :
    (start e).Derives ls :=
  .factor h

theorem Derives.expression {ls : List Lexeme} {level : Level} (h : level.Derives ls) :
    Disjunction ls level.expression := by
  obtain ⟨ended, run⟩ := level
  cases ended with
  | none => exact .conjunction h
  | some e =>
    obtain ⟨ks, ms, rfl, hk, hm⟩ := h
    exact .or hk hm

theorem Derives.join {ls ms : List Lexeme} {level : Level} {e : Expression} (c : Connective)
    (h : level.Derives ls) (he : Factor ms e) :
    (level.join c e).Derives (ls ++ .connective c :: ms) := by
  cases c with
  | or => exact ⟨ls, ms, rfl, h.expression, .factor he⟩
  | and =>
    obtain ⟨ended, run⟩ := level
    cases ended with
    | none => exact .and h he
    | some d =>
      obtain ⟨ks, ns, rfl, hk, hn⟩ := h
      exact ⟨ks, ns ++ .connective .and :: ms, by simp, hk, .and hn he⟩

def DerivesBefore (ls : List Lexeme) : Option (Level × Connective) → Prop
  | none => ls = []
  | some (level, c) => ∃ ks, ls = ks ++ [.connective c] ∧ level.Derives ks

theorem DerivesBefore.extend {ls ms : List Lexeme} {before : Option (Level × Connective)}
    {e : Expression} (h : DerivesBefore ls before) (he : Factor ms e) :
    (Level.extend before e).Derives (ls ++ ms) := by
  cases before with
  | none =>
    rw [show ls = [] from h]
    exact derives_start he
  | some link =>
    obtain ⟨ks, rfl, hk⟩ := h
    rw [List.append_assoc]
    exact hk.join link.2 he

end Level

/-- Lexemes up to the last parenthesis that is still open, with what stands before each open one. -/
def Opened : List Lexeme → List (Option (Level × Connective)) → Prop
  | ls, [] => ls = []
  | ls, before :: outer =>
    ∃ ks ms, ls = ks ++ ms ++ [.opening] ∧ Opened ks outer ∧ Level.DerivesBefore ms before

/-- Whatever is read through derives from the grammar, with what was read before. -/
theorem disjunction_of_read (rest : List Lexeme) :
    (∀ outer before ks ms e, Opened ks outer → Level.DerivesBefore ms before →
      readOperand outer before rest = some e → Disjunction (ks ++ ms ++ rest) e) ∧
    ∀ outer level ks ms e, Opened ks outer → Level.Derives ms level →
      readConnective outer level rest = some e → Disjunction (ks ++ ms ++ rest) e := by
  induction rest with
  | nil =>
    constructor
    · intro outer before ks ms e _ _ h
      cases h
    · intro outer level ks ms e hk hm h
      cases outer with
      | nil =>
        cases h
        rw [show ks = [] from hk, List.nil_append, List.append_nil]
        exact hm.expression
      | cons before outer => cases h
  | cons l rest ih =>
    constructor
    · intro outer before ks ms e hk hm h
      cases l with
      | atom a =>
        have hd := ih.2 outer _ ks (ms ++ [.atom a]) e hk (hm.extend (.atom a)) h
        simpa using hd
      | opening =>
        have hd := ih.1 (before :: outer) none (ks ++ ms ++ [.opening]) [] e ⟨ks, ms, rfl, hk, hm⟩
          rfl h
        simpa using hd
      | closing => cases h
      | connective c => cases h
    · intro outer level ks ms e hk hm h
      cases l with
      | atom a => cases h
      | opening => cases h
      | closing =>
        cases outer with
        | nil => cases h
        | cons before outer =>
          obtain ⟨ks', ms', rfl, hk', hm'⟩ := hk
          have hf : Factor (.opening :: ms ++ [.closing]) level.expression := .block hm.expression
          have hd := ih.2 outer _ ks' _ e hk' (hm'.extend hf) h
          simpa using hd
      | connective c =>
        have hd := ih.1 outer (some (level, c)) ks (ms ++ [.connective c]) e hk ⟨ms, rfl, hm⟩ h
        simpa using hd

mutual

theorem Factor.read : ∀ {ls : List Lexeme} {e : Expression}, Factor ls e →
    ∀ outer before rest, readOperand outer before (ls ++ rest) =
      readConnective outer (Level.extend before e) rest
  | _, _, .atom a => fun outer before rest => rfl
  | _, _, .block h => by
    intro outer before rest
    obtain ⟨level, he, hr⟩ := h.read
    rw [List.append_assoc, List.cons_append, readOperand, List.singleton_append, hr,
      readConnective, he]

theorem Conjunction.read : ∀ {ls : List Lexeme} {e : Expression}, Conjunction ls e →
    ∀ outer (previous : Option Level) rest,
      readOperand outer (previous.map (·, .or)) (ls ++ rest) =
        readConnective outer ⟨previous.map Level.expression, e⟩ rest
  | _, _, .factor h => by
    intro outer previous rest
    rw [h.read]
    cases previous <;> rfl
  | _, _, .and h hf => by
    intro outer previous rest
    rw [List.append_assoc, List.cons_append, h.read, readConnective, hf.read]
    rfl

theorem Disjunction.read : ∀ {ls : List Lexeme} {e : Expression}, Disjunction ls e →
    ∃ level : Level, level.expression = e ∧ ∀ outer rest,
      readOperand outer none (ls ++ rest) = readConnective outer level rest
  | _, _, .conjunction h => ⟨_, rfl, fun outer rest => h.read outer none rest⟩
  | _, _, .or h hc => by
    obtain ⟨level, rfl, hr⟩ := h.read
    refine ⟨⟨some level.expression, _⟩, rfl, ?_⟩
    intro outer rest
    rw [List.append_assoc, List.cons_append, hr, readConnective]
    exact hc.read outer (some level) rest

end

/-- The reader finds an expression exactly if the grammar derives the lexemes, and then that one. -/
theorem Expression.ofLexemes?_eq_some_iff {ls : List Lexeme} {e : Expression} :
    Expression.ofLexemes? ls = some e ↔ Disjunction ls e := by
  constructor
  · intro h
    exact (disjunction_of_read ls).1 [] none [] [] e rfl rfl h
  · intro h
    obtain ⟨level, rfl, hr⟩ := h.read
    have hl := hr [] []
    rw [List.append_nil] at hl
    rw [ofLexemes?, hl]
    rfl

example (a b c : Atom) :
    Expression.ofLexemes?
        [.atom a, .connective .or, .atom b, .connective .and, .atom c] =
      some (.or (.atom a) (.and (.atom b) (.atom c))) :=
  rfl

/-- No sentence has two readings. -/
theorem Disjunction.unique {ls : List Lexeme} {e f : Expression} (he : Disjunction ls e)
    (hf : Disjunction ls f) : e = f := by
  have h := Expression.ofLexemes?_eq_some_iff.mpr he
  rw [Expression.ofLexemes?_eq_some_iff.mpr hf] at h
  exact (Option.some.inj h).symm

end Criteria
