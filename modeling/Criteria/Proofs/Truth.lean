import Criteria.Condition
import Mathlib.Tactic.TypeStar

namespace Criteria

/-- The outcome of a test in three-valued logic. -/
inductive Truth where
  | no
  | unknown
  | yes
  deriving DecidableEq

namespace Truth

def ofBool (b : Bool) : Truth := if b then .yes else .no

def not : Truth → Truth
  | .no => .yes
  | .unknown => .unknown
  | .yes => .no

def and : Truth → Truth → Truth
  | .no, _ => .no
  | .unknown, .no => .no
  | .unknown, _ => .unknown
  | .yes, b => b

def or : Truth → Truth → Truth
  | .no, b => b
  | .unknown, .yes => .yes
  | .unknown, _ => .unknown
  | .yes, _ => .yes

def all (tests : List Truth) : Truth := tests.foldr and .yes

def any (tests : List Truth) : Truth := tests.foldr or .no

@[simp] theorem and_yes (a : Truth) : a.and .yes = a := by cases a <;> rfl

@[simp] theorem yes_and (a : Truth) : yes.and a = a := rfl

@[simp] theorem or_no (a : Truth) : a.or .no = a := by cases a <;> rfl

@[simp] theorem no_or (a : Truth) : no.or a = a := rfl

theorem and_assoc (a b c : Truth) : (a.and b).and c = a.and (b.and c) := by
  cases a <;> cases b <;> cases c <;> rfl

theorem or_assoc (a b c : Truth) : (a.or b).or c = a.or (b.or c) := by
  cases a <;> cases b <;> cases c <;> rfl

@[simp] theorem all_nil : all [] = .yes := rfl

@[simp] theorem all_cons (a : Truth) (tests : List Truth) : all (a :: tests) = a.and (all tests) :=
  rfl

@[simp] theorem any_nil : any [] = .no := rfl

@[simp] theorem any_cons (a : Truth) (tests : List Truth) : any (a :: tests) = a.or (any tests) :=
  rfl

theorem all_append (xs ys : List Truth) : all (xs ++ ys) = (all xs).and (all ys) := by
  induction xs with
  | nil => rfl
  | cons a xs ih => rw [List.cons_append, all_cons, all_cons, ih, and_assoc]

theorem or_comm (a b : Truth) : a.or b = b.or a := by
  cases a <;> cases b <;> rfl

theorem not_and (a b : Truth) : (a.and b).not = a.not.or b.not := by
  cases a <;> cases b <;> rfl

theorem not_or (a b : Truth) : (a.or b).not = a.not.and b.not := by
  cases a <;> cases b <;> rfl

theorem not_any (tests : List Truth) : (any tests).not = all (tests.map not) := by
  induction tests with
  | nil => rfl
  | cons a tests ih => rw [any_cons, List.map_cons, all_cons, not_or, ih]

theorem any_append (xs ys : List Truth) : any (xs ++ ys) = (any xs).or (any ys) := by
  induction xs with
  | nil => rfl
  | cons a xs ih => rw [List.cons_append, any_cons, any_cons, ih, or_assoc]

theorem not_ofBool (b : Bool) : (ofBool b).not = ofBool !b := by
  cases b <;> rfl

/-- The outcome, or with negation the opposite one. -/
def signed (negated : Bool) (a : Truth) : Truth := if negated then a.not else a

@[simp] theorem signed_false (a : Truth) : signed false a = a := rfl

@[simp] theorem signed_true (a : Truth) : signed true a = a.not := rfl

end Truth

/-- What a database makes of values: the datum that a bound value other than null stands for, and
how data compare. -/
structure Database (α : Type*) where
  datum : Value → α
  equal : α → α → Bool
  less : α → α → Bool
  like : α → α → Bool

section

variable {α : Type*} (db : Database α)

def Database.datum? (value : Value) : Option α :=
  if value.isNull then none else some (db.datum value)

def Comparison.holds (a b : α) : Comparison → Bool
  | .eq => db.equal a b
  | .ne => !db.equal a b
  | .lt => db.less a b
  | .le => db.less a b || db.equal a b
  | .gt => db.less b a
  | .ge => db.less b a || db.equal a b
  | .like => db.like a b
  | .notLike => !db.like a b

/-- A comparison with null has no outcome. -/
def Comparison.truth (comparison : Comparison) : Option α → Option α → Truth
  | some a, some b => .ofBool (comparison.holds db a b)
  | _, _ => .unknown

/-- The outcome of a test at a row that gives each column a datum or null. -/
def Atom.truth (row : String → Option α) : Atom → Truth
  | .compare column comparison value => comparison.truth db (row column) (db.datum? value)
  | .isNull column negated => .ofBool ((row column).isNone != negated)
  | .isIn column negated values =>
    let found := Truth.any (values.map fun value =>
      Comparison.eq.truth db (row column) (db.datum? value))
    if negated then found.not else found
  | .numerals left right => .ofBool (left = right)

end

end Criteria
