import Criteria.Format
import Criteria.Value

namespace Criteria

/-- All but the first of the lists follow a separator. -/
theorem intercalate_cons_eq_flatMap {α : Type} (separator : α) (part : List α)
    (parts : List (List α)) :
    [separator].intercalate (part :: parts) = part ++ parts.flatMap (separator :: ·) := by
  induction parts generalizing part with
  | nil => simp
  | cons next parts ih =>
    rw [List.intercalate_cons_cons, ih, List.flatMap_cons, List.append_assoc]
    rfl

/-- A piece of a statement: fixed text, or the place of a bound value. -/
inductive Piece where
  | text (s : String)
  | bound (value : Value)

/-- A statement whose bound values are not numbered yet. -/
abbrev Template := List Piece

/-- The text of a statement, and its bound values in the order of their places. -/
structure Fragment where
  sql : String
  params : List Value

def Piece.value? : Piece → Option Value
  | .text _ => none
  | .bound value => some value

namespace Template

/-- The bound values in order. -/
def values (t : Template) : List Value := t.filterMap Piece.value?

/-- The text behind `offset` bound values. -/
def sql (style : Placeholder) (offset : Nat) : Template → String
  | [] => ""
  | .text s :: rest => s ++ sql style offset rest
  | .bound _ :: rest => style.mark (offset + 1) ++ sql style (offset + 1) rest

@[simp] theorem values_nil : values [] = [] := rfl

@[simp] theorem values_text (s : String) (rest : Template) :
    values (.text s :: rest) = values rest := rfl

@[simp] theorem values_bound (value : Value) (rest : Template) :
    values (.bound value :: rest) = value :: values rest := rfl

theorem values_append (a b : Template) : values (a ++ b) = values a ++ values b :=
  List.filterMap_append

/-- Numbering goes on behind the bound values of the first part. -/
theorem sql_append (style : Placeholder) (offset : Nat) (a b : Template) :
    sql style offset (a ++ b) = sql style offset a ++ sql style (offset + (values a).length) b := by
  induction a generalizing offset with
  | nil => simp [sql]
  | cons piece rest ih =>
    cases piece with
    | text s => simp only [List.cons_append, sql, ih, values_text, String.append_assoc]
    | bound value =>
      have h : offset + 1 + (values rest).length = offset + ((values rest).length + 1) := by omega
      simp only [List.cons_append, sql, ih, values_bound, String.append_assoc, List.length_cons, h]

def fragment (style : Placeholder) (offset : Nat) (t : Template) : Fragment :=
  ⟨t.sql style offset, t.values⟩

/-- Templates one after the other, with a text between them. -/
def joined (separator : String) (parts : List Template) : Template :=
  [Piece.text separator].intercalate parts

@[simp] theorem joined_nil (separator : String) : joined separator [] = [] := rfl

@[simp] theorem joined_singleton (separator : String) (part : Template) :
    joined separator [part] = part :=
  List.intercalate_singleton

theorem joined_cons_cons (separator : String) (part next : Template) (rest : List Template) :
    joined separator (part :: next :: rest) =
      part ++ .text separator :: joined separator (next :: rest) := by
  rw [joined, List.intercalate_cons_cons, List.append_assoc]
  rfl

/-- A template in parentheses. -/
def parenthesised (t : Template) : Template := .text "(" :: t ++ [.text ")"]

end Template

/-- Whether there is no condition at all. -/
def Fragment.isEmpty (f : Fragment) : Bool := f.sql.isEmpty

end Criteria
