import Criteria.Identifier
import Criteria.Template

namespace Criteria

/-- New rows for a table. Every row that was added with its own columns has an entry in
`columnLists`, and a list of columns given for all rows is its only entry. -/
structure Insert where
  table : String
  columnLists : List (List String) := []
  rows : List (List Value) := []
  format : Format := {}

namespace Insert

def addRow (i : Insert) (row : Row) : Insert :=
  { i with columnLists := i.columnLists ++ [row.keys], rows := i.rows ++ [row.values] }

/-- Replaces what was added by rows with their own columns. -/
def setRows (i : Insert) (rows : List Row) : Insert :=
  rows.foldl addRow { i with columnLists := [], rows := [] }

def setColumns (i : Insert) (columns : List String) : Insert :=
  { i with columnLists := [columns] }

def setValues (i : Insert) (rows : List (List Value)) : Insert :=
  { i with rows }

/-- The first element that fails a test, with its index. -/
def firstFailing {α : Type} (test : α → Bool) (xs : List α) : Option (α × Nat) :=
  xs.zipIdx.find? fun (x, _) => !test x

/-- The columns that all rows share. -/
def checkedColumns (i : Insert) : Except BuildError (List String) := do
  match i.columnLists with
  | [] =>
    if i.rows.isEmpty then throw (.missingData .rows) else throw (.missingData .columnLists)
  | columns :: _ =>
    match firstFailing (· == columns) i.columnLists with
    | some (other, index) => throw (.shapeMismatch (.columns index other columns))
    | none => pure ()
    if columns.isEmpty then throw (.missingData .columns)
    if i.rows.isEmpty then throw (.missingData .values)
    match firstFailing (fun row => row.length == columns.length) i.rows with
    | some (row, index) => throw (.shapeMismatch (.width index row.length columns.length))
    | none => pure ()
    return columns

def rowTemplate (row : List Value) : Template :=
  (Template.joined ", " (row.map fun value => [.bound value])).parenthesised

def template (i : Insert) : Except BuildError Template := do
  checkName "INSERT INTO" i.table
  let columns ← i.checkedColumns
  return .text ("INSERT INTO " ++ i.table ++ "\n(" ++ ", ".intercalate columns ++ ")\nVALUES\n") ::
    Template.joined ",\n" (i.rows.map rowTemplate)

end Insert

end Criteria
