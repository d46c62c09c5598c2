import Criteria.Identifier
import Criteria.WhereClause

namespace Criteria

/-- How many rows are taken, and how many are passed over before. -/
structure Limit where
  offset : Option Nat
  count : Nat
  deriving DecidableEq

/-- A query for rows of one table. Columns and order are written as given; without columns all are
selected. -/
structure Select where
  columns : List String := []
  table : Option String := none
  filter : Option Where := none
  order : Option String := none
  limit : Option Limit := none
  options : Keyed Value := {}
  format : Format := {}

/-- The condition of a statement, if there is a tree that asks for something. -/
def filterTemplate (filter : Option Where) (indent : Nat) : Except BuildError Template := do
  match filter with
  | none => return []
  | some tree =>
    if tree.isEmpty then return []
    else
      match ← tree.template indent with
      | [] => return []
      | condition => return .text "\nWHERE " :: condition

def Limit.text (limit : Limit) : String :=
  match limit.offset with
  | some offset => toString offset ++ ", " ++ toString limit.count
  | none => toString limit.count

namespace Select

def ofColumns (columns : List String) : Select := { columns }

def addColumns (s : Select) (columns : List String) : Select :=
  { s with columns := s.columns ++ columns }

/-- A column under another name. -/
def addColumnAs (s : Select) (expression name : String) : Select :=
  s.addColumns [expression ++ " AS " ++ name]

def setOption (s : Select) (name : String) (value : Value) : Select :=
  { s with options := s.options.insert name value }

/-- The table, which must have a name. -/
def checkedTable (s : Select) : Except BuildError String := do
  match s.table with
  | none => throw (.missingData .table)
  | some table =>
    if table.isEmpty then throw (.missingData .table)
    checkName "FROM" table
    return table

def checkOption (option : String × Value) : Except BuildError Unit := do
  checkName "OPTION name" option.1
  if option.2.isNull then throw (.invalidValue option.1 .nullOption)

def columnText (s : Select) : String :=
  if s.columns.isEmpty then "*" else ", ".intercalate s.columns

def orderTemplate (s : Select) : Template :=
  match s.order with
  | none => []
  | some order => if order.isEmpty then [] else [.text ("\nORDER BY " ++ order)]

def limitTemplate (s : Select) : Template :=
  match s.limit with
  | none => []
  | some limit => [.text ("\nLIMIT " ++ limit.text)]

def optionTemplate (s : Select) : Template :=
  if s.options.isEmpty then []
  else .text "\nOPTION " :: Template.joined ", "
    (s.options.entries.map fun (name, value) => [.text (name ++ "="), .bound value])

/-- Names and options are checked before the condition is read. -/
def template (s : Select) : Except BuildError Template := do
  let table ← s.checkedTable
  s.options.entries.forM checkOption
  let condition ← filterTemplate s.filter s.format.indent
  return .text ("SELECT " ++ s.columnText ++ "\nFROM " ++ table) ::
    (condition ++ s.orderTemplate ++ s.limitTemplate ++ s.optionTemplate)

end Select

end Criteria
