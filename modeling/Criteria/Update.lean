import Criteria.Select

namespace Criteria

/-- New values for the rows of a table that pass the filter. -/
structure Update where
  table : String
  assignments : Row := {}
  filter : Option Where := none
  format : Format := {}

namespace Update

def set (u : Update) (column : String) (value : Value) : Update :=
  { u with assignments := u.assignments.insert column value }

/-- Without a value the column is left alone. -/
def setOptional (u : Update) (column : String) (value : Option Value) : Update :=
  { u with assignments := u.assignments.insert? column value }

def assignmentTemplate (u : Update) : Template :=
  Template.joined ", "
    (u.assignments.entries.map fun (column, value) => [.text (column ++ " = "), .bound value])

def template (u : Update) : Except BuildError Template := do
  checkName "UPDATE" u.table
  if u.assignments.isEmpty then throw (.missingData .assignments)
  let condition ← filterTemplate u.filter u.format.indent
  return .text ("UPDATE " ++ u.table ++ "\nSET ") :: (u.assignmentTemplate ++ condition)

end Update

end Criteria
