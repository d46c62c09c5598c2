import Criteria.Select

namespace Criteria

/-- Removes the rows of a table that pass the filter; without a filter, all of them. -/
structure Delete where
  table : String
  filter : Option Where := none
  format : Format := {}

namespace Delete

def template (d : Delete) : Except BuildError Template := do
  checkName "DELETE FROM" d.table
  let condition ← filterTemplate d.filter d.format.indent
  return .text ("DELETE FROM " ++ d.table) :: condition

end Delete

end Criteria
