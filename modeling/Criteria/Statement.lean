import Criteria.Delete
import Criteria.Insert
import Criteria.Update

namespace Criteria

inductive Statement where
  | select (s : Select)
  | insert (i : Insert)
  | update (u : Update)
  | delete (d : Delete)

inductive StatementKind where
  | select
  | insert
  | update
  | delete
  deriving DecidableEq

/-- A part of a statement that is given or replaced. -/
inductive Change where
  | columns (columns : List String)
  | columnAs (expression name : String)
  | table (table : String)
  | filter (tree : Where)
  | order (order : String)
  | limit (limit : Limit)
  | option (name : String) (value : Value)
  | format (format : Format)
  | row (row : Row)
  | rows (rows : List Row)
  | values (rows : List (List Value))
  | set (column : String) (value : Value)
  | setOptional (column : String) (value : Option Value)
  | setRow (row : Row)

def StatementKind.name : StatementKind → String
  | .select => "Select"
  | .insert => "Insert"
  | .update => "Update"
  | .delete => "Delete"

/-- A change of a part that a query does not have leaves it as it is. -/
def Select.apply (s : Select) : Change → Select
  | .columns columns => s.addColumns columns
  | .columnAs expression name => s.addColumnAs expression name
  | .table table => { s with table := some table }
  | .filter tree => { s with filter := some tree }
  | .order order => { s with order := some order }
  | .limit limit => { s with limit := some limit }
  | .option name value => s.setOption name value
  | .format format => { s with format }
  | _ => s

def Insert.apply (i : Insert) : Change → Insert
  | .columns columns => i.setColumns columns
  | .row row => i.addRow row
  | .rows rows => i.setRows rows
  | .values rows => i.setValues rows
  | .format format => { i with format }
  | _ => i

def Update.apply (u : Update) : Change → Update
  | .set column value => u.set column value
  | .setOptional column value => u.setOptional column value
  | .setRow row => { u with assignments := row }
  | .filter tree => { u with filter := some tree }
  | .format format => { u with format }
  | _ => u

def Delete.apply (d : Delete) : Change → Delete
  | .filter tree => { d with filter := some tree }
  | .format format => { d with format }
  | _ => d

namespace Statement

def kind : Statement → StatementKind
  | .select _ => .select
  | .insert _ => .insert
  | .update _ => .update
  | .delete _ => .delete

def apply : Statement → Change → Statement
  | .select s, change => .select (s.apply change)
  | .insert i, change => .insert (i.apply change)
  | .update u, change => .update (u.apply change)
  | .delete d, change => .delete (d.apply change)

def placeholder : Statement → Placeholder
  | .select s => s.format.placeholder
  | .insert i => i.format.placeholder
  | .update u => u.format.placeholder
  | .delete d => d.format.placeholder

def template : Statement → Except BuildError Template
  | .select s => s.template
  | .insert i => i.template
  | .update u => u.template
  | .delete d => d.template

/-- The text of the statement with its bound values, numbered from 1. -/
def build (statement : Statement) : Except BuildError Fragment :=
  return (← statement.template).fragment statement.placeholder 0

end Statement

end Criteria
