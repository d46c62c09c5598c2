import Criteria.BuildError
import Criteria.Value

namespace Criteria

/-- Joins two neighbours of one level. -/
inductive Connective where
  | and
  | or
  deriving DecidableEq

namespace Connective

def keyword : Connective → String
  | .and => "AND"
  | .or => "OR"

/-- Either keyword, in capitals or in small letters throughout. -/
def ofText? (text : String) : Option Connective :=
  if text = "AND" ∨ text = "and" then some .and
  else if text = "OR" ∨ text = "or" then some .or
  else none

def read (text : String) : Except BuildError Connective :=
  match ofText? text with
  | some connective => pure connective
  | none => throw (.connective text)

end Connective

/-- What a condition compares its column with. -/
inductive Operand where
  | scalar (value : Value)
  | list (values : List Value)
  deriving DecidableEq

namespace Operand

instance : Inhabited Operand := ⟨.scalar .null⟩

instance : Coe Value Operand := ⟨.scalar⟩

def values : Operand → List Value
  | .scalar value => [value]
  | .list values => values

def same : Operand → Operand → Bool
  | .scalar a, .scalar b => a.same b
  | .list as, .list bs => as.length == bs.length && (as.zip bs).all fun (a, b) => a.same b
  | _, _ => false

end Operand

/-- Conditions that hold together, by their keys. An entry without operand is absent: it keeps its
place and asks for nothing. -/
abbrev Group := Keyed (Option Operand)

namespace Group

def withOperand (group : Group) (key : String) (operand : Operand) : Group :=
  Keyed.insert group key (some operand)

/-- Without an operand the entry is recorded as absent. -/
def withOption (group : Group) (key : String) (operand : Option Operand) : Group :=
  Keyed.insert group key operand

/-- The entries that are not absent, in order. -/
def present (group : Group) : List (String × Operand) :=
  group.entries.filterMap fun (key, operand) => operand.map fun o => (key, o)

def sameOperand : Option Operand → Option Operand → Bool
  | some a, some b => a.same b
  | none, none => true
  | _, _ => false

def same (a b : Group) : Bool :=
  a.keys == b.keys && (a.values.zip b.values).all fun (x, y) => sameOperand x y

end Group

/-- An element of a level of a condition tree. -/
inductive Node where
  | group (group : Group)
  | connective (connective : Connective)
  | nested (nodes : List Node)

namespace Node

instance : Inhabited Node := ⟨.nested []⟩

def isConnective : Node → Bool
  | .connective _ => true
  | _ => false

mutual

def same : Node → Node → Bool
  | .group a, .group b => Group.same a b
  | .connective a, .connective b => a == b
  | .nested as, .nested bs => sameAll as bs
  | _, _ => false

def sameAll : List Node → List Node → Bool
  | [], [] => true
  | a :: as, b :: bs => same a b && sameAll as bs
  | _, _ => false

end

end Node

/-- A condition tree. A level that can be compiled alternates between operands, which are groups and
nested levels, and connectives. -/
structure Where where
  nodes : List Node

namespace Where

def empty : Where := ⟨[]⟩

instance : Inhabited Where := ⟨empty⟩

instance : EmptyCollection Where := ⟨empty⟩

def ofGroup (group : Group) : Where := ⟨[.group group]⟩

instance : Coe Group Where := ⟨ofGroup⟩

/-- The tree as the only element of a level around it. -/
def nested (tree : Where) : Where := ⟨[.nested tree.nodes]⟩

/-- Appends an operand; the connective joins it to what is there already. -/
def append (tree : Where) (connective : Connective) (operand : Node) : Where :=
  if tree.nodes.isEmpty then ⟨[operand]⟩
  else ⟨tree.nodes ++ [.connective connective, operand]⟩

def and (tree : Where) (group : Group) : Where := tree.append .and (.group group)

def or (tree : Where) (group : Group) : Where := tree.append .or (.group group)

def andNested (tree inner : Where) : Where := tree.append .and (.nested inner.nodes)

def orNested (tree inner : Where) : Where := tree.append .or (.nested inner.nodes)

def size (tree : Where) : Nat := tree.nodes.length

def isEmpty (tree : Where) : Bool := tree.nodes.isEmpty

/-- Equality in structure, order and absent entries, with values compared as values. -/
def same (a b : Where) : Bool := Node.sameAll a.nodes b.nodes

end Where

/-- A level has an odd number of elements. -/
def checkLength (length : Nat) : Except BuildError Unit :=
  if length % 2 = 0 then throw (.shape .evenLength) else pure ()

/-- Connectives stand at odd indices and nowhere else. -/
def checkPosition (index : Nat) (isConnective : Bool) : Except BuildError Unit :=
  if index % 2 = 1 ∧ ¬ isConnective then throw (.shape (.missingConnective index))
  else if index % 2 = 0 ∧ isConnective then throw (.shape (.misplacedConnective index))
  else pure ()

end Criteria
