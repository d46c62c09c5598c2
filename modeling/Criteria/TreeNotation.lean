import Criteria.Tree

namespace Criteria

/-- A scalar under the key of a condition. -/
def Value.read : Json → Except ValueFault Value
  | .null => pure .null
  | .number n => pure (ofNumber n)
  | .string s => pure (.text s)
  | .bool b => throw (.boolean b)
  | .array _ => throw .nestedList
  | .object _ => throw .object

/-- An element of a list under the key of a condition. -/
def Value.readElement : Json → Except ValueFault Value
  | .array _ | .object _ => throw .nestedList
  | j => Value.read j

def Operand.read : Json → Except ValueFault Operand
  | .array items => return .list (← items.mapM Value.readElement)
  | j => return .scalar (← Value.read j)

namespace Group

/-- The operand of one member; a fault names the member's key. -/
def readEntry (member : String × Json) : Except BuildError (String × Option Operand) :=
  match Operand.read member.2 with
  | .ok operand => pure (member.1, some operand)
  | .error fault => throw (.invalidValue member.1 fault)

/-- A group by the members of an object. A repeated key counts once, where it stands first and with
its last value. -/
def read (members : List (String × Json)) : Except BuildError Group :=
  return Keyed.ofList (← (Keyed.ofList members).entries.mapM readEntry)

end Group

namespace Where

mutual

/-- The elements of a level: an array of odd length. -/
def readLevel : Json → Except BuildError (List Node)
  | .array items => do
    checkLength items.length
    readNodes 0 items
  | _ => throw (.shape .notArray)

/-- The elements from an index on. Each is judged by its position, then read, before the next. -/
def readNodes (index : Nat) : List Json → Except BuildError (List Node)
  | [] => pure []
  | item :: rest => do
    checkPosition index item.isString
    let node ← readNode index item
    let nodes ← readNodes (index + 1) rest
    return node :: nodes

/-- A string is a connective, an object a group, and an array wraps one nested level. -/
def readNode (index : Nat) : Json → Except BuildError Node
  | .string s => .connective <$> Connective.read s
  | .object members => .group <$> Group.read members
  | .array [inner] => .nested <$> readLevel inner
  | .array items => throw (.shape (.wrapping index items.length))
  | element => throw (.shape (.unknownElement index element))

end

/-- The tree that a JSON value denotes. -/
def ofJson (j : Json) : Except BuildError Where := Where.mk <$> readLevel j

end Where

/-- An operand as written under its key; an absent one is written as null. -/
def Operand.toJson : Option Operand → Json
  | some (.scalar value) => value.toJson
  | some (.list values) => .array (values.map Value.toJson)
  | none => .null

def Group.toJson (group : Group) : Json :=
  .object (group.entries.map fun (key, operand) => (key, Operand.toJson operand))

namespace Node

mutual

/-- The notation of an element. -/
def toJson : Node → Json
  | .group g => g.toJson
  | .connective c => .string c.keyword
  | .nested nodes => .array [.array (listToJson nodes)]

def listToJson : List Node → List Json
  | [] => []
  | node :: rest => toJson node :: listToJson rest

end

end Node

/-- The notation of a tree. -/
def Where.toJson (tree : Where) : Json := .array (Node.listToJson tree.nodes)

end Criteria
