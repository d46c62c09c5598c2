import Criteria.TomlTree

namespace Criteria

/-- How a table came about: by a header, on the way to one, or by a key with points. -/
inductive TomlOrigin where
  | header
  | implied
  | dotted
  deriving DecidableEq

/-- What a key of a document stands for. Values are closed; tables may still grow, and of a list of
tables the last one may. -/
inductive TomlItem where
  | value (content : Json)
  | table (origin : TomlOrigin) (entries : List (String × TomlItem))
  | tables (items : List TomlItem)

abbrev TomlTable := List (String × TomlItem)

namespace TomlItem

mutual

/-- The item as a value. -/
def toJson : TomlItem → Json
  | .value content => content
  | .table _ entries => .object (entriesToJson entries)
  | .tables items => .array (listToJson items)

def entriesToJson : List (String × TomlItem) → List (String × Json)
  | [] => []
  | (key, item) :: rest => (key, toJson item) :: entriesToJson rest

def listToJson : List TomlItem → List Json
  | [] => []
  | item :: rest => toJson item :: listToJson rest

end

/-- Applies a change to the entries of the table that an item is or ends with. -/
def grow? (change : TomlTable → Option TomlTable) : TomlItem → Option TomlItem
  | .table origin entries => (change entries).map (.table origin)
  | .tables items =>
    match items.getLast? with
    | some (.table origin entries) =>
      (change entries).map fun entries => .tables (items.dropLast ++ [.table origin entries])
    | _ => none
  | .value _ => none

end TomlItem

namespace TomlTable

/-- Gives the entry of a key a new item in its place; a new key comes last. -/
def update? (key : String) (change : Option TomlItem → Option TomlItem) :
    TomlTable → Option TomlTable
  | [] => (change none).map fun item => [(key, item)]
  | (k, item) :: rest =>
    if k = key then (change (some item)).map fun item => (k, item) :: rest
    else (update? key change rest).map ((k, item) :: ·)

/-- Gives a key with points its value. No key gets two values, and a table that has a header cannot
be reached by points. -/
def assign? (content : Json) : List String → TomlTable → Option TomlTable
  | [], _ => none
  | [key], entries =>
    update? key (fun item => if item.isSome then none else some (.value content)) entries
  | key :: path, entries =>
    update? key
      (fun item => match item with
        | none => (assign? content path []).map (.table .dotted)
        | some (.table .header _) => none
        | some (.table origin inner) => (assign? content path inner).map (.table origin)
        | some _ => none)
      entries

/-- Applies a change to the table that a header opened. -/
def within? (change : TomlTable → Option TomlTable) :
    List String → TomlTable → Option TomlTable
  | [], entries => change entries
  | key :: path, entries =>
    update? key (fun item => item.bind (TomlItem.grow? (within? change path))) entries

/-- The item that a header gives the last part of its key: a table that had none so far, or one more
of a list of tables. -/
def opened? (listed : Bool) : Option TomlItem → Option TomlItem
  | none =>
    some (if listed then .tables [.table .header []] else .table .header [])
  | some (.table .implied entries) => if listed then none else some (.table .header entries)
  | some (.tables items) => if listed then some (.tables (items ++ [.table .header []])) else none
  | some _ => none

/-- Opens the table of a header. -/
def open? (listed : Bool) : List String → TomlTable → Option TomlTable
  | [], _ => none
  | [key], entries => update? key (opened? listed) entries
  | key :: path, entries =>
    update? key
      (fun item => match item with
        | none => (open? listed path []).map (.table .implied)
        | some item => item.grow? (open? listed path))
      entries

/-- The table with the given values under keys with points. -/
def ofMembers? (members : List (List String × Json)) : Option TomlTable :=
  members.foldlM (fun table (path, content) => assign? content path table) []

end TomlTable

namespace TomlTree

mutual

/-- The value of a tree: a string, an integer, an array or a table. Other values have no place in
settings and are refused. -/
def value? : TomlTree → Option Json
  | .token (.string s) => some (.string s)
  | .token (.block s) => some (.string s)
  | .token (.bare word) => (integer? word).map fun n => .number (.integer n)
  | .token _ => none
  | .bracket items => (elements? items).map .array
  | .brace items => do
    let table ← TomlTable.ofMembers? (← members? items)
    some (.object (TomlItem.entriesToJson table))

/-- The elements of an array. -/
def elements? : List TomlTree → Option (List Json)
  | [] => some []
  | .token .lineEnd :: rest => elements? rest
  | tree :: rest => do
    let element ← value? tree
    let others ← moreElements? rest
    some (element :: others)

/-- A comma and the elements behind it, or nothing more. -/
def moreElements? : List TomlTree → Option (List Json)
  | [] => some []
  | .token .lineEnd :: rest => moreElements? rest
  | .token .comma :: rest => elements? rest
  | _ => none

/-- The members of a table, by their keys. -/
def members? : List TomlTree → Option (List (List String × Json))
  | [] => some []
  | .token .lineEnd :: rest => members? rest
  | .token part :: rest => (keyPart? part).bind fun p => memberBehind? [p] rest
  | _ => none

/-- The rest of a member behind the parts of its key, and the members after it. -/
def memberBehind? (path : List String) : List TomlTree → Option (List (List String × Json))
  | .token .dot :: .token part :: rest =>
    (keyPart? part).bind fun p => memberBehind? (path ++ [p]) rest
  | .token .equals :: tree :: rest => do
    let content ← value? tree
    let others ← moreMembers? rest
    some ((path, content) :: others)
  | _ => none

/-- A comma and the members behind it, or nothing more. -/
def moreMembers? : List TomlTree → Option (List (List String × Json))
  | [] => some []
  | .token .lineEnd :: rest => moreMembers? rest
  | .token .comma :: rest => members? rest
  | _ => none

end

end TomlTree

/-- A document that is being read: its tables, and the header that the next lines belong to. -/
structure TomlDocument where
  root : TomlTable := []
  header : List String := []

namespace TomlDocument

/-- Takes in one line: nothing, a header, or a value under its key. -/
def addLine? (document : TomlDocument) (line : List TomlTree) : Option TomlDocument :=
  match line with
  | [] => some document
  | [.bracket [.bracket key]] => enter? true key
  | [.bracket key] => enter? false key
  | line => do
    if line.any TomlTree.isComma then none
    let members ← TomlTree.members? line
    let root ← members.foldlM
      (fun root (path, content) => root.within? (TomlTable.assign? content path) document.header)
      document.root
    some { document with root }
where
  enter? (listed : Bool) (key : List TomlTree) : Option TomlDocument := do
    let path ← TomlTree.keyPath? key
    let root ← document.root.open? listed path
    some ⟨root, path⟩

/-- The members of a document. -/
def read? (text : String) : Option (List (String × Json)) := do
  let trees ← TomlTree.nest? [] [] (TomlToken.ofText text)
  let document ← (TomlTree.lines trees).foldlM addLine? {}
  some (TomlItem.entriesToJson document.root)

end TomlDocument

end Criteria
