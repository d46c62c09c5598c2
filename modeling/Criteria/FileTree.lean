import Criteria.Files

namespace Criteria

/-- Files under the names that lead to them from one directory. A name on the way to a file is a
directory. -/
structure FileTree where
  files : List (List String × ByteArray)

namespace FileTree

inductive Entry where
  | file (content : ByteArray)
  | directory

/-- What stands under a name. -/
def entry? (tree : FileTree) (place : List String) : Option Entry :=
  match tree.files.find? fun file => file.1 = place with
  | some (_, content) => some (.file content)
  | none =>
    if place = [] ∨ tree.files.any fun file => place.isPrefixOf file.1 then some .directory
    else none

/-- Follows the parts of a path from a directory; empty parts and single points stay where they are,
two points lead back. -/
def follow (tree : FileTree) (place : List String) : List String → Except ReadError Entry
  | [] =>
    match tree.entry? place with
    | some entry => pure entry
    | none => throw .notFound
  | part :: rest =>
    match tree.entry? place with
    | none => throw .notFound
    | some (.file _) => throw .notDirectory
    | some .directory =>
      if part = "" ∨ part = "." then follow tree place rest
      else if part = ".." then follow tree place.dropLast rest
      else follow tree (place ++ [part]) rest

/-- The parts of a path between slashes. -/
def parts (path : String) : List String := (path.toList.splitOn '/').map String.ofList

def find (tree : FileTree) (path : String) : Except ReadError Entry :=
  if path = "" then throw .notFound
  else tree.follow [] (parts path)

/-- The text of a file. -/
def readText (tree : FileTree) (path : String) : Except ReadError String := do
  match ← tree.find path with
  | .directory => throw .isDirectory
  | .file content => decodeText content

end FileTree

/-- A surrounding of files in memory and one text as standard input. -/
def Surroundings.ofFileTree (tree : FileTree) (input : ByteArray) : Surroundings Id :=
  ⟨tree.readText, decodeText input⟩

end Criteria
