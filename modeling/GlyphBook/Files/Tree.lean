import GlyphBook.Files.Basic

/-!
# A file system in memory

Files and directories by their names from the root down. A path is walked one name at a time: each
name is looked up in the directory reached so far, `..` leads back to the directory above, and a
name behind something that is not a directory fails there.
-/

namespace GlyphBook

/-- The files and directories that were put in, with their names from the root down. The
directories on the way to each are there too. -/
structure Tree where
  nodes : List (List String × Node)

namespace Tree

/-- The longest name, in bytes, that a directory can hold. -/
def nameLimit : Nat := 255

/-- The first length, in bytes, that no path can have. -/
def pathLimit : Nat := 4096

/-- The names in a path. Empty names and `.` stand for the directory reached so far. -/
def names (path : String) : List String :=
  (path.splitOn "/").filter fun name => name ≠ "" && name ≠ "."

/-- What stands under the names `at` from the root down. -/
def node? (tree : Tree) (names : List String) : Option Node :=
  match tree.nodes.find? fun (n, _) => n == names with
  | some (_, node) => some node
  | none =>
    if names.isEmpty || tree.nodes.any (fun (n, _) => names.isPrefixOf n) then some .directory
    else none

/-- Walks on from the directory `here` by the names of a path. -/
def walk (tree : Tree) (here : List String) : List String → Except FileError (List String × Node)
  | [] =>
    match tree.node? here with
    | some node => .ok (here, node)
    | none => .error .notFound
  | name :: rest =>
    match tree.node? here with
    | none => .error .notFound
    | some (.file _) => .error .notDirectory
    | some (.locked _) => .error .notDirectory
    | some .directory =>
      if name = "" ∨ name = "." then walk tree here rest
      else if name = ".." then walk tree here.dropLast rest
      else if nameLimit < name.utf8ByteSize then .error .nameTooLong
      else walk tree (here ++ [name]) rest

/-- What stands at a path. One that starts with a slash is walked from the root, any other from
the working directory; a slash at the end asks for a directory. -/
def lookup (tree : Tree) (workingDirectory : List String) (path : String) :
    Except FileError Node :=
  if path.toList.contains '\x00' then .error .zeroInName
  else if path = "" then .error .notFound
  else if pathLimit ≤ path.utf8ByteSize then .error .nameTooLong
  else
    let start := if path.toList.head? = some '/' then [] else workingDirectory
    (tree.walk start (path.splitOn "/")).map Prod.snd

/-- The file system that a program sees in a working directory. -/
def files (tree : Tree) (workingDirectory : List String) : Files :=
  ⟨tree.lookup workingDirectory⟩

end Tree

end GlyphBook
