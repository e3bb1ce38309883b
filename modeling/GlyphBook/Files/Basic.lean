import GlyphBook.Bytes

/-!
# Files

The program only asks of a file system what stands at a path: a directory, a file with its bytes, a
file that does not give them out, or a reason why nothing can be reached. A file system is that
function, so that statements about the program hold for every one.
-/

namespace GlyphBook

/-- Why a path cannot be read. -/
inductive FileError where
  | notFound
  | notDirectory
  | isDirectory
  | nameTooLong
  | zeroInName
  | other (text : String)
  deriving Repr, DecidableEq

def FileError.message : FileError → String
  | .notFound => "No such file or directory (os error 2)"
  | .notDirectory => "Not a directory (os error 20)"
  | .isDirectory => "Is a directory (os error 21)"
  | .nameTooLong => "File name too long (os error 36)"
  | .zeroInName => "file name contained an unexpected NUL byte"
  | .other text => text

/-- What stands at a path; the bytes of a file that is locked cannot be had, for a reason. -/
inductive Node where
  | directory
  | file (content : Bytes)
  | locked (reason : String)
  deriving Repr, DecidableEq

/-- A file system, by what it holds at each path. -/
structure Files where
  lookup : String → Except FileError Node

namespace Files

/-- The file system that holds what was found at some paths; nothing is anywhere else. -/
def ofList (found : List (String × Except FileError Node)) : Files :=
  ⟨fun path => (found.lookup path).getD (.error .notFound)⟩

def isDirectory (files : Files) (path : String) : Bool :=
  match files.lookup path with
  | .ok .directory => true
  | _ => false

def isFile (files : Files) (path : String) : Bool :=
  match files.lookup path with
  | .ok (.file _) => true
  | .ok (.locked _) => true
  | _ => false

/-- The bytes of a file; a directory has none. -/
def read (files : Files) (path : String) : Except FileError Bytes :=
  match files.lookup path with
  | .ok (.file content) => .ok content
  | .ok (.locked reason) => .error (.other reason)
  | .ok .directory => .error .isDirectory
  | .error e => .error e

end Files

end GlyphBook
