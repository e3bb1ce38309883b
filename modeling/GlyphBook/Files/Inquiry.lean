import GlyphBook.Files.Basic

/-!
# Inquiries

A computation that knows of a file system only what it asks: whether there is a file at a path, and
what bytes the file has. Which questions were asked is then as much part of what it does as its
result is.
-/

namespace GlyphBook

/-- What can be asked of a file system. -/
inductive Question where
  | isFile (path : String)
  | read (path : String)
  deriving Repr, DecidableEq

/-- A computation that asks one question after the other; each may depend on the answers before
it. -/
inductive Inquiry (α : Type) where
  | done (a : α)
  | isFile (path : String) (next : Bool → Inquiry α)
  | read (path : String) (next : Except FileError Bytes → Inquiry α)

namespace Inquiry

variable {α : Type}

def result (files : Files) : Inquiry α → α
  | done a => a
  | isFile path next => (next (files.isFile path)).result files
  | read path next => (next (files.read path)).result files

/-- The questions, in the order in which they are asked. -/
def asked (files : Files) : Inquiry α → List Question
  | done _ => []
  | isFile path next => .isFile path :: (next (files.isFile path)).asked files
  | read path next => .read path :: (next (files.read path)).asked files

end Inquiry

end GlyphBook
