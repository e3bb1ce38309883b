import GlyphBook.Toml.Value

/-!
# Pointing at a place in a text

An error about a document quotes the line in which the offending token starts and marks the token
under it. Lines and columns are counted from one, columns in characters; the marks are as many as
the token has bytes, as far as the line goes, and at least one.
-/

namespace GlyphBook

namespace Toml

/-- The bytes that text takes when it is stored. -/
def byteCount (cs : List Char) : Nat := (String.ofList cs).utf8ByteSize

/-- A place in a text: how many lines and how many characters of its own line come before it, its
line, and the bytes of the token there. -/
structure Sight where
  line : Nat
  column : Nat
  text : List Char
  bytes : Nat
  deriving Repr, DecidableEq

/-- Looks up the place of an extent. -/
def sight (source : List Char) (extent : Extent) : Sight :=
  let before := source.take (source.length - extent.start)
  let token := (source.drop (source.length - extent.start)).take (extent.start - extent.stop)
  let head := (before.reverse.takeWhile (· ≠ '\n')).reverse
  let tail := (source.drop (source.length - extent.start)).takeWhile (· ≠ '\n')
  { line := before.count '\n'
    column := head.length
    text := head ++ tail
    bytes := byteCount token }

/-- How many marks stand under the token. -/
def Sight.marks (s : Sight) : Nat :=
  max 1 (min s.bytes (byteCount s.text - s.column))

/-- The error with the quoted line; it ends with a line end of its own. -/
def Sight.report (s : Sight) (message : String) : String :=
  let number := toString (s.line + 1)
  let gutter := String.ofList (List.replicate number.length ' ') ++ " |"
  "TOML parse error at line " ++ number ++ ", column " ++ toString (s.column + 1) ++ "\n"
    ++ gutter ++ "\n"
    ++ number ++ " | " ++ String.ofList s.text ++ "\n"
    ++ gutter ++ " " ++ String.ofList (List.replicate s.column ' ')
    ++ String.ofList (List.replicate s.marks '^') ++ "\n"
    ++ message ++ "\n"

end Toml

end GlyphBook
