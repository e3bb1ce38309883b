/-!
# Blanks, comments and line ends in TOML

The parts of the text that carry no data. A line ends with a line feed, which a carriage return
may precede; a carriage return alone is no blank.
-/

namespace GlyphBook

namespace Toml

def isBlank (c : Char) : Bool := c = ' ' || c = '\t'

def skipBlanks (cs : List Char) : List Char := cs.dropWhile isBlank

/-- Characters that may stand in a comment: no control characters but the tab. -/
def isCommentChar (c : Char) : Bool :=
  c = '\t' || (0x20 ≤ c.toNat && c.toNat ≠ 0x7F)

/-- The text after a line end. -/
def afterNewline? : List Char → Option (List Char)
  | '\n' :: rest => some rest
  | '\r' :: '\n' :: rest => some rest
  | _ => none

/-- The text after a line end, or the end of the text. -/
def afterLine? : List Char → Option (List Char)
  | [] => some []
  | cs => afterNewline? cs

/-- The text after a comment, if there is one here. -/
def skipComment : List Char → List Char
  | '#' :: rest => rest.dropWhile isCommentChar
  | cs => cs

/-- What may stand behind a statement: blanks, a comment and the line end. -/
def finishLine? (cs : List Char) : Option (List Char) :=
  afterLine? (skipComment (skipBlanks cs))

/-- Skips blanks, line ends and comments between the elements of a list. A comment there has to be
followed by a line end. -/
def skipVoid? (inComment : Bool) : List Char → Option (List Char)
  | [] => if inComment then none else some []
  | '\n' :: rest => skipVoid? false rest
  | '\r' :: '\n' :: rest => skipVoid? false rest
  | c :: rest =>
    if inComment then
      if isCommentChar c then skipVoid? true rest else none
    else if isBlank c then skipVoid? false rest
    else if c = '#' then skipVoid? true rest
    else some (c :: rest)

end Toml

end GlyphBook
