import GlyphBook.Text.Hex

/-!
# TOML strings

Four spellings: in double quotes with escapes, in single quotes without, and both over several
lines in triple quotes. Each reader takes the text behind the opening quotes and gives the string
with the text behind the closing ones.
-/

namespace GlyphBook

namespace Toml

/-- Characters that stand for themselves inside quotes, apart from the quotes and the backslash:
no control characters but the tab. -/
def isTextChar (c : Char) : Bool :=
  c = '\t' || (0x20 ≤ c.toNat && c.toNat ≠ 0x7F)

/-! ## Escapes -/

/-- The character that stands after a backslash, where it is not a code point. -/
def shortEscape? : Char → Option Char
  | 'b' => some '\x08'
  | 't' => some '\t'
  | 'n' => some '\n'
  | 'f' => some '\x0c'
  | 'r' => some '\r'
  | '"' => some '"'
  | '\\' => some '\\'
  | _ => none

/-- The character with the code point written in `digits`; surrogates and numbers past the last
code point are no characters. -/
def codePoint? (digits : List Char) : Option Char :=
  (Hex.number? digits).bind fun n => if n.isValidChar then some (Char.ofNat n) else none

/-- Puts a character in front of what a reader gives. -/
def push (c : Char) (read : Option (List Char × List Char)) : Option (List Char × List Char) :=
  read.map fun (text, after) => (c :: text, after)

/-! ## On one line -/

/-- The string up to the closing double quote. -/
def readBasic? : List Char → Option (List Char × List Char)
  | [] => none
  | '"' :: rest => some ([], rest)
  | '\\' :: 'u' :: a :: b :: c :: d :: rest =>
    (codePoint? [a, b, c, d]).bind fun x => push x (readBasic? rest)
  | '\\' :: 'U' :: a :: b :: c :: d :: e :: f :: g :: h :: rest =>
    (codePoint? [a, b, c, d, e, f, g, h]).bind fun x => push x (readBasic? rest)
  | '\\' :: c :: rest => (shortEscape? c).bind fun x => push x (readBasic? rest)
  | c :: rest => if isTextChar c ∧ c ≠ '\\' then push c (readBasic? rest) else none

/-- The string up to the closing single quote. -/
def readLiteral? : List Char → Option (List Char × List Char)
  | [] => none
  | c :: rest =>
    if c = '\x27' then some ([], rest)
    else if isTextChar c then push c (readLiteral? rest)
    else none

/-! ## Over several lines -/

/-- The line end right behind opening triple quotes does not belong to the string. -/
def dropFirstNewline : List Char → List Char
  | '\n' :: rest => rest
  | '\r' :: '\n' :: rest => rest
  | cs => cs

/-- Triple quotes have been met; up to two more of them still belong to the string. -/
def closeTriple (quote : Char) : List Char → List Char × List Char
  | a :: b :: rest =>
    if a = quote then
      if b = quote then ([quote, quote], rest) else ([quote], b :: rest)
    else ([], a :: b :: rest)
  | a :: rest => if a = quote then ([quote], rest) else ([], a :: rest)
  | [] => ([], [])

/-- What a backslash at the end of a line does to the text behind it. -/
inductive Fold where
  /-- No such backslash is at work. -/
  | off
  /-- The line end has yet to come; only blanks may stand before it. -/
  | sought
  /-- Blanks and line ends are dropped up to the next other character. -/
  | found
  deriving Repr, DecidableEq

/-- The string up to closing triple double quotes. -/
def readBasicLines? (fold : Fold) : List Char → Option (List Char × List Char)
  | [] => none
  | '\n' :: rest =>
    if fold = .off then push '\n' (readBasicLines? .off rest) else readBasicLines? .found rest
  | '\r' :: '\n' :: rest =>
    if fold = .off then push '\n' (readBasicLines? .off rest) else readBasicLines? .found rest
  | '"' :: '"' :: '"' :: rest =>
    if fold = .sought then none else some (closeTriple '"' rest)
  | '\\' :: 'u' :: a :: b :: c :: d :: rest =>
    if fold = .sought then none
    else (codePoint? [a, b, c, d]).bind fun x => push x (readBasicLines? .off rest)
  | '\\' :: 'U' :: a :: b :: c :: d :: e :: f :: g :: h :: rest =>
    if fold = .sought then none
    else (codePoint? [a, b, c, d, e, f, g, h]).bind fun x => push x (readBasicLines? .off rest)
  | '\\' :: '\n' :: rest => if fold = .sought then none else readBasicLines? .found rest
  | '\\' :: '\r' :: '\n' :: rest => if fold = .sought then none else readBasicLines? .found rest
  | '\\' :: c :: rest =>
    if fold = .sought then none
    else match shortEscape? c with
      | some x => push x (readBasicLines? .off rest)
      | none => if c = ' ' ∨ c = '\t' then readBasicLines? .sought rest else none
  | c :: rest =>
    if (c = ' ' ∨ c = '\t') ∧ fold ≠ .off then readBasicLines? fold rest
    else if fold = .sought then none
    else if isTextChar c ∧ c ≠ '\\' then push c (readBasicLines? .off rest)
    else none

/-- The string up to closing triple single quotes. -/
def readLiteralLines? : List Char → Option (List Char × List Char)
  | [] => none
  | '\n' :: rest => push '\n' (readLiteralLines? rest)
  | '\r' :: '\n' :: rest => push '\n' (readLiteralLines? rest)
  | '\x27' :: '\x27' :: '\x27' :: rest => some (closeTriple '\x27' rest)
  | c :: rest => if isTextChar c then push c (readLiteralLines? rest) else none

/-! ## Any spelling -/

/-- A string in any of the four spellings. -/
def readText? : List Char → Option (String × List Char)
  | '"' :: '"' :: '"' :: rest =>
    (readBasicLines? .off (dropFirstNewline rest)).map fun (text, after) =>
      (String.ofList text, after)
  | '"' :: rest => (readBasic? rest).map fun (text, after) => (String.ofList text, after)
  | '\x27' :: '\x27' :: '\x27' :: rest =>
    (readLiteralLines? (dropFirstNewline rest)).map fun (text, after) =>
      (String.ofList text, after)
  | '\x27' :: rest => (readLiteral? rest).map fun (text, after) => (String.ofList text, after)
  | _ => none

end Toml

end GlyphBook
