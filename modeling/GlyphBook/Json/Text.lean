import GlyphBook.Text.Hex

/-!
# JSON strings

The writer escapes the quote, the backslash and the control characters and nothing else. The
reader takes the text after an opening quote; it decodes every escape before anybody looks at the
string, and it refuses what JSON refuses: raw control characters, unknown escapes and half of a
surrogate pair.
-/

namespace GlyphBook

namespace Json

/-! ## Writing -/

/-- The two low digits of a control character in base sixteen. -/
def controlDigits (n : Nat) : List Char :=
  [Nat.digitChar (n / 16), Nat.digitChar (n % 16)]

/-- One character inside the quotes. -/
def escape (c : Char) : List Char :=
  if c = '"' then ['\\', '"']
  else if c = '\\' then ['\\', '\\']
  else if c = '\x08' then ['\\', 'b']
  else if c = '\x0c' then ['\\', 'f']
  else if c = '\n' then ['\\', 'n']
  else if c = '\r' then ['\\', 'r']
  else if c = '\t' then ['\\', 't']
  else if c.toNat < 0x20 then ['\\', 'u', '0', '0'] ++ controlDigits c.toNat
  else [c]

def escapeAll (cs : List Char) : List Char := cs.flatMap escape

/-- The string as JSON. -/
def writeText (text : String) : List Char := '"' :: escapeAll text.toList ++ ['"']

/-! ## Reading -/

def isHighSurrogate (n : Nat) : Bool := 0xD800 ≤ n && n ≤ 0xDBFF

def isLowSurrogate (n : Nat) : Bool := 0xDC00 ≤ n && n ≤ 0xDFFF

/-- The character of a surrogate pair. -/
def joinSurrogates (high low : Nat) : Char :=
  Char.ofNat (0x10000 + (high - 0xD800) * 0x400 + (low - 0xDC00))

/-- The character that stands after a backslash, where it is not a code unit. -/
def shortEscape? : Char → Option Char
  | '"' => some '"'
  | '\\' => some '\\'
  | '/' => some '/'
  | 'b' => some '\x08'
  | 'f' => some '\x0c'
  | 'n' => some '\n'
  | 'r' => some '\r'
  | 't' => some '\t'
  | _ => none

/-- A string before its code units are joined: a character that stands for itself or after a
backslash, or a unit written as four digits. -/
inductive Piece where
  | plain (c : Char)
  | unit (n : Nat)
  deriving Repr, DecidableEq

/-- The pieces up to the closing quote, and what follows the quote. -/
def scanText? : List Char → Option (List Piece × List Char)
  | [] => none
  | '"' :: rest => some ([], rest)
  | '\\' :: 'u' :: a :: b :: c :: d :: rest => do
    let n ← Hex.number? [a, b, c, d]
    let (pieces, after) ← scanText? rest
    return (.unit n :: pieces, after)
  | '\\' :: c :: rest => do
    let c ← shortEscape? c
    let (pieces, after) ← scanText? rest
    return (.plain c :: pieces, after)
  | c :: rest =>
    if c = '\\' ∨ c.toNat < 0x20 then none
    else do
      let (pieces, after) ← scanText? rest
      return (.plain c :: pieces, after)

/-- Joins each pair of surrogates; a half without its other half is no text. -/
def joinPieces? : List Piece → Option (List Char)
  | [] => some []
  | .plain c :: rest => (joinPieces? rest).map (c :: ·)
  | .unit n :: .unit m :: rest =>
    if isHighSurrogate n then
      if isLowSurrogate m then (joinPieces? rest).map (joinSurrogates n m :: ·) else none
    else if isLowSurrogate n then none
    else (joinPieces? (.unit m :: rest)).map (Char.ofNat n :: ·)
  | .unit n :: rest =>
    if isHighSurrogate n || isLowSurrogate n then none
    else (joinPieces? rest).map (Char.ofNat n :: ·)

/-- The text up to the closing quote, decoded, and what follows the quote. -/
def readText? (cs : List Char) : Option (List Char × List Char) := do
  let (pieces, after) ← scanText? cs
  let text ← joinPieces? pieces
  return (text, after)

end Json

end GlyphBook
