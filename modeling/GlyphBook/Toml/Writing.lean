import GlyphBook.Toml.Text

/-!
# Writing TOML strings

Any text can be written between double quotes: a quote and a backslash are escaped, and a character
that may not stand there is given by its code point in eight digits.
-/

namespace GlyphBook

namespace Toml

/-- The last `count` digits of `n` in base sixteen. -/
def hexDigits : Nat → Nat → List Char
  | 0, _ => []
  | count + 1, n => hexDigits count (n / 16) ++ [Nat.digitChar (n % 16)]

/-- One character between double quotes. -/
def writeChar (c : Char) : List Char :=
  if c = '"' then ['\\', '"']
  else if c = '\\' then ['\\', '\\']
  else if isTextChar c then [c]
  else '\\' :: 'U' :: hexDigits 8 c.toNat

/-- The text between double quotes. -/
def writeText (text : String) : List Char := '"' :: text.toList.flatMap writeChar ++ ['"']

end Toml

end GlyphBook
