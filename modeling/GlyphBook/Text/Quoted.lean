import GlyphBook.Text.Printable

/-!
# Quoted text

Text between double quotes, with everything that could mislead a reader spelled as an escape. It
is the form in which error messages show a string and in which a registry shows its entries.
-/

namespace GlyphBook

namespace Quoted

/-- The digits of `n` in base sixteen, lower case and without leading zeros. -/
def hex (n : Nat) : List Char := Nat.toDigits 16 n

/-- One character inside the quotes. -/
def escape (c : Char) : List Char :=
  if c = '\x00' then ['\\', '0']
  else if c = '\t' then ['\\', 't']
  else if c = '\n' then ['\\', 'n']
  else if c = '\r' then ['\\', 'r']
  else if c = '"' then ['\\', '"']
  else if c = '\\' then ['\\', '\\']
  else if Printable.isPrintable c then [c]
  else ['\\', 'u', '\x7b'] ++ hex c.toNat ++ ['\x7d']

end Quoted

/-- `text` between double quotes. -/
def quoted (text : String) : String :=
  String.ofList ('"' :: text.toList.flatMap Quoted.escape ++ ['"'])

end GlyphBook
