/-!
# Comparing words without regard to case

Two words are the same without regard to case when their full case foldings agree. The words that
this library compares against are in ASCII, so it is enough to know which characters fold to ASCII:
the capitals, the Kelvin sign, the long s, the sharp s in its three forms, and the ligatures of
Latin letters. Every other character keeps a word from being one of them.
-/

namespace GlyphBook

namespace CaseFold

/-- The folding of a character, where it is in ASCII or where it is the character itself. -/
def fold (c : Char) : List Char :=
  if 'A' ≤ c ∧ c ≤ 'Z' then [Char.ofNat (c.toNat + 32)]
  else if c = '\u212a' then ['k']
  else if c = '\u017f' then ['s']
  else if c = '\u00df' ∨ c = '\u1e9e' ∨ c = Char.ofNat 0x1DF95 then ['s', 's']
  else if c = '\ufb00' then ['f', 'f']
  else if c = '\ufb01' then ['f', 'i']
  else if c = '\ufb02' then ['f', 'l']
  else if c = '\ufb03' then ['f', 'f', 'i']
  else if c = '\ufb04' then ['f', 'f', 'l']
  else if c = '\ufb05' ∨ c = '\ufb06' then ['s', 't']
  else [c]

/-- The folding of a word. -/
def foldWord (word : String) : String := String.ofList (word.toList.flatMap fold)

end CaseFold

end GlyphBook
