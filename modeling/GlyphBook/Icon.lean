import GlyphBook.Style

/-!
# Icons

An icon is the text that draws it, usually one private-use character of a symbol font. The
callers of a registry only see that text, its code point and styled runs of it.
-/

namespace GlyphBook

/-- A glyph that can be drawn. -/
structure Icon where
  glyph : String
  deriving Repr, DecidableEq

namespace Icon

/-- The code point of the first character; zero when there is none. -/
def codepoint (icon : Icon) : Nat :=
  match icon.glyph.toList with
  | [] => 0
  | c :: _ => c.toNat

/-- The glyph as a run of text in `style`. -/
def span (icon : Icon) (style : Style) : Span := ⟨icon.glyph, style⟩

/-- The code point as it is written for people: `U+` and at least four upper-case digits in base
sixteen. -/
def codepointLabel (icon : Icon) : String :=
  let digits := (Nat.toDigits 16 icon.codepoint).map Char.toUpper
  "U+" ++ String.ofList (List.replicate (4 - digits.length) '0' ++ digits)

end Icon

end GlyphBook
