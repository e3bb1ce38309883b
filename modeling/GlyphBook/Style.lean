/-!
# Colours and text styles

What a terminal cell can show besides its symbol: one foreground colour, and bold or reversed
print.
-/

namespace GlyphBook

/-- The named foreground colours of a terminal; `reset` is the terminal's own. -/
inductive Color where
  | reset
  | black
  | red
  | green
  | yellow
  | blue
  | magenta
  | cyan
  | gray
  | darkGray
  | lightRed
  | lightGreen
  | lightYellow
  | lightBlue
  | lightMagenta
  | lightCyan
  | white
  deriving Repr, DecidableEq

namespace Color

def all : List Color :=
  [.reset, .black, .red, .green, .yellow, .blue, .magenta, .cyan, .gray, .darkGray, .lightRed,
    .lightGreen, .lightYellow, .lightBlue, .lightMagenta, .lightCyan, .white]

def name : Color → String
  | .reset => "Reset"
  | .black => "Black"
  | .red => "Red"
  | .green => "Green"
  | .yellow => "Yellow"
  | .blue => "Blue"
  | .magenta => "Magenta"
  | .cyan => "Cyan"
  | .gray => "Gray"
  | .darkGray => "DarkGray"
  | .lightRed => "LightRed"
  | .lightGreen => "LightGreen"
  | .lightYellow => "LightYellow"
  | .lightBlue => "LightBlue"
  | .lightMagenta => "LightMagenta"
  | .lightCyan => "LightCyan"
  | .white => "White"

def ofName? (name : String) : Option Color := all.find? fun c => c.name == name

end Color

/-- How a run of text differs from its surroundings; no colour means theirs. -/
structure Style where
  color? : Option Color := none
  bold : Bool := false
  deriving Repr, DecidableEq

/-- A run of text in one style. -/
structure Span where
  text : String
  style : Style := {}
  deriving Repr, DecidableEq

end GlyphBook
