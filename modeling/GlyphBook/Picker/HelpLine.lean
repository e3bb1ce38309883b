import GlyphBook.Terminal.Screen

/-!
# The line of help

The keys of the picker with what they do, on one line.
-/

namespace GlyphBook

namespace HelpLine

/-- The keys, and what they do. -/
def bindings : List (String × String) :=
  [("↑/↓", "move"), ("Home/End", "jump"), ("Enter", "select"), ("q", "quit")]

/-- The line in its styles: keys are coloured. -/
def spans : List Span :=
  bindings.flatMap fun (key, action) =>
    [⟨" " ++ key ++ " ", { color? := some .cyan }⟩, ⟨action ++ " ", {}⟩]

/-- The line in the upper row of an area. -/
def painting (area : Rect) : Painting :=
  Painting.rows area [spans.flatMap Span.cells]

end HelpLine

end GlyphBook
