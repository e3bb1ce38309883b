import GlyphBook.Terminal.Screen

/-!
# The panes of the picker

The picker divides its area into a list on the left, a preview on the right and one line of help
below both. The panes of an area that ends at the last column and row or before tile it: every cell
belongs to exactly one of them.
-/

namespace GlyphBook

/-- Where the three parts of the picker are drawn. -/
structure Panes where
  list : Rect
  preview : Rect
  help : Rect
  deriving Repr, DecidableEq

namespace Panes

/-- The width of the list: two fifths, to the nearest whole cell. -/
def listWidth (width : Nat) : Nat := (4 * width + 5) / 10

theorem listWidth_le (width : Nat) : listWidth width ≤ width := by
  unfold listWidth
  omega

/-- The help takes the last row, unless it would be the only one. -/
def helpHeight (height : Nat) : Nat := if 2 ≤ height then 1 else 0

theorem helpHeight_le (height : Nat) : helpHeight height ≤ height := by
  unfold helpHeight
  split <;> omega

/-- The panes of an area. Where the area goes past the last column or row there is, only what is
left of it is shared out; the help keeps the full width. -/
def ofArea (area : Rect) : Panes :=
  let width := area.reach.width
  let height := area.reach.height
  let upper := height - helpHeight height
  { list := ⟨area.x, area.y, listWidth width, upper⟩
    preview := ⟨area.x + listWidth width, area.y, width - listWidth width, upper⟩
    help := ⟨area.x, area.y + upper, area.width, helpHeight height⟩ }

end Panes

end GlyphBook
