import GlyphBook.Terminal.Screen
import GlyphBook.Text.Cluster
import GlyphBook.Text.Measure

/-!
# Panels

A panel is a rectangle with a line drawn along its edge and a title set into the upper line. The
title starts behind the left corner and ends before the right one; what is behind a cluster that
does not fit is left out. The lines of a title follow each other without a break.
-/

namespace GlyphBook

namespace Panel

/-! ## Titles -/

/-- The lines of a text. A line ends with a line feed, perhaps behind a carriage return. -/
def lines : List Char → List (List Char)
  | [] => []
  | '\n' :: cs => [] :: lines cs
  | '\r' :: '\n' :: cs => [] :: lines cs
  | c :: cs =>
    match cs, lines cs with
    | [], _ => [[c]]
    | _, line :: later => (c :: line) :: later
    | _, [] => [[c]]

/-- What the cells of a line show, as far as its clusters fit into `room` of them, behind what is
added to the cell before them. A cluster that takes several cells is shown in the first; one that
takes none is added to the cell before it. -/
def symbols (room : Nat) : List (List Char) → String × List String
  | [] => ("", [])
  | cluster :: clusters =>
    let width := Measure.cells cluster
    let symbol := String.ofList cluster
    if room < width then ("", [])
    else
      let (added, later) := symbols (room - width) clusters
      match width with
      | 0 => (symbol ++ added, later)
      | 1 => ("", (symbol ++ added) :: later)
      | n + 2 => ("", symbol :: List.replicate n " " ++ (" " ++ added) :: later)

/-- The cells of a line. What takes no cell at its beginning is added to the first cell. -/
def lineCells (room : Nat) (line : List Char) : List Cell :=
  let (added, cells) := symbols room (Cluster.ofText line)
  let symbols :=
    match cells with
    | [] => if added = "" then [] else [added]
    | first :: rest => (added ++ first) :: rest
  symbols.map fun symbol => { Cell.blank with symbol := symbol }

/-- Lines that follow each other in one row of the given width, from column `start` of it on. A line
that takes no cells is not drawn, and a line is drawn over what the one before it left behind its
own end. -/
def runOn (row : Rect) : Nat → List (List Char) → Painting
  | _, [] => Painting.empty
  | start, line :: later =>
    let width := Measure.cells line
    let rest : Rect := ⟨row.x + start, row.y, row.width - start, row.height⟩
    let drawn :=
      if width = 0 then Painting.empty else Painting.rows rest [lineCells rest.width line]
    (runOn row (start + width) later).onto drawn

/-! ## Borders -/

/-- The character of the border in a column and a row. Where corners fall together the left and
the upper one is drawn. -/
def border? (area : Rect) (x y : Nat) : Option Char :=
  let left := x = area.x
  let right := x + 1 = area.x + area.width
  let top := y = area.y
  let bottom := y + 1 = area.y + area.height
  if ¬ area.Contains x y then none
  else if left ∧ top then some '┌'
  else if left ∧ bottom then some '└'
  else if right ∧ top then some '┐'
  else if right ∧ bottom then some '┘'
  else if top ∨ bottom then some '─'
  else if left ∨ right then some '│'
  else none

/-- The border stays in its rectangle. -/
theorem border?_of_not_contains {area : Rect} {x y : Nat} (h : ¬ area.Contains x y) :
    border? area x y = none := if_pos h

def border (area : Rect) : Painting :=
  ⟨fun x y => (border? area x y).map (Cell.ofChar {})⟩

/-- The cells that a title takes, counted in 16 bits as columns are. -/
def titleWidth (title : List (List Char)) : Nat :=
  (title.map Measure.cells).foldl (· + ·) 0 % (Rect.farthest + 1)

/-- The row in which a title stands: it is as wide as the title, if there is room between the
corners. -/
def titleRow (area : Rect) (title : List (List Char)) : Rect :=
  ⟨area.x + 1, area.y, min (titleWidth title) (area.width - 2), min 1 area.height⟩

/-- A panel with a title. -/
def painting (title : String) (area : Rect) : Painting :=
  let title := lines title.toList
  (runOn (titleRow area title) 0 title).onto (border area)

end Panel

end GlyphBook
