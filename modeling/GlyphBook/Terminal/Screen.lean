import GlyphBook.Style
import GlyphBook.Text.Measure

/-!
# Terminal screens

A screen is a grid of cells, given by the cell at each column and row. What is drawn on it is a
painting: it says for each place which cell is put there, or that the place is left as it was. So a
painting can be asked where it paints, and laying one painting over another is a choice at each
place.
-/

namespace GlyphBook

/-! ## Cells -/

/-- What one place of a screen shows. A blank cell holds one space. -/
structure Cell where
  symbol : String := " "
  color : Color := .reset
  bold : Bool := false
  reversed : Bool := false
  deriving Repr, DecidableEq

namespace Cell

/-- The blank cell. -/
def blank : Cell := {}

/-- A cell that shows one character in a style. -/
def ofChar (style : Style) (c : Char) : Cell where
  symbol := String.singleton c
  color := style.color?.getD .reset
  bold := style.bold

/-- The cell in reversed print. -/
def reverse (cell : Cell) : Cell := { cell with reversed := true }

/-- Whether the symbol takes more than its own cell. -/
def isWide (cell : Cell) : Bool := 2 ≤ Measure.cells cell.symbol.toList

/-- What a cell shows besides its symbol. -/
def look (cell : Cell) : Color × Bool × Bool := (cell.color, cell.bold, cell.reversed)

end Cell

/-- The cells of a run of text in which each character takes one. -/
def Span.cells (span : Span) : List Cell := span.text.toList.map (Cell.ofChar span.style)

/-! ## Rectangles -/

/-- A rectangle of cells, by its upper left corner and its size. -/
structure Rect where
  x : Nat
  y : Nat
  width : Nat
  height : Nat
  deriving Repr, DecidableEq

namespace Rect

/-- Whether the cell in a column and a row belongs to the rectangle. -/
def Contains (r : Rect) (x y : Nat) : Prop :=
  r.x ≤ x ∧ x < r.x + r.width ∧ r.y ≤ y ∧ y < r.y + r.height

instance (r : Rect) (x y : Nat) : Decidable (r.Contains x y) :=
  inferInstanceAs (Decidable (_ ∧ _))

def isEmpty (r : Rect) : Bool := r.width == 0 || r.height == 0

/-- What is left of the rectangle inside a border of one cell. -/
def inner (r : Rect) : Rect := ⟨r.x + 1, r.y + 1, r.width - 2, r.height - 2⟩

/-- The part of the rectangle inside another. -/
def within (r bounds : Rect) : Rect :=
  let x := max r.x bounds.x
  let y := max r.y bounds.y
  ⟨x, y, min (r.x + r.width) (bounds.x + bounds.width) - x,
    min (r.y + r.height) (bounds.y + bounds.height) - y⟩

/-- The largest column and row there is. -/
def farthest : Nat := 65535

/-- The part of the rectangle that ends at the last column and row at most. -/
def reach (r : Rect) : Rect :=
  ⟨r.x, r.y, min r.width (farthest - r.x), min r.height (farthest - r.y)⟩

end Rect

/-! ## Paintings -/

/-- What is put at each column and row; nothing where the place is left alone. -/
structure Painting where
  cell? : Nat → Nat → Option Cell

namespace Painting

/-- The painting that leaves every place alone. -/
def empty : Painting := ⟨fun _ _ => none⟩

/-- One painting laid over another. -/
def onto (top bottom : Painting) : Painting :=
  ⟨fun x y => (top.cell? x y).or (bottom.cell? x y)⟩

/-- Rows of cells put into a rectangle from its upper left corner on. What does not fit is cut, and
what the rows do not reach is left alone. -/
def rows (area : Rect) (rows : List (List Cell)) : Painting where
  cell? x y :=
    if area.Contains x y then
      (rows[y - area.y]?).bind fun row => row[x - area.x]?
    else none

/-- The painting with a rectangle in reversed print; where nothing is painted in it, blank cells
are. -/
def reversed (area : Rect) (painting : Painting) : Painting where
  cell? x y :=
    if area.Contains x y then some ((painting.cell? x y).getD Cell.blank).reverse
    else painting.cell? x y

@[simp]
theorem cell?_onto (top bottom : Painting) (x y : Nat) :
    (top.onto bottom).cell? x y = (top.cell? x y).or (bottom.cell? x y) := rfl

/-- Rows paint only in their rectangle. -/
theorem cell?_rows_of_not_contains {area : Rect} {x y : Nat} (cells : List (List Cell))
    (h : ¬ area.Contains x y) : (rows area cells).cell? x y = none := if_neg h

end Painting

/-! ## Screens -/

/-- A grid of cells. -/
structure Screen where
  width : Nat
  height : Nat
  cell : Nat → Nat → Cell

/-- A maximal run of neighbouring cells in one row that share a look other than the plain one. -/
structure StyledRun where
  row : Nat
  column : Nat
  length : Nat
  color : Color
  bold : Bool
  reversed : Bool
  deriving Repr, DecidableEq

namespace Screen

def blank (width height : Nat) : Screen := ⟨width, height, fun _ _ => Cell.blank⟩

/-- The rectangle of all cells. -/
def area (screen : Screen) : Rect := ⟨0, 0, screen.width, screen.height⟩

/-- The screen with a painting on it. -/
def draw (screen : Screen) (painting : Painting) : Screen where
  width := screen.width
  height := screen.height
  cell x y := (painting.cell? x y).getD (screen.cell x y)

@[simp]
theorem cell_draw (screen : Screen) (painting : Painting) (x y : Nat) :
    (screen.draw painting).cell x y = (painting.cell? x y).getD (screen.cell x y) := rfl

/-- The cells of a row as they are seen, given whether the symbol in front of them is a wide one. A
wide symbol covers the next cell, which then shows nothing of its own. -/
def uncovered : Bool → List Cell → List Cell
  | _, [] => []
  | covered, cell :: cells =>
    (if covered then Cell.blank else cell) :: uncovered cell.isWide cells

/-- What a row shows, from left to right. -/
def rowCells (screen : Screen) (y : Nat) : List Cell :=
  uncovered false ((List.range screen.width).map fun x => screen.cell x y)

/-- The symbols of every row, from top to bottom. -/
def rowTexts (screen : Screen) : List String :=
  (List.range screen.height).map fun y =>
    String.join ((screen.rowCells y).map Cell.symbol)

/-- The runs of a row that is cut into pieces of one look each, from a column on. -/
def runsOf (row : Nat) : Nat → List (List Cell) → List StyledRun
  | _, [] => []
  | column, piece :: pieces =>
    let later := runsOf row (column + piece.length) pieces
    match piece with
    | [] => later
    | cell :: _ =>
      if cell.look = Cell.blank.look then later
      else ⟨row, column, piece.length, cell.color, cell.bold, cell.reversed⟩ :: later

/-- The styled runs of every row, from left to right and from top to bottom. -/
def styledRuns (screen : Screen) : List StyledRun :=
  (List.range screen.height).flatMap fun y =>
    runsOf y 0 ((screen.rowCells y).splitBy fun a b => a.look == b.look)

end Screen

end GlyphBook
