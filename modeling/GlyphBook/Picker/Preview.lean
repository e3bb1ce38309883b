import GlyphBook.Terminal.Panel
import GlyphBook.Text.Wrap
import GlyphBook.Theme

/-!
# The preview of an icon

A panel with everything that is known about an icon, wrapped at words, and below it the playback
controls as the theme draws them. When there is only one row the details have it.
-/

namespace GlyphBook

namespace Preview

def title : String := "Preview"

/-! ## Details -/

/-- The slots that show an icon, or a dash when none does. -/
def users (theme : Theme) (id : IconId) : String :=
  match theme.slotsUsing id with
  | [] => "-"
  | slots => String.intercalate ", " (slots.map Slot.name)

/-- The lines about an icon, before they are wrapped. -/
def detailLines (theme : Theme) : Option IconId → List Span
  | none => [⟨"No icon selected", {}⟩]
  | some id =>
    let icon := icons.icon id
    [icon.span { bold := true }, ⟨"", {}⟩, ⟨"Name: " ++ icons.name id, {}⟩,
      ⟨"Codepoint: " ++ icon.codepointLabel, {}⟩, ⟨"Used by: " ++ users theme id, {}⟩]

def isBlank (cell : Cell) : Bool := cell.symbol == " "

/-- The rows about an icon. -/
def detailRows (theme : Theme) (id? : Option IconId) (width : Nat) : List (List Cell) :=
  (detailLines theme id?).flatMap fun line => Wrap.rows isBlank Cell.blank width line.cells

/-! ## Controls -/

/-- What stands between two controls. -/
def gap : Span := ⟨"  ", {}⟩

/-- The playback controls, each in its colour. -/
def controlLine (theme : Theme) : List Span :=
  let control (slot : Slot) (color : Color) := (theme.drawn slot).span { color? := some color }
  [control .previous .cyan, gap, control .stop .red, gap, control .play .green, gap,
    control .pause .yellow, gap, control .next .cyan]

/-- The cells that the controls take: five icons and four gaps. -/
def controlsWidth : Nat := 13

/-- How far the controls stand from the left so that they are centred. -/
def controlsIndent (width : Nat) : Nat := width / 2 - controlsWidth / 2

/-! ## Areas -/

/-- The part of the inside of a panel that the details have. -/
def detailArea (area : Rect) : Rect :=
  let room := area.inner
  { room with height := if 2 ≤ room.height then room.height - 1 else room.height }

/-- The row inside a panel that the controls have. -/
def controlRow (area : Rect) : Rect :=
  let room := area.inner
  ⟨room.x, room.y + (room.height - 1), room.width, if 2 ≤ room.height then 1 else 0⟩

/-- The part of a row from where the centred controls start. -/
def centred (row : Rect) : Rect :=
  let indent := controlsIndent row.width
  ⟨row.x + indent, row.y, row.width - indent, row.height⟩

/-- The preview in its panel. Of the panel the part within `bounds` is drawn; the details and the
controls keep their places, however much of their areas is left. -/
def painting (bounds : Rect) (theme : Theme) (id? : Option IconId) (area : Rect) : Painting :=
  let room := detailArea area
  let details := Painting.rows room (detailRows theme id? room.width)
  let controls :=
    Painting.rows (centred (controlRow area)) [(controlLine theme).flatMap Span.cells]
  (details.onto controls).onto (Panel.painting title (area.within bounds))

end Preview

end GlyphBook
