import GlyphBook.Picker.HelpLine
import GlyphBook.Picker.IconList
import GlyphBook.Picker.Panes
import GlyphBook.Picker.Preview
import GlyphBook.Terminal.Key

/-!
# The picker

The picker shows a list of icons, one of them highlighted, with a preview of that one. Keys move
the highlight, choose the highlighted icon or give up. The place of the highlight is kept for the
picker and once more for the list, which may scroll but never moves the highlight elsewhere.
-/

namespace GlyphBook

/-! ## Actions -/

/-- What a key asks for. -/
inductive Action where
  | down
  | up
  | top
  | bottom
  | select
  | quit
  | ignore
  deriving Repr, DecidableEq

/-- The action of a key. Modifiers are ignored, except that `c` quits with the control key. -/
def Action.ofKey (key : Key) : Action :=
  if key.modifiers.control ∧ key.code = .char 'c' then .quit
  else match key.code with
    | .down => .down
    | .char 'j' => .down
    | .up => .up
    | .char 'k' => .up
    | .home => .top
    | .char 'g' => .top
    | .endKey => .bottom
    | .char 'G' => .bottom
    | .enter => .select
    | .escape => .quit
    | .char 'q' => .quit
    | _ => .ignore

/-! ## State -/

/-- How the picker goes on after a key. -/
inductive Outcome where
  | proceed
  | chosen (id : IconId)
  | cancelled
  deriving Repr, DecidableEq

/-- A picker at work. -/
structure Picker where
  theme : Theme
  keys : List IconId
  selected : Nat
  view : ListView

namespace Picker

/-- A picker for all icons, the first one highlighted. -/
def start (theme : Theme) : Picker where
  theme := theme
  keys := icons.keys
  selected := 0
  view := ⟨if icons.keys.isEmpty then none else some 0, 0⟩

/-- The highlighted icon. -/
def selectedId? (p : Picker) : Option IconId := p.keys[p.selected]?

/-- The highlight at another place, in the picker and in its list. -/
def moveTo (p : Picker) (place : Nat) : Picker :=
  { p with selected := place, view := { p.view with selection? := some place } }

/-- Does what was asked for. A key that ends the picker leaves it as it was; any other one tells the
list again where the highlight is. -/
def act (p : Picker) : Action → Outcome × Picker
  | .down =>
    let next := p.selected + 1
    (.proceed, p.moveTo (if next < p.keys.length then next else p.selected))
  | .up => (.proceed, p.moveTo (p.selected - 1))
  | .top => (.proceed, p.moveTo 0)
  | .bottom => (.proceed, p.moveTo (p.keys.length - 1))
  | .select =>
    match p.selectedId? with
    | some id => (.chosen id, p)
    | none => (.proceed, p.moveTo p.selected)
  | .quit => (.cancelled, p)
  | .ignore => (.proceed, p.moveTo p.selected)

/-- Handles a key. -/
def press (p : Picker) (key : Key) : Outcome × Picker := p.act (Action.ofKey key)

/-! ## Drawing -/

/-- The title of the list. -/
def listTitle (p : Picker) : String := "Icons (" ++ toString p.keys.length ++ ")"

/-- The three parts of the picker, each in its own pane. -/
def paintings (p : Picker) (area : Rect) : List Painting :=
  let panes := Panes.ofArea area
  [IconList.painting area p.listTitle p.keys panes.list p.view,
    Preview.painting area p.theme p.selectedId? panes.preview,
    HelpLine.painting panes.help]

/-- The picker once it has been drawn in an area: its list is settled. -/
def settled (p : Picker) (area : Rect) : Picker :=
  { p with view := p.view.settle p.keys.length (Panes.ofArea area).list.inner }

/-- The picker on a blank screen. -/
def screen (p : Picker) (width height : Nat) : Screen :=
  (p.paintings ⟨0, 0, width, height⟩).foldl Screen.draw (Screen.blank width height)

end Picker

end GlyphBook
