import GlyphBook.Registry.Builtin
import GlyphBook.Terminal.Panel

/-!
# The list of icons

The list shows as many of its entries as its panel has rows, from an offset on. Drawing it settles
what is shown: a selection behind the last entry moves to the last one, and the offset moves just
as far as is needed to show the selected entry. While an entry is selected every entry is indented,
and the selected one has a mark in front of it and is shown in reversed print over the whole row.
-/

namespace GlyphBook

/-! ## Scrolling -/

/-- The entries that are shown at a time: those from `first` on that come before `last`. -/
structure Window where
  first : Nat
  last : Nat
  deriving Repr, DecidableEq

namespace Window

/-- Lets entries go at the top until there are no more than `height`. -/
def dropTop (height : Nat) (w : Window) : Window :=
  if height < w.last - w.first then dropTop height ⟨w.first + 1, w.last⟩ else w
termination_by w.last - w.first

theorem dropTop_eq (height : Nat) (w : Window) :
    w.dropTop height = ⟨max w.first (w.last - height), w.last⟩ := by
  fun_induction dropTop height w with
  | case1 w h ih =>
      rw [ih, mk.injEq]
      exact ⟨by simp only; omega, rfl⟩
  | case2 w h =>
      have hfirst : max w.first (w.last - height) = w.first := by omega
      rw [hfirst]

/-- Lets entries go at the bottom until there are no more than `height`. -/
def dropBottom (height : Nat) (w : Window) : Window :=
  if height < w.last - w.first then dropBottom height ⟨w.first, w.last - 1⟩ else w
termination_by w.last - w.first

theorem dropBottom_eq (height : Nat) (w : Window) :
    w.dropBottom height = ⟨w.first, min w.last (w.first + height)⟩ := by
  fun_induction dropBottom height w with
  | case1 w h ih =>
      rw [ih, mk.injEq]
      exact ⟨rfl, by simp only; omega⟩
  | case2 w h =>
      have hlast : min w.last (w.first + height) = w.last := by omega
      rw [hlast]

/-- Takes in entries at the bottom, one at a time, until `s` is not below the window. -/
def down (height s : Nat) (w : Window) : Window :=
  if w.last ≤ s then down height s (dropTop height ⟨w.first, w.last + 1⟩) else w
termination_by s + 1 - w.last
decreasing_by
  rw [dropTop_eq]
  simp only
  omega

/-- Takes in entries at the top, one at a time, until `s` is not above the window. -/
def up (height s : Nat) (w : Window) : Window :=
  if s < w.first then up height s (dropBottom height ⟨w.first - 1, w.last⟩) else w
termination_by w.first
decreasing_by
  rw [dropBottom_eq]
  simp only
  omega

theorem down_eq (height s : Nat) (w : Window) (h : w.last ≤ s) :
    w.down height s = ⟨max w.first (s + 1 - height), s + 1⟩ := by
  fun_induction down height s w with
  | case1 w hlast ih =>
      rw [dropTop_eq] at ih
      by_cases hnext : w.last + 1 ≤ s
      · rw [dropTop_eq, ih hnext, mk.injEq]
        exact ⟨by simp only; omega, rfl⟩
      · have hs : w.last = s := by omega
        rw [dropTop_eq, down, if_neg (by simp only; omega), hs]
  | case2 w hlast => exact absurd h hlast

theorem up_eq (height s : Nat) (w : Window) (h : s < w.first) :
    w.up height s = ⟨s, min w.last (s + height)⟩ := by
  fun_induction up height s w with
  | case1 w hfirst ih =>
      rw [dropBottom_eq] at ih
      by_cases hnext : s < w.first - 1
      · rw [dropBottom_eq, ih hnext, mk.injEq]
        exact ⟨rfl, by simp only; omega⟩
      · have hs : w.first - 1 = s := by omega
        rw [dropBottom_eq, up, if_neg (by simp only; omega), hs]
  | case2 w hfirst => exact absurd h hfirst

end Window

/-- What a list remembers between two drawings: the selected entry and the first one shown. -/
structure ListView where
  selection? : Option Nat
  offset : Nat
  deriving Repr, DecidableEq

namespace ListView

/-- The entries to show of a list of `count` so that entry `s` is among `height` rows: the window
that starts at `offset` follows the entry, first down and then up. -/
def window (offset height count s : Nat) : Window :=
  (Window.down height s ⟨offset, offset + min height (count - offset)⟩).up height s

/-- The first entry to show so that entry `s` is in view. -/
def follow (offset height count s : Nat) : Nat := (window offset height count s).first

/-- The first entry to show so that entry `s` is among `height` rows, as near to `offset` as can
be. -/
def scroll (offset height s : Nat) : Nat :=
  if s < offset then s
  else if offset + height ≤ s then s + 1 - height
  else offset

theorem scroll_le (offset height s : Nat) (h : 0 < height) : scroll offset height s ≤ s := by
  unfold scroll
  split
  · exact Nat.le_refl s
  · split <;> omega

theorem lt_scroll_add (offset height s : Nat) (h : 0 < height) :
    s < scroll offset height s + height := by
  unfold scroll
  split
  · omega
  · split <;> omega

/-- Following an entry ends as near to where it started as can be, with all entries in view that
the rows and the list have from there on. -/
theorem window_eq {offset height count s : Nat} (hheight : 0 < height) (hoffset : offset < count)
    (hs : s < count) :
    window offset height count s
      = ⟨scroll offset height s, scroll offset height s
        + min height (count - scroll offset height s)⟩ := by
  unfold window scroll
  by_cases hlast : offset + min height (count - offset) ≤ s
  · have hbelow : ¬ s < max offset (s + 1 - height) := by omega
    rw [Window.down_eq _ _ _ hlast, Window.up, if_neg hbelow, if_neg (by omega),
      if_pos (by omega), Window.mk.injEq]
    simp only
    omega
  · rw [Window.down, if_neg hlast]
    by_cases habove : s < offset
    · rw [Window.up_eq _ _ _ habove, if_pos habove, Window.mk.injEq]
      exact ⟨rfl, by simp only; omega⟩
    · rw [Window.up, if_neg habove, if_neg habove, if_neg (by omega)]

theorem follow_eq_scroll {offset height count s : Nat} (hheight : 0 < height)
    (hoffset : offset < count) (hs : s < count) :
    follow offset height count s = scroll offset height s := by
  rw [follow, window_eq hheight hoffset hs]

/-- What is remembered once a list of `count` entries has been drawn inside `room`. Where there is
no room nothing is settled. -/
def settle (view : ListView) (count : Nat) (room : Rect) : ListView :=
  if room.isEmpty then view
  else if count = 0 then ⟨none, 0⟩
  else
    let selection? := view.selection?.map fun s => min s (count - 1)
    let offset := min view.offset (count - 1)
    match selection? with
    | none => ⟨none, offset⟩
    | some s => ⟨some s, follow offset room.height count s⟩

end ListView

namespace IconList

/-- An entry: the glyph and the name of an icon. -/
def entryText (id : IconId) : String := (icons.icon id).glyph ++ " " ++ icons.name id

/-- What stands in front of the selected entry. -/
def mark : String := ">> "

/-- What stands in front of the other entries while one is selected. -/
def indent : String := "   "

/-- An entry with what stands in front of it. -/
def rowText (selection? : Option Nat) (index : Nat) (id : IconId) : String :=
  match selection? with
  | none => entryText id
  | some s => (if index = s then mark else indent) ++ entryText id

/-- The entries that are shown, with their places in the list. -/
def visible (view : ListView) (height : Nat) (ids : List IconId) : List (Nat × IconId) :=
  ((ids.zipIdx.map fun (id, index) => (index, id)).drop view.offset).take height

/-- The rows of a list of which all has been settled. -/
def rows (view : ListView) (room : Rect) (ids : List IconId) : List (List Cell) :=
  (visible view room.height ids).map fun (index, id) =>
    Span.cells ⟨rowText view.selection? index id, {}⟩

/-- The row of the selected entry. -/
def selectedRow (view : ListView) (room : Rect) : Rect :=
  match view.selection? with
  | none => ⟨room.x, room.y, 0, 0⟩
  | some s => ⟨room.x, room.y + (s - view.offset), room.width, min 1 room.height⟩

/-- The list in its panel, of which the part within `bounds` is drawn. The border is drawn around
that part; the entries keep their places. -/
def painting (bounds : Rect) (title : String) (ids : List IconId) (area : Rect) (view : ListView) :
    Painting :=
  let room := area.inner
  let settled := view.settle ids.length room
  let listed := (Painting.rows room (rows settled room ids)).onto
    (Panel.painting title (area.within bounds))
  if ids.isEmpty then listed else listed.reversed (selectedRow settled room)

end IconList

end GlyphBook
