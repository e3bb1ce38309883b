import GlyphBook.Proofs.Picker.Highlight
import GlyphBook.Proofs.Picker.Panes
import GlyphBook.Proofs.Picker.Tiling

/-!
# The parts of a picker may be drawn in any order

Each part of a picker is drawn with nothing but its pane at hand. That the parts do not touch each
other follows from two facts. A part paints only in its pane (`staysIn_partPainting`): for the list
this needs that settling it brings the selected row into the room inside its border, whatever was
selected before and wherever the list started. And no cell belongs to two panes
(`Panes.not_contains_of_ne`). So two parts commute (`drawPart_comm`), although one of them also
changes what the list remembers, and hence every order of the three makes the same screen.
-/

namespace GlyphBook

/-! ## The list -/

namespace IconList

variable {view : ListView} {room : Rect}

/-- Settling brings whatever is selected into the room, even what was no entry of the list. -/
theorem row_of_settle {count s : Nat} (hcount : 0 < count) (hroom : room.isEmpty = false)
    (hs : (view.settle count room).selection? = some s) :
    s < (view.settle count room).offset + room.height := by
  have hheight := (Rect.isEmpty_eq_false_iff.mp hroom).2
  have hne : count ≠ 0 := Nat.pos_iff_ne_zero.mp hcount
  cases hview : view.selection? with
  | none => simp [ListView.settle, hroom, hne, hview] at hs
  | some selected =>
      have hfollow : ListView.follow (min view.offset (count - 1)) room.height count
            (min selected (count - 1))
          = ListView.scroll (min view.offset (count - 1)) room.height (min selected (count - 1)) :=
        ListView.follow_eq_scroll hheight (by omega) (by omega)
      simp only [ListView.settle, hroom, hne, hview, Bool.false_eq_true, if_false, Option.map_some,
        Option.some.injEq, hfollow] at hs ⊢
      rw [← hs]
      exact ListView.lt_scroll_add _ _ _ hheight

theorem contains_of_selectedRow {count : Nat} (hcount : 0 < count) {x y : Nat}
    (h : (selectedRow (view.settle count room) room).Contains x y) : room.Contains x y := by
  unfold selectedRow at h
  split at h
  · next hnone =>
      simp only [Rect.contains_iff] at h
      omega
  · next s hs =>
      simp only [Rect.contains_iff] at h ⊢
      have hroom : room.isEmpty = false := Rect.isEmpty_eq_false_iff.mpr (by omega)
      have hrow := row_of_settle hcount hroom hs
      omega

/-- The list stays in its pane, whatever it remembers. -/
theorem staysIn_painting (bounds : Rect) (title : String) (ids : List IconId) (area : Rect)
    (view : ListView) : (painting bounds title ids area view).StaysIn area := by
  have hlisted : ((Painting.rows area.inner (rows (view.settle ids.length area.inner) area.inner
      ids)).onto (Panel.painting title (area.within bounds))).StaysIn area :=
    Painting.staysIn_onto
      ((Painting.staysIn_rows _ _).mono fun _ _ => Rect.contains_of_contains_inner)
      ((Panel.staysIn_painting _ _).mono fun _ _ => Rect.contains_of_within)
  unfold painting
  cases hids : ids.isEmpty with
  | true => exact hlisted
  | false =>
      have hcount : 0 < ids.length :=
        List.length_pos_iff.mpr (List.isEmpty_eq_false_iff.mp hids)
      refine Painting.staysIn_reversed hlisted fun x y h => ?_
      exact Rect.contains_of_contains_inner (contains_of_selectedRow hcount h)

end IconList

/-! ## The panes -/

namespace Panes

/-- A pane is part of the area, also of one that goes past the last column or row. -/
theorem contains_of_rect {area : Rect} {part : Part} {x y : Nat}
    (h : ((ofArea area).rect part).Contains x y) : area.Contains x y := by
  have hwidth := listWidth_le area.reach.width
  have hheight := helpHeight_le area.reach.height
  have hreach : area.reach.width ≤ area.width ∧ area.reach.height ≤ area.height := by
    simp only [Rect.reach]
    omega
  cases part with
  | list =>
      simp only [rect, ofArea, Rect.contains_iff] at h ⊢
      omega
  | preview =>
      simp only [rect, ofArea, Rect.contains_iff] at h ⊢
      omega
  | help =>
      simp only [rect, ofArea, Rect.contains_iff] at h ⊢
      omega

theorem not_contains_help_of_preview {area : Rect} {x y : Nat}
    (h : (ofArea area).preview.Contains x y) : ¬ (ofArea area).help.Contains x y := by
  simp only [Rect.contains_iff, ofArea] at h ⊢
  omega

/-- No cell belongs to two panes. -/
theorem not_contains_of_ne {area : Rect} {part part' : Part} (hne : part ≠ part') {x y : Nat}
    (h : ((ofArea area).rect part).Contains x y) : ¬ ((ofArea area).rect part').Contains x y := by
  cases part <;> cases part'
  case list.preview => exact not_contains_preview_of_list h
  case list.help => exact not_contains_help_of_list h
  case preview.list => exact fun h' => not_contains_preview_of_list h' h
  case preview.help => exact not_contains_help_of_preview h
  case help.list => exact fun h' => not_contains_help_of_list h' h
  case help.preview => exact fun h' => not_contains_help_of_preview h' h
  all_goals exact absurd rfl hne

end Panes

/-! ## Drawing part by part -/

/-- What a part of a picker works on when it is drawn: the screen, and what the list remembers. -/
structure Canvas where
  screen : Screen
  view : ListView

namespace Picker

open Panes (Part)

/-- What a part paints, the list by what it remembers. -/
def partPainting (p : Picker) (area : Rect) (view : ListView) : Part → Painting
  | .list => IconList.painting area p.listTitle p.keys (Panes.ofArea area).list view
  | .preview => Preview.painting area p.theme p.selectedId? (Panes.ofArea area).preview
  | .help => HelpLine.painting (Panes.ofArea area).help

/-- What the list remembers once a part has been drawn. -/
def partView (p : Picker) (area : Rect) (view : ListView) : Part → ListView
  | .list => view.settle p.keys.length (Panes.ofArea area).list.inner
  | .preview => view
  | .help => view

/-- Draws one part. -/
def drawPart (p : Picker) (area : Rect) (canvas : Canvas) (part : Part) : Canvas where
  screen := canvas.screen.draw (p.partPainting area canvas.view part)
  view := p.partView area canvas.view part

/-- The order in which the picker draws its parts. -/
def drawingOrder : List Part := [.list, .preview, .help]

variable (p : Picker) (area : Rect)

theorem staysIn_partPainting (view : ListView) (part : Part) :
    (p.partPainting area view part).StaysIn ((Panes.ofArea area).rect part) := by
  cases part with
  | list => exact IconList.staysIn_painting _ _ _ _ _
  | preview => exact Preview.staysIn_painting _ _ _ _
  | help => exact HelpLine.staysIn_painting _

/-- Drawing a picker is drawing its parts in that order. -/
theorem foldl_drawingOrder (screen : Screen) :
    drawingOrder.foldl (p.drawPart area) ⟨screen, p.view⟩
      = ⟨(p.paintings area).foldl Screen.draw screen, (p.settled area).view⟩ := rfl

theorem drawPart_comm (part part' : Part) (canvas : Canvas) :
    p.drawPart area (p.drawPart area canvas part) part'
      = p.drawPart area (p.drawPart area canvas part') part := by
  by_cases hne : part = part'
  · rw [hne]
  · have hscreen := Screen.draw_comm (p.staysIn_partPainting area canvas.view part)
      (p.staysIn_partPainting area canvas.view part')
      (fun _ _ h => Panes.not_contains_of_ne hne h) canvas.screen
    -- Only the list reads and writes what is remembered, so the other part paints the same after
    -- it.
    cases part <;> cases part'
    case list.list | preview.preview | help.help => exact absurd rfl hne
    all_goals exact congrArg (fun screen => Canvas.mk screen _) hscreen

/-- **The parts of a picker keep to their panes.** In an area of any size, and whatever is
highlighted and remembered, each part paints only in its pane, no cell belongs to two panes, and all
of them are within the area. So the parts may be drawn in any order: the screen is the same, and so
is what the list remembers. -/
theorem parts_keep_to_panes :
    (∀ part view, (p.partPainting area view part).StaysIn ((Panes.ofArea area).rect part))
      ∧ (∀ part part' x y, ((Panes.ofArea area).rect part).Contains x y →
        ((Panes.ofArea area).rect part').Contains x y → part = part')
      ∧ (∀ painting ∈ p.paintings area, painting.StaysIn area)
      ∧ ∀ (screen : Screen) (parts : List Part), parts.Perm drawingOrder →
        parts.foldl (p.drawPart area) ⟨screen, p.view⟩
          = ⟨(p.paintings area).foldl Screen.draw screen, (p.settled area).view⟩ := by
  refine ⟨fun part view => p.staysIn_partPainting area view part, ?disjoint, ?inside, ?order⟩
  case disjoint =>
    intro part part' x y h h'
    by_cases hne : part = part'
    · exact hne
    · exact absurd h' (Panes.not_contains_of_ne hne h)
  case inside =>
    have hparts : p.paintings area = drawingOrder.map (p.partPainting area p.view) := rfl
    intro painting hpainting
    rw [hparts] at hpainting
    obtain ⟨part, -, rfl⟩ := List.mem_map.mp hpainting
    exact (p.staysIn_partPainting area p.view part).mono fun _ _ => Panes.contains_of_rect
  case order =>
    intro screen parts hperm
    rw [← p.foldl_drawingOrder area screen]
    exact hperm.foldl_eq' (fun part _ part' _ canvas => p.drawPart_comm area part part' canvas) _

end Picker

end GlyphBook
