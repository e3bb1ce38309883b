import GlyphBook.Proofs.Picker.Invariant
import GlyphBook.Proofs.Terminal.Painting

/-!
# What is highlighted, previewed and chosen

On the screen the highlight is the row in reversed print. A list that knows a selected entry shows
that entry, behind a mark, in the only reversed row it paints (`highlights_painting`). Since the
list of a picker and the picker itself agree on the place of the highlight (`Picker.Sound`), the
entry in that row is the one in the preview (`Picker.Shows`), and it is the one that is chosen.
-/

namespace GlyphBook

/-- The only reversed cells of a painting are those of one row of a room, and they show a text. -/
structure Highlights (painting : Painting) (room : Rect) (row : Nat) (text : String) : Prop where
  shown : ∀ x, room.Contains x row →
    painting.cell? x row = some (((Span.cells ⟨text, {}⟩)[x - room.x]?).getD Cell.blank).reverse
  only : ∀ x y cell, painting.cell? x y = some cell → cell.reversed = true →
    room.Contains x y ∧ y = row

namespace IconList

/-! ## Rows -/

theorem getElem?_rows (view : ListView) (room : Rect) (ids : List IconId) {i : Nat}
    (h : i < room.height) :
    (rows view room ids)[i]? = ids[view.offset + i]?.map fun id =>
      Span.cells ⟨rowText view.selection? (view.offset + i) id, {}⟩ := by
  rw [rows, visible, List.getElem?_map, List.getElem?_take_of_lt h, List.getElem?_drop,
    List.getElem?_map, List.getElem?_zipIdx]
  cases ids[view.offset + i]? with
  | none => rfl
  | some id => simp

theorem upright_rows (view : ListView) (room : Rect) (ids : List IconId) :
    (Painting.rows room (rows view room ids)).Upright := by
  refine Painting.upright_rows fun row hrow cell hcell => ?_
  obtain ⟨entry, -, rfl⟩ := List.mem_map.mp hrow
  exact Span.reversed_of_mem_cells hcell

variable {view : ListView} {room : Rect}

/-- The first entry shown comes before the selected one, or is it. -/
theorem offset_settle_le {count s : Nat} (hroom : room.isEmpty = false)
    (hview : view.selection? = some s) (hs : s < count) :
    (view.settle count room).offset ≤ s := by
  rw [ListView.settle_of_lt hroom hview hs]
  exact ListView.scroll_le _ _ _ (Rect.isEmpty_eq_false_iff.mp hroom).2

/-- The selected entry comes before the first one below the room. -/
theorem lt_offset_settle_add {count s : Nat} (hroom : room.isEmpty = false)
    (hview : view.selection? = some s) (hs : s < count) :
    s < (view.settle count room).offset + room.height := by
  rw [ListView.settle_of_lt hroom hview hs]
  exact ListView.lt_scroll_add _ _ _ (Rect.isEmpty_eq_false_iff.mp hroom).2

/-- The row of the selected entry is one of the room. -/
theorem contains_selectedRow_iff {count s : Nat} (hview : view.selection? = some s)
    (hs : s < count) {x y : Nat} :
    (selectedRow (view.settle count room) room).Contains x y ↔
      room.Contains x y ∧ y = room.y + (s - (view.settle count room).offset) := by
  have hrow : selectedRow (view.settle count room) room
      = ⟨room.x, room.y + (s - (view.settle count room).offset), room.width,
          min 1 room.height⟩ := by
    rw [selectedRow, ListView.selection?_settle room hview hs]
  rw [hrow]
  constructor
  · intro h
    have hroom : room.isEmpty = false := by
      rw [Rect.contains_iff] at h
      exact Rect.isEmpty_eq_false_iff.mpr (by simp only at h; omega)
    have hlt := lt_offset_settle_add hroom hview hs
    have hle := offset_settle_le hroom hview hs
    simp only [Rect.contains_iff] at h ⊢
    omega
  · rintro ⟨h, rfl⟩
    simp only [Rect.contains_iff] at h ⊢
    omega

/-! ## The painting of a list -/

/-- The rows of a list that is not empty, laid over its panel, with the selected one in reversed
print. -/
theorem painting_of_lt {bounds area : Rect} {title : String} {ids : List IconId} {s : Nat}
    (harea : area.within bounds = area) (hs : s < ids.length) :
    let settled := view.settle ids.length area.inner
    painting bounds title ids area view
      = ((Painting.rows area.inner (rows settled area.inner ids)).onto
          (Panel.painting title area)).reversed (selectedRow settled area.inner) := by
  have hids : ids.isEmpty = false := by
    rw [List.isEmpty_eq_false_iff]
    exact List.ne_nil_of_length_pos (Nat.zero_lt_of_lt hs)
  rw [painting, hids, harea]
  rfl

/-- The cells of an entry while entry `selected` is the selected one; none behind the last entry. -/
def entryCells (selected : Nat) (ids : List IconId) (index : Nat) : List Cell :=
  match ids[index]? with
  | some id => Span.cells ⟨rowText (some selected) index id, {}⟩
  | none => []

/-- What stands at a place of the room of a list: a cell of the entry that is shown in that row, in
reversed print where the entry is the selected one. -/
theorem cell?_painting_of_room (title : String) {bounds area : Rect} {ids : List IconId} {s : Nat}
    (harea : area.within bounds = area) (hview : view.selection? = some s) (hs : s < ids.length)
    {x y : Nat} (h : area.inner.Contains x y) :
    let offset := (view.settle ids.length area.inner).offset
    let row := y - area.inner.y
    let cell? := (entryCells s ids (offset + row))[x - area.inner.x]?
    (painting bounds title ids area view).cell? x y
      = if row = s - offset then some (cell?.getD Cell.blank).reverse else cell? := by
  intro offset row cell?
  have hrow : row < area.inner.height ∧ y = area.inner.y + row := by
    rw [Rect.contains_iff] at h
    omega
  have hlisted : ((Painting.rows area.inner (rows (view.settle ids.length area.inner) area.inner
      ids)).onto (Panel.painting title area)).cell? x y = cell? := by
    rw [Painting.cell?_onto, Panel.cell?_painting_of_inner title h, Option.or_none]
    simp only [Painting.rows, if_pos h]
    rw [getElem?_rows _ _ _ hrow.1, ListView.selection?_settle _ hview hs]
    simp only [cell?, entryCells]
    cases ids[offset + row]? with
    | none => rfl
    | some id => rfl
  have hselected : (selectedRow (view.settle ids.length area.inner) area.inner).Contains x y ↔
      row = s - offset := by
    rw [contains_selectedRow_iff hview hs, and_iff_right h]
    omega
  rw [painting_of_lt harea hs]
  simp only [Painting.reversed, hselected, hlisted]

/-- **A list highlights its selected entry**, in a row of its panel, and nothing else. -/
theorem highlights_painting {bounds area : Rect} {title : String} {ids : List IconId}
    {id : IconId} {s : Nat} (harea : area.within bounds = area)
    (hview : view.selection? = some s) (hid : ids[s]? = some id) :
    Highlights (painting bounds title ids area view) area.inner
      (area.inner.y + (s - (view.settle ids.length area.inner).offset))
      (mark ++ entryText id) := by
  obtain ⟨hs, -⟩ := List.getElem?_eq_some_iff.mp hid
  constructor
  case shown =>
    intro x hx
    have hroom := Rect.isEmpty_eq_false_of_contains hx
    have hle := offset_settle_le hroom hview hs
    rw [cell?_painting_of_room title harea hview hs hx]
    simp only [Nat.add_sub_cancel_left, if_true, Nat.add_sub_cancel' hle, entryCells, hid, rowText]
  case only =>
    intro x y cell hcell hreversed
    have hupright := Painting.upright_onto
      (upright_rows (view.settle ids.length area.inner) area.inner ids)
      (Panel.upright_painting title area)
    rw [painting_of_lt harea hs] at hcell
    simp only [Painting.reversed] at hcell
    split at hcell
    · next h => exact (contains_selectedRow_iff hview hs).mp h
    · have := hupright x y cell hcell
      rw [this] at hreversed
      cases hreversed

end IconList

namespace Picker

/-! ## The picker -/

/-- The pane of the list is part of the area. -/
theorem within_list (area : Rect) :
    (Panes.ofArea area).list.within area = (Panes.ofArea area).list := by
  have hwidth := Panes.listWidth_le area.reach.width
  have hreach : area.reach.width ≤ area.width ∧ area.reach.height ≤ area.height := by
    simp only [Rect.reach]
    omega
  apply Rect.within_eq_self <;> simp only [Panes.ofArea] <;> omega

/-- The row of the screen in which the entry with the highlight is drawn. -/
def highlightRow (p : Picker) (area : Rect) : Nat :=
  (Panes.ofArea area).list.inner.y + (p.selected - (p.settled area).view.offset)

/-- Drawn in an area, the picker highlights an icon in its list and shows it in its preview. Where
the list has any room the highlighted row is there. -/
structure Shows (p : Picker) (area : Rect) (id : IconId) : Prop where
  paintings : ∃ list help, p.paintings area
      = [list, Preview.painting area p.theme (some id) (Panes.ofArea area).preview, help]
    ∧ Highlights list (Panes.ofArea area).list.inner (p.highlightRow area)
        (IconList.mark ++ IconList.entryText id)
  visible : (Panes.ofArea area).list.inner.isEmpty = false →
    (p.settled area).view.offset ≤ p.selected
      ∧ p.highlightRow area
        < (Panes.ofArea area).list.inner.y + (Panes.ofArea area).list.inner.height

theorem Sound.shows {theme : Theme} {p : Picker} (h : Sound theme p) {id : IconId}
    (hid : p.keys[p.selected]? = some id) (area : Rect) : p.Shows area id where
  paintings := by
    have hpaintings : p.paintings area
        = [IconList.painting area p.listTitle p.keys (Panes.ofArea area).list p.view,
          Preview.painting area p.theme (some id) (Panes.ofArea area).preview,
          HelpLine.painting (Panes.ofArea area).help] := by
      rw [Picker.paintings, selectedId?, hid]
    exact ⟨_, _, hpaintings,
      IconList.highlights_painting (within_list area) h.selection_eq hid⟩
  visible := by
    intro hroom
    have hle := IconList.offset_settle_le hroom h.selection_eq h.selected_lt
    have hlt := IconList.lt_offset_settle_add hroom h.selection_eq h.selected_lt
    refine ⟨hle, ?_⟩
    simp only [highlightRow, settled]
    omega

/-- **What is highlighted is what is previewed and what is chosen.** After any keys and drawings in
any order, the highlight is on an icon of the list, the list knows its place, and keys and theme
are those of the start. That icon is the one that is highlighted and previewed when the picker is
drawn, in an area of any size, and the one that the enter key chooses. A press that ends the picker
leaves it as it was. -/
theorem highlighted_previewed_chosen (theme : Theme) (history : List Happening) :
    let p := (start theme).afterAll history
    p.selected < p.keys.length
      ∧ p.keys = icons.keys
      ∧ p.theme = theme
      ∧ p.view.selection? = some p.selected
      ∧ (∃ id, p.keys[p.selected]? = some id
        ∧ (∀ key, key.code = .enter → p.press key = (.chosen id, p))
        ∧ (∀ key other, (p.press key).1 = .chosen other → other = id)
        ∧ ∀ area, p.Shows area id)
      ∧ ∀ key, (p.press key).1 ≠ .proceed → (p.press key).2 = p := by
  intro p
  have hsound : Sound theme p := sound_afterAll (sound_start theme) history
  have hlt := hsound.selected_lt
  have hid : p.keys[p.selected]? = some p.keys[p.selected] := List.getElem?_eq_getElem hlt
  refine ⟨hlt, hsound.keys_eq, hsound.theme_eq, hsound.selection_eq, ⟨_, hid, ?enter, ?chosen,
    hsound.shows hid⟩, fun key => press_of_ne_proceed hlt⟩
  case enter =>
    intro key hkey
    exact press_enter hlt hkey
  case chosen =>
    intro key other hpress
    exact press_chosen hlt hpress

end Picker

end GlyphBook
