import GlyphBook.Terminal.Panel

/-!
# Where paintings paint

A painting is asked cell by cell, so a statement about it is a statement about one cell. Two kinds
are needed of the parts a pane is put together from: that they stay in their rectangles
(`Painting.StaysIn`), and that none of them prints in reverse (`Painting.Upright`), so that what is
reversed on a screen was reversed on purpose.
-/

namespace GlyphBook

namespace Rect

theorem contains_iff {r : Rect} {x y : Nat} :
    r.Contains x y ↔ r.x ≤ x ∧ x < r.x + r.width ∧ r.y ≤ y ∧ y < r.y + r.height := Iff.rfl

theorem contains_of_inner {r : Rect} {x y : Nat} (h : r.inner.Contains x y) :
    r.x < x ∧ x + 1 < r.x + r.width ∧ r.y < y ∧ y + 1 < r.y + r.height := by
  simp only [contains_iff, inner] at h
  omega

theorem contains_of_contains_inner {r : Rect} {x y : Nat} (h : r.inner.Contains x y) :
    r.Contains x y := by
  have hedges := contains_of_inner h
  rw [contains_iff]
  omega

theorem contains_of_within {r bounds : Rect} {x y : Nat} (h : (r.within bounds).Contains x y) :
    r.Contains x y := by
  simp only [contains_iff, within] at h ⊢
  omega

theorem isEmpty_eq_false_iff {r : Rect} : r.isEmpty = false ↔ 0 < r.width ∧ 0 < r.height := by
  simp only [isEmpty, Bool.or_eq_false_iff, beq_eq_false_iff_ne, Nat.pos_iff_ne_zero]

theorem isEmpty_eq_false_of_contains {r : Rect} {x y : Nat} (h : r.Contains x y) :
    r.isEmpty = false := by
  rw [contains_iff] at h
  exact isEmpty_eq_false_iff.mpr (by omega)

/-- A rectangle that does not leave another is all within it. -/
theorem within_eq_self {r bounds : Rect} (hx : bounds.x ≤ r.x) (hy : bounds.y ≤ r.y)
    (hwidth : r.x + r.width ≤ bounds.x + bounds.width)
    (hheight : r.y + r.height ≤ bounds.y + bounds.height) : r.within bounds = r := by
  simp only [within, Nat.max_eq_left hx, Nat.max_eq_left hy, Nat.min_eq_left hwidth,
    Nat.min_eq_left hheight, Nat.add_sub_cancel_left]

end Rect

/-! ## Staying in a rectangle -/

namespace Painting

/-- The painting leaves every place outside the rectangle alone. -/
def StaysIn (painting : Painting) (r : Rect) : Prop :=
  ∀ x y, ¬ r.Contains x y → painting.cell? x y = none

theorem StaysIn.mono {painting : Painting} {r r' : Rect} (h : painting.StaysIn r)
    (hr : ∀ x y, r.Contains x y → r'.Contains x y) : painting.StaysIn r' :=
  fun x y hout => h x y fun hin => hout (hr x y hin)

theorem staysIn_empty (r : Rect) : empty.StaysIn r := fun _ _ _ => rfl

theorem staysIn_onto {top bottom : Painting} {r : Rect} (htop : top.StaysIn r)
    (hbottom : bottom.StaysIn r) : (top.onto bottom).StaysIn r := by
  intro x y h
  rw [cell?_onto, htop x y h, hbottom x y h, Option.none_or]

theorem staysIn_rows (area : Rect) (cells : List (List Cell)) : (rows area cells).StaysIn area :=
  fun _ _ h => cell?_rows_of_not_contains cells h

theorem staysIn_reversed {painting : Painting} {area r : Rect} (h : painting.StaysIn r)
    (harea : ∀ x y, area.Contains x y → r.Contains x y) : (reversed area painting).StaysIn r := by
  intro x y hout
  have hrow : ¬ area.Contains x y := fun hin => hout (harea x y hin)
  simp only [reversed, if_neg hrow]
  exact h x y hout

end Painting

/-- Paintings that stay in rectangles without a common cell may be drawn in either order. -/
theorem Screen.draw_comm {first second : Painting} {r s : Rect} (hfirst : first.StaysIn r)
    (hsecond : second.StaysIn s) (hdisjoint : ∀ x y, r.Contains x y → ¬ s.Contains x y)
    (screen : Screen) :
    (screen.draw first).draw second = (screen.draw second).draw first := by
  have hcell (x y : Nat) : ((screen.draw first).draw second).cell x y
      = ((screen.draw second).draw first).cell x y := by
    simp only [cell_draw]
    by_cases h : r.Contains x y
    · rw [hsecond x y (hdisjoint x y h), Option.getD_none, Option.getD_none]
    · rw [hfirst x y h, Option.getD_none, Option.getD_none]
  have hcells : ((screen.draw first).draw second).cell = ((screen.draw second).draw first).cell :=
    funext fun x => funext fun y => hcell x y
  exact congrArg (Screen.mk screen.width screen.height) hcells

/-! ## Reversed print -/

namespace Painting

/-- No cell of the painting is in reversed print. -/
def Upright (painting : Painting) : Prop :=
  ∀ x y cell, painting.cell? x y = some cell → cell.reversed = false

theorem upright_empty : empty.Upright := fun _ _ _ h => by cases h

theorem upright_onto {top bottom : Painting} (htop : top.Upright) (hbottom : bottom.Upright) :
    (top.onto bottom).Upright := by
  intro x y cell h
  rw [cell?_onto, Option.or_eq_some_iff] at h
  rcases h with h | ⟨-, h⟩
  · exact htop x y cell h
  · exact hbottom x y cell h

theorem upright_rows {area : Rect} {cells : List (List Cell)}
    (h : ∀ row ∈ cells, ∀ cell ∈ row, cell.reversed = false) : (rows area cells).Upright := by
  intro x y cell hcell
  simp only [rows] at hcell
  split at hcell
  · obtain ⟨row, hrow, hmem⟩ := Option.bind_eq_some_iff.mp hcell
    exact h row (List.mem_of_getElem? hrow) cell (List.mem_of_getElem? hmem)
  · cases hcell

end Painting

theorem Span.reversed_of_mem_cells {span : Span} {cell : Cell} (h : cell ∈ span.cells) :
    cell.reversed = false := by
  obtain ⟨c, -, rfl⟩ := List.mem_map.mp h
  rfl

/-! ## Panels -/

namespace Panel

theorem staysIn_runOn (row : Rect) : ∀ (start : Nat) (lines : List (List Char)),
    (runOn row start lines).StaysIn row
  | _, [] => Painting.staysIn_empty row
  | start, line :: later => by
      rw [runOn]
      refine Painting.staysIn_onto (staysIn_runOn row _ later) ?_
      split
      · exact Painting.staysIn_empty row
      · refine (Painting.staysIn_rows _ _).mono fun x y h => ?_
        simp only [Rect.contains_iff] at h ⊢
        omega

theorem staysIn_border (area : Rect) : (border area).StaysIn area := by
  intro x y h
  simp only [border, border?_of_not_contains h, Option.map_none]

theorem staysIn_painting (title : String) (area : Rect) : (painting title area).StaysIn area := by
  refine Painting.staysIn_onto ((staysIn_runOn _ _ _).mono fun x y h => ?_) (staysIn_border area)
  simp only [Rect.contains_iff, titleRow] at h ⊢
  omega

theorem border?_of_inner {area : Rect} {x y : Nat} (h : area.inner.Contains x y) :
    border? area x y = none := by
  obtain ⟨hleft, hright, htop, hbottom⟩ := Rect.contains_of_inner h
  have hl : ¬ x = area.x := by omega
  have hr : ¬ x + 1 = area.x + area.width := by omega
  have ht : ¬ y = area.y := by omega
  have hb : ¬ y + 1 = area.y + area.height := by omega
  simp [border?, hl, hr, ht, hb]

/-- A panel is drawn around its inside. -/
theorem cell?_painting_of_inner (title : String) {area : Rect} {x y : Nat}
    (h : area.inner.Contains x y) : (painting title area).cell? x y = none := by
  have hrow : ¬ (titleRow area (lines title.toList)).Contains x y := by
    have htop := (Rect.contains_of_inner h).2.2.1
    simp only [Rect.contains_iff, titleRow]
    omega
  rw [painting, Painting.cell?_onto, staysIn_runOn _ _ _ x y hrow, Option.none_or]
  show (border? area x y).map (Cell.ofChar {}) = none
  rw [border?_of_inner h, Option.map_none]

theorem reversed_of_mem_lineCells {room : Nat} {line : List Char} {cell : Cell}
    (h : cell ∈ lineCells room line) : cell.reversed = false := by
  simp only [lineCells] at h
  obtain ⟨symbol, -, rfl⟩ := List.mem_map.mp h
  rfl

theorem upright_runOn (row : Rect) : ∀ (start : Nat) (lines : List (List Char)),
    (runOn row start lines).Upright
  | _, [] => Painting.upright_empty
  | start, line :: later => by
      rw [runOn]
      refine Painting.upright_onto (upright_runOn row _ later) ?_
      split
      · exact Painting.upright_empty
      · refine Painting.upright_rows fun cells hcells cell hcell => ?_
        rw [List.mem_singleton.mp hcells] at hcell
        exact reversed_of_mem_lineCells hcell

theorem upright_border (area : Rect) : (border area).Upright := by
  intro x y cell h
  obtain ⟨c, -, rfl⟩ := Option.map_eq_some_iff.mp h
  rfl

theorem upright_painting (title : String) (area : Rect) : (painting title area).Upright :=
  Painting.upright_onto (upright_runOn _ _ _) (upright_border area)

end Panel

end GlyphBook
