import GlyphBook.Theme

/-!
# A listing can be read back

A theme is printed as a line per slot with three columns. No name and no glyph holds a tab or a
line feed, so the columns can be told apart again (`columns_line_append`), and reading a listing by
lines and columns gives back every slot with its icon (`columns_listing`). What a reader of the
listing sees at a slot is then one glyph, the one that is drawn there (`lists_iff`).
-/

namespace GlyphBook

/-! ## Lines and columns -/

/-- The columns of every line of a text whose lines all end with a line feed. -/
def columns (text : String) : List (List String) :=
  (text.toList.splitOn '\n').dropLast.map fun line => (line.splitOn '\t').map String.ofList

/-- A text that can stand in a column. -/
def IsColumn (s : String) : Prop := '\t' ∉ s.toList ∧ '\n' ∉ s.toList

instance (s : String) : Decidable (IsColumn s) := inferInstanceAs (Decidable (_ ∧ _))

theorem splitOn_append_cons {sep : Char} {front : List Char} (h : sep ∉ front)
    (rest : List Char) : (front ++ sep :: rest).splitOn sep = front :: rest.splitOn sep := by
  have hfront : ∀ c ∈ front, (c == sep) = false := by
    intro c hc
    rw [beq_eq_false_iff_ne]
    rintro rfl
    exact h hc
  exact List.splitOnP_append_cons_of_forall_mem hfront sep (beq_self_eq_true sep) rest

/-- A line of three columns in front of a text is read as those columns. -/
theorem columns_line_append {a b c : String} (ha : IsColumn a) (hb : IsColumn b)
    (hc : IsColumn c) (rest : String) :
    columns (a ++ "\t" ++ b ++ "\t" ++ c ++ "\n" ++ rest) = [a, b, c] :: columns rest := by
  have hline : '\n' ∉ a.toList ++ '\t' :: (b.toList ++ '\t' :: c.toList) := by
    simp [ha.2, hb.2, hc.2]
  have htext : (a ++ "\t" ++ b ++ "\t" ++ c ++ "\n" ++ rest).toList
      = (a.toList ++ '\t' :: (b.toList ++ '\t' :: c.toList)) ++ '\n' :: rest.toList := by
    simp
  have hcells : (a.toList ++ '\t' :: (b.toList ++ '\t' :: c.toList)).splitOn '\t'
      = [a.toList, b.toList, c.toList] := by
    rw [splitOn_append_cons ha.1, splitOn_append_cons hb.1, List.splitOn_eq_singleton hc.1]
  rw [columns, htext, splitOn_append_cons hline,
    List.dropLast_cons_of_ne_nil (List.splitOn_ne_nil _ _), List.map_cons, hcells]
  simp [columns]

/-! ## The columns of a listing -/

theorem Slot.isColumn_name (slot : Slot) : IsColumn slot.name := by
  cases slot <;> decide

theorem isColumn_iconName : ∀ id : IconId, IsColumn (icons.name id) := by decide

theorem isColumn_glyph : ∀ id : IconId, IsColumn (icons.icon id).glyph := by decide

namespace Theme

theorem columns_lines (pairs : List (Slot × IconId)) :
    columns (String.join (pairs.map fun (slot, id) =>
        slot.name ++ "\t" ++ icons.name id ++ "\t" ++ (icons.icon id).glyph ++ "\n"))
      = pairs.map fun (slot, id) => [slot.name, icons.name id, (icons.icon id).glyph] := by
  induction pairs with
  | nil => rfl
  | cons pair pairs ih =>
      obtain ⟨slot, id⟩ := pair
      rw [List.map_cons, String.join_cons,
        columns_line_append slot.isColumn_name (isColumn_iconName id) (isColumn_glyph id), ih,
        List.map_cons]

/-- **A listing is read back** as the slots of the theme with the names and glyphs of their
icons. -/
theorem columns_listing (theme : Theme) :
    columns theme.listing
      = theme.slots.map fun (slot, id) => [slot.name, icons.name id, (icons.icon id).glyph] :=
  columns_lines theme.slots

end Theme

/-! ## What a listing shows at a slot -/

/-- A line of the text shows a glyph at a slot. -/
def Lists (text : String) (slot : Slot) (glyph : String) : Prop :=
  ∃ name, [slot.name, name, glyph] ∈ columns text

theorem Theme.lists_iff {theme : Theme} {slot : Slot} {glyph : String} :
    Lists theme.listing slot glyph ↔ glyph = (theme.drawn slot).glyph := by
  rw [Lists, Theme.columns_listing, Theme.slots_eq, List.map_map]
  constructor
  · rintro ⟨name, hrow⟩
    obtain ⟨other, -, hother⟩ := List.mem_map.mp hrow
    obtain ⟨hslot, -, hglyph⟩ : other.name = slot.name ∧ icons.name (theme.icon other) = name
        ∧ (icons.icon (theme.icon other)).glyph = glyph := by
      simpa using hother
    rw [← hglyph, Slot.eq_of_name_eq hslot]
    rfl
  · rintro rfl
    exact ⟨_, List.mem_map.mpr ⟨slot, slot.mem_all, rfl⟩⟩

end GlyphBook
