import GlyphBook.Proofs.Picker.Scrolling
import GlyphBook.Proofs.Picker.Tiling
import GlyphBook.Text.Hex
import Mathlib.Data.List.Infix

/-!
# The details of an icon are shown without loss

The lines about an icon are wrapped at words and drawn row by row, with blanks put in at the ends of
rows and blanks left out where a line is broken. What is not blank comes through: wrapping keeps it
(`Wrap.filter_flatten_rows`), and drawing cuts nothing off since a wrapped row is never wider than
its room (`Wrap.length_le_of_mem_rows`). So reading the room row by row gives the characters of the
lines, up to the last row that there is room for (`inked_charsIn`).

What the lines say is told by `Tells`: the glyph, the name, the code point as digits that are read
back as the first character of the glyph, and the slots that show the icon.
-/

namespace GlyphBook

/-! ## Characters of cells -/

/-- The characters that are no blanks. -/
def inked (cs : List Char) : List Char := cs.filter fun c => c != ' '

theorem inked_append (front back : List Char) :
    inked (front ++ back) = inked front ++ inked back := List.filter_append ..

theorem inked_flatMap {α : Type} (f : α → List Char) (parts : List α) :
    inked (parts.flatMap f) = parts.flatMap fun part => inked (f part) := List.filter_flatMap

theorem inked_cons_of_eq {c : Char} (cs : List Char) (h : c = ' ') :
    inked (c :: cs) = inked cs := List.filter_cons_of_neg (by simpa using h)

theorem inked_cons_of_ne {c : Char} (cs : List Char) (h : c ≠ ' ') :
    inked (c :: cs) = c :: inked cs := List.filter_cons_of_pos (by simpa using h)

namespace Cell

/-- The characters of cells. -/
def chars (cells : List Cell) : List Char := cells.flatMap fun cell => cell.symbol.toList

/-- The cell shows one character. -/
def IsSingle (cell : Cell) : Prop := ∃ c, cell.symbol = String.singleton c

theorem isSingle_blank : IsSingle blank := ⟨' ', rfl⟩

theorem chars_append (front back : List Cell) :
    chars (front ++ back) = chars front ++ chars back := List.flatMap_append

theorem chars_flatten (rows : List (List Cell)) : chars rows.flatten = rows.flatMap chars := by
  induction rows with
  | nil => rfl
  | cons row rows ih => rw [List.flatten_cons, chars_append, ih, List.flatMap_cons]

theorem chars_cons {cell : Cell} {c : Char} (hc : cell.symbol = String.singleton c)
    (cells : List Cell) : chars (cell :: cells) = c :: chars cells := by
  rw [chars, List.flatMap_cons, hc, String.toList_singleton]
  rfl

theorem isBlank_eq {cell : Cell} {c : Char} (hc : cell.symbol = String.singleton c) :
    Preview.isBlank cell = (c == ' ') := by
  have hspace : " " = String.singleton ' ' := rfl
  rw [Preview.isBlank, hc, hspace, Bool.eq_iff_iff, beq_iff_eq, beq_iff_eq, String.singleton_inj]

/-- In cells of one character each, the cells that are not blank have what is inked. -/
theorem inked_chars {cells : List Cell} (h : ∀ cell ∈ cells, cell.IsSingle) :
    inked (chars cells) = chars (cells.filter fun cell => !Preview.isBlank cell) := by
  induction cells with
  | nil => rfl
  | cons cell cells ih =>
      obtain ⟨⟨c, hc⟩, hcells⟩ := List.forall_mem_cons.mp h
      rw [chars_cons hc, List.filter_cons, isBlank_eq hc]
      by_cases hspace : c = ' '
      · rw [inked_cons_of_eq _ hspace, ih hcells, hspace]
        rfl
      · rw [inked_cons_of_ne _ hspace, ih hcells, if_pos (by simpa using hspace), chars_cons hc]

theorem inked_chars_replicate (n : Nat) : inked (chars (List.replicate n blank)) = [] := by
  have hblanks : ∀ c ∈ chars (List.replicate n blank), c = ' ' := by
    intro c hc
    obtain ⟨cell, hcell, hmem⟩ := List.mem_flatMap.mp hc
    rw [List.eq_of_mem_replicate hcell] at hmem
    exact List.mem_singleton.mp hmem
  exact List.filter_eq_nil_iff.mpr fun c hc => by simp [hblanks c hc]

/-- Filling a row up with blanks changes nothing that is inked. -/
theorem inked_chars_fit {width : Nat} {cells : List Cell} (h : cells.length ≤ width) :
    inked (chars (fit width cells)) = inked (chars cells) := by
  rw [fit, List.take_of_length_le h, chars_append, inked_append, inked_chars_replicate,
    List.append_nil]

end Cell

theorem Span.isSingle_of_mem_cells {span : Span} {cell : Cell} (h : cell ∈ span.cells) :
    cell.IsSingle := by
  obtain ⟨c, -, rfl⟩ := List.mem_map.mp h
  exact ⟨c, rfl⟩

theorem Span.chars_cells (span : Span) : Cell.chars span.cells = span.text.toList := by
  rw [Cell.chars, Span.cells, List.flatMap_map]
  simp only [Cell.ofChar, String.toList_singleton, List.flatMap_singleton']

/-! ## Characters of a room -/

/-- The characters that a screen shows in a room, row by row. -/
def Screen.charsIn (screen : Screen) (room : Rect) : List Char :=
  (List.range room.height).flatMap fun row => Cell.chars (screen.rowIn room row)

theorem flatMap_range_getElem? {α β : Type} (f : List α → List β) (hf : f [] = [])
    (rows : List (List α)) (n : Nat) :
    ((List.range n).flatMap fun i => f (rows[i]?.getD [])) = (rows.take n).flatMap f := by
  induction n with
  | zero => rfl
  | succ n ih =>
      rw [List.range_succ, List.flatMap_append, ih, List.take_add_one, List.flatMap_append,
        List.flatMap_singleton]
      cases rows[n]? with
      | none => rw [Option.getD_none, hf, Option.toList_none, List.flatMap_nil]
      | some row => rw [Option.getD_some, Option.toList_some, List.flatMap_singleton]

/-- A room in which rows are shown, each filled up with blanks, shows what is inked in as many of
them as there is room for. -/
theorem Screen.inked_charsIn {screen : Screen} {room : Rect} {rows : List (List Cell)}
    (hshown : ∀ row < room.height,
      screen.rowIn room row = Cell.fit room.width (rows[row]?.getD []))
    (hwidth : ∀ row ∈ rows, row.length ≤ room.width) :
    inked (screen.charsIn room)
      = (rows.take room.height).flatMap fun row => inked (Cell.chars row) := by
  rw [charsIn, inked_flatMap, ← flatMap_range_getElem? (fun row => inked (Cell.chars row)) rfl]
  refine List.flatMap_congr fun row hrow => ?_
  rw [hshown row (List.mem_range.mp hrow), Cell.inked_chars_fit]
  cases hcells : rows[row]? with
  | none => exact Nat.zero_le _
  | some cells => exact hwidth cells (List.mem_of_getElem? hcells)

/-! ## Code points -/

namespace Hex

theorem value?_toUpper_digitChar : ∀ d < 16, value? (Nat.digitChar d).toUpper = some d := by decide

/-- Digits in upper case are read back as what they were written for. -/
theorem number?_toUpper_toDigits (n : Nat) :
    number? ((Nat.toDigits 16 n).map Char.toUpper) = some n := by
  induction n using Nat.strongRecOn with
  | ind n ih =>
      by_cases hsmall : n < 16
      · rw [Nat.toDigits_of_lt_base hsmall, List.map_singleton, number?, extend?,
          value?_toUpper_digitChar n hsmall]
        simp [extend?]
      · have hdigits := Nat.toDigits_of_base_le (by decide : 1 < 16) (Nat.le_of_not_lt hsmall)
        have hlast := value?_toUpper_digitChar (n % 16) (Nat.mod_lt n (by decide))
        rw [hdigits, List.map_append, List.map_singleton, number?,
          extend?_append (ih (n / 16) (by omega)) hlast, Nat.div_add_mod']

theorem number?_zeros (k : Nat) (digits : List Char) :
    number? (List.replicate k '0' ++ digits) = number? digits := by
  induction k with
  | zero => rfl
  | succ k ih => exact ih

end Hex

/-- The code point of an icon is written in four digits at least. -/
theorem Icon.exists_codepointLabel (icon : Icon) : ∃ digits, 4 ≤ digits.length
    ∧ Hex.number? digits = some icon.codepoint
    ∧ icon.codepointLabel = "U+" ++ String.ofList digits := by
  refine ⟨_, ?_, ?_, rfl⟩
  · rw [List.length_append, List.length_replicate]
    omega
  · rw [Hex.number?_zeros, Hex.number?_toUpper_toDigits]

namespace Preview

/-! ## What is told about an icon -/

/-- Slots by their names; a dash when there are none. -/
def usersText (slots : List Slot) : String :=
  if slots = [] then "-" else String.intercalate ", " (slots.map Slot.name)

/-- What the lines about an icon say, one after the other: its glyph, its name, the digits of the
first character of the glyph, and the slots that show it in their fixed order. -/
inductive Tells (theme : Theme) (id : IconId) : String → Prop where
  | mk {c : Char} {digits : List Char} {slots : List Slot} :
      (icons.icon id).glyph.toList.head? = some c →
      4 ≤ digits.length → Hex.number? digits = some c.toNat →
      slots.Sublist Slot.all → (∀ slot, slot ∈ slots ↔ theme.icon slot = id) →
      Tells theme id ((icons.icon id).glyph ++ ("Name: " ++ icons.name id)
        ++ ("Codepoint: U+" ++ String.ofList digits) ++ ("Used by: " ++ usersText slots))

theorem users_eq (theme : Theme) (id : IconId) :
    users theme id = usersText (theme.slotsUsing id) := by
  unfold users usersText
  cases theme.slotsUsing id with
  | nil => rfl
  | cons slot slots => rfl

/-- The lines about an icon tell what there is to tell. -/
theorem exists_tells (theme : Theme) (id : IconId) : ∃ text, Tells theme id text
    ∧ (detailLines theme (some id)).flatMap (fun line => line.text.toList) = text.toList := by
  obtain ⟨digits, hlength, hnumber, hlabel⟩ := (icons.icon id).exists_codepointLabel
  obtain ⟨c, hglyph⟩ := List.length_eq_one_iff.mp (length_glyph id)
  have hcodepoint : (icons.icon id).codepoint = c.toNat := by rw [Icon.codepoint, hglyph]
  rw [hcodepoint] at hnumber
  have hhead : (icons.icon id).glyph.toList.head? = some c := by rw [hglyph, List.head?_singleton]
  refine ⟨_, .mk hhead hlength hnumber (theme.slotsUsing_sublist id)
    fun _ => Theme.mem_slotsUsing, ?_⟩
  simp [detailLines, Icon.span, hlabel, users_eq]

/-! ## Rows of the details -/

variable {theme : Theme} {id? : Option IconId}

theorem length_le_of_mem_detailRows {width : Nat} (hwidth : 0 < width) {row : List Cell}
    (h : row ∈ detailRows theme id? width) : row.length ≤ width := by
  obtain ⟨line, -, hline⟩ := List.mem_flatMap.mp h
  exact Wrap.length_le_of_mem_rows hwidth hline

/-- What is inked in the rows is what is inked in the lines. -/
theorem inked_detailRows (theme : Theme) (id? : Option IconId) (width : Nat) :
    ((detailRows theme id? width).flatMap fun row => inked (Cell.chars row))
      = inked ((detailLines theme id?).flatMap fun line => line.text.toList) := by
  rw [detailRows, List.flatMap_assoc, inked_flatMap]
  refine List.flatMap_congr fun line _ => ?_
  have hcells : ∀ cell ∈ line.cells, cell.IsSingle := fun _ => Span.isSingle_of_mem_cells
  have hrows : ∀ cell ∈ (Wrap.rows isBlank Cell.blank width line.cells).flatten,
      cell.IsSingle := by
    intro cell hcell
    obtain ⟨row, hrow, hmem⟩ := List.mem_flatten.mp hcell
    exact Wrap.forall_rows Cell.isSingle_blank hcells row hrow cell hmem
  calc ((Wrap.rows isBlank Cell.blank width line.cells).flatMap fun row => inked (Cell.chars row))
      = inked (Cell.chars (Wrap.rows isBlank Cell.blank width line.cells).flatten) := by
        rw [← inked_flatMap, Cell.chars_flatten]
    _ = Cell.chars (line.cells.filter fun cell => !isBlank cell) := by
        rw [Cell.inked_chars hrows, Wrap.filter_flatten_rows (by decide)]
    _ = inked line.text.toList := by rw [← Cell.inked_chars hcells, Span.chars_cells]

/-! ## The room of the details -/

/-- The details have what the border of the preview leaves, but for the last row where there are
several. -/
theorem detailArea_eq (area : Rect) :
    detailArea area = ⟨area.x + 1, area.y + 1, area.width - 2,
      if 4 ≤ area.height then area.height - 3 else area.height - 2⟩ := by
  have hrows : (detailArea area).height
      = if 4 ≤ area.height then area.height - 3 else area.height - 2 := by
    show (if 2 ≤ area.height - 2 then area.height - 2 - 1 else area.height - 2) = _
    by_cases htall : 4 ≤ area.height
    · rw [if_pos htall, if_pos (by omega)]
      omega
    · rw [if_neg htall, if_neg (by omega)]
  rw [← hrows]
  rfl

theorem contains_inner_of_detailArea {area : Rect} {x y : Nat}
    (h : (detailArea area).Contains x y) : area.inner.Contains x y := by
  simp only [Rect.contains_iff, detailArea] at h ⊢
  split at h <;> omega

/-- The controls stand below the details. -/
theorem not_contains_controls_of_detailArea {area : Rect} {x y : Nat}
    (h : (detailArea area).Contains x y) : ¬ (centred (controlRow area)).Contains x y := by
  simp only [Rect.contains_iff, detailArea, centred, controlRow] at h ⊢
  by_cases hrows : 2 ≤ area.inner.height
  · rw [if_pos hrows] at h
    omega
  · rw [if_neg hrows]
    omega

theorem cell?_painting_of_detailArea {bounds area : Rect} (harea : area.within bounds = area)
    {x y : Nat} (h : (detailArea area).Contains x y) :
    (painting bounds theme id? area).cell? x y
      = ((detailRows theme id? (detailArea area).width)[y - (detailArea area).y]?).bind
        fun row => row[x - (detailArea area).x]? := by
  rw [painting, Painting.cell?_onto, Painting.cell?_onto,
    Painting.cell?_rows_of_not_contains _ (not_contains_controls_of_detailArea h), harea,
    Panel.cell?_painting_of_inner title (contains_inner_of_detailArea h), Option.or_none,
    Option.or_none]
  exact if_pos h

/-- On a blank screen the room of the details shows their rows. -/
theorem rowIn_detailArea (theme : Theme) (id? : Option IconId) {bounds area : Rect}
    (harea : area.within bounds = area) (width height : Nat) {row : Nat}
    (hrow : row < (detailArea area).height) :
    ((Screen.blank width height).draw (painting bounds theme id? area)).rowIn (detailArea area) row
      = Cell.fit (detailArea area).width
        ((detailRows theme id? (detailArea area).width)[row]?.getD []) := by
  rw [Screen.rowIn, Cell.fit_eq_map]
  refine List.map_congr_left fun column hcolumn => ?_
  have hcell : (detailArea area).Contains ((detailArea area).x + column)
      ((detailArea area).y + row) := by
    rw [List.mem_range] at hcolumn
    rw [Rect.contains_iff]
    omega
  rw [Screen.cell_draw, cell?_painting_of_detailArea harea hcell, Nat.add_sub_cancel_left,
    Nat.add_sub_cancel_left]
  cases (detailRows theme id? (detailArea area).width)[row]? with
  | none => rfl
  | some cells => rfl

/-! ## Nothing is lost -/

/-- On a screen of the given size, a preview in an area shows what there is to tell about an icon
from its beginning on, and all of it if there are rows enough. -/
def ShowsDetails (theme : Theme) (id : IconId) (width height : Nat) (area : Rect) : Prop :=
  let screen := (Screen.blank width height).draw
    (painting ⟨0, 0, width, height⟩ theme (some id) area)
  let room := detailArea area
  ∃ text, Tells theme id text
    ∧ inked (screen.charsIn room) <+: inked text.toList
    ∧ ((detailRows theme (some id) room.width).length ≤ room.height →
      inked (screen.charsIn room) = inked text.toList)

/-- **The preview loses nothing by wrapping.** Its details stand inside the border, above the row of
the controls. Where they have one column at least, what is not blank there, read row by row, is what
there is to tell about the icon, without a character dropped, repeated or moved; only what is behind
the last row is missing. -/
theorem details_lose_nothing (theme : Theme) (id : IconId) {width height : Nat} {area : Rect}
    (harea : Panes.Inside area ⟨0, 0, width, height⟩) (hwidth : 0 < (detailArea area).width) :
    detailArea area = ⟨area.x + 1, area.y + 1, area.width - 2,
        if 4 ≤ area.height then area.height - 3 else area.height - 2⟩
      ∧ ShowsDetails theme id width height area := by
  refine ⟨detailArea_eq area, ?_⟩
  obtain ⟨hx, hright, hy, hbottom⟩ := harea
  have hwithin : area.within ⟨0, 0, width, height⟩ = area :=
    Rect.within_eq_self hx hy hright hbottom
  obtain ⟨text, htells, htext⟩ := exists_tells theme id
  have hshown := Screen.inked_charsIn
    (fun _ hrow => rowIn_detailArea theme (some id) hwithin width height hrow)
    (fun _ hrow => length_le_of_mem_detailRows hwidth hrow)
  have hrows := inked_detailRows theme (some id) (detailArea area).width
  rw [htext] at hrows
  refine ⟨text, htells, ?_, ?_⟩
  · rw [hshown, ← hrows]
    exact (List.take_prefix _ _).flatMap _
  · intro htall
    rw [hshown, List.take_of_length_le htall, hrows]

/-- Eight rows of five columns in a corner of a screen. -/
theorem details_lose_nothing_narrow :
    (Panes.Inside ⟨3, 2, 7, 11⟩ ⟨0, 0, 10, 13⟩ ∧ 0 < (detailArea ⟨3, 2, 7, 11⟩).width)
      ∧ detailArea ⟨3, 2, 7, 11⟩ = ⟨4, 3, 5, 8⟩
      ∧ ShowsDetails Theme.default .play 10 13 ⟨3, 2, 7, 11⟩ :=
  have harea : Panes.Inside ⟨3, 2, 7, 11⟩ ⟨0, 0, 10, 13⟩ := by simp [Panes.Inside]
  ⟨⟨harea, by decide⟩, details_lose_nothing Theme.default .play harea (by decide)⟩

end Preview

end GlyphBook
