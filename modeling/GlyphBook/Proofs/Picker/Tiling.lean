import GlyphBook.Proofs.Picker.Panes

/-!
# The panes tile their area

An area is shared out twice, the rows between the columns and the help and then the columns between
the list and the preview. Each time something is demanded of both parts of a length, and where the
two demands exclude each other the first one is met. `Fair` says so without computing anything: no
other division comes closer. Both divisions of an area have one fair solution, the one that the
panes take (`fair_rows_iff`, `fair_columns_iff`).

The rest is about cells. With the sizes known, a cell of the area is in the help, the list or the
preview by comparing its row with the last one and its column with the width of the list
(`contains_rect_iff`), and so it is in exactly one of them.
-/

namespace GlyphBook

/-! ## Sharing out a length -/

/-- What is demanded of one part of a length. -/
inductive Demand where
  | atLeast (n : Nat)
  | exactly (n : Nat)
  | percent (p : Nat)

/-- By how many hundredths of a cell a part of a length misses a demand. -/
def Demand.miss (total part : Nat) : Demand → Nat
  | .atLeast n => 100 * (n - part)
  | .exactly n => (100 * part - 100 * n : Int).natAbs
  | .percent p => (100 * part - p * total : Int).natAbs

/-- No division of the length comes closer to the first demand, and none that comes as close to it
comes closer to the second one. -/
structure Fair (first second : Demand) (total a b : Nat) : Prop where
  whole : a + b = total
  first_least : ∀ a' b', a' + b' = total → first.miss total a ≤ first.miss total a'
  second_least : ∀ a' b', a' + b' = total → first.miss total a' = first.miss total a →
    second.miss total b ≤ second.miss total b'

/-- A division with which every fair one agrees is the only one, if it is fair itself. -/
theorem fair_iff {first second : Demand} {total a₀ b₀ : Nat}
    (hfair : Fair first second total a₀ b₀)
    (honly : ∀ a b, a + b = total → first.miss total a = first.miss total a₀ →
      second.miss total b = second.miss total b₀ → a = a₀) {a b : Nat} :
    Fair first second total a b ↔ a = a₀ ∧ b = b₀ := by
  constructor
  · intro h
    have hfirst : first.miss total a = first.miss total a₀ :=
      Nat.le_antisymm (h.first_least a₀ b₀ hfair.whole) (hfair.first_least a b h.whole)
    have hsecond : second.miss total b = second.miss total b₀ :=
      Nat.le_antisymm (h.second_least a₀ b₀ hfair.whole hfirst.symm)
        (hfair.second_least a b h.whole hfirst)
    have ha := honly a b h.whole hfirst hsecond
    have hwhole := h.whole
    have hwhole₀ := hfair.whole
    omega
  · rintro ⟨rfl, rfl⟩
    exact hfair

namespace Panes

theorem helpHeight_cases (height : Nat) :
    (2 ≤ height ∧ helpHeight height = 1) ∨ (height ≤ 1 ∧ helpHeight height = 0) := by
  unfold helpHeight
  split <;> omega

/-- The columns get a row before the help gets its one. -/
theorem fair_rows_iff {height a b : Nat} :
    Fair (.atLeast 1) (.exactly 1) height a b
      ↔ a = height - helpHeight height ∧ b = helpHeight height := by
  have hcases := helpHeight_cases height
  refine fair_iff ⟨?whole, ?first, ?second⟩ ?only
  case whole => omega
  case first =>
    intro a' b' hwhole
    simp only [Demand.miss]
    omega
  case second =>
    intro a' b' hwhole hfirst
    simp only [Demand.miss] at hfirst ⊢
    omega
  case only =>
    intro a' b' hwhole hfirst hsecond
    simp only [Demand.miss] at hfirst hsecond
    omega

/-- Two fifths of a length are never halfway between two whole numbers, so one is nearest. -/
theorem miss_listWidth_lt {width n : Nat} (h : n ≠ listWidth width) :
    Demand.miss width (listWidth width) (.percent 40) < Demand.miss width n (.percent 40) := by
  simp only [Demand.miss, listWidth] at h ⊢
  omega

theorem eq_listWidth_of_miss_eq {width n : Nat}
    (h : Demand.miss width n (.percent 40) = Demand.miss width (listWidth width) (.percent 40)) :
    n = listWidth width := by
  by_cases hn : n = listWidth width
  · exact hn
  · have hlt := miss_listWidth_lt hn
    omega

/-- Both columns have a share, and the shares make up the whole, so the first one decides. -/
theorem fair_columns_iff {width a b : Nat} :
    Fair (.percent 40) (.percent 60) width a b
      ↔ a = listWidth width ∧ b = width - listWidth width := by
  have hle := listWidth_le width
  refine fair_iff ⟨?whole, ?first, ?second⟩ fun a' _ _ hfirst _ => eq_listWidth_of_miss_eq hfirst
  case whole => omega
  case first =>
    intro a' b' hwhole
    by_cases ha : a' = listWidth width
    · exact Nat.le_of_eq (by rw [ha])
    · exact Nat.le_of_lt (miss_listWidth_lt ha)
  case second =>
    intro a' b' hwhole hfirst
    have ha := eq_listWidth_of_miss_eq hfirst
    obtain rfl : b' = width - listWidth width := by omega
    exact Nat.le_refl _

/-! ## The cells of the panes -/

/-- One of the three panes. -/
inductive Part where
  | list
  | preview
  | help
  deriving DecidableEq

def rect (panes : Panes) : Part → Rect
  | .list => panes.list
  | .preview => panes.preview
  | .help => panes.help

/-- The part that a cell of the area belongs to. -/
def partAt (area : Rect) (x y : Nat) : Part :=
  if area.y + (area.height - helpHeight area.height) ≤ y then .help
  else if x < area.x + listWidth area.width then .list
  else .preview

/-- An area that ends at the last column and row at most is shared out as it is. -/
theorem reach_eq_self {area : Rect} (hx : area.x + area.width ≤ Rect.farthest)
    (hy : area.y + area.height ≤ Rect.farthest) : area.reach = area := by
  have hwidth : min area.width (Rect.farthest - area.x) = area.width := by omega
  have hheight : min area.height (Rect.farthest - area.y) = area.height := by omega
  rw [Rect.reach, hwidth, hheight]

theorem partAt_eq_help_iff {area : Rect} {x y : Nat} :
    partAt area x y = .help ↔ area.y + (area.height - helpHeight area.height) ≤ y := by
  unfold partAt
  split
  · next hbelow => exact iff_of_true rfl hbelow
  · next hbelow =>
      refine iff_of_false ?_ hbelow
      split <;> exact Part.noConfusion

theorem partAt_eq_list_iff {area : Rect} {x y : Nat} :
    partAt area x y = .list ↔ y < area.y + (area.height - helpHeight area.height)
      ∧ x < area.x + listWidth area.width := by
  unfold partAt
  split
  · next hbelow => exact iff_of_false Part.noConfusion fun h => Nat.not_lt.mpr hbelow h.1
  · next hbelow =>
      split
      · next hleft => exact iff_of_true rfl ⟨Nat.not_le.mp hbelow, hleft⟩
      · next hleft => exact iff_of_false Part.noConfusion fun h => hleft h.2

theorem partAt_eq_preview_iff {area : Rect} {x y : Nat} :
    partAt area x y = .preview ↔ y < area.y + (area.height - helpHeight area.height)
      ∧ area.x + listWidth area.width ≤ x := by
  unfold partAt
  split
  · next hbelow => exact iff_of_false Part.noConfusion fun h => Nat.not_lt.mpr hbelow h.1
  · next hbelow =>
      split
      · next hleft => exact iff_of_false Part.noConfusion fun h => Nat.not_lt.mpr h.2 hleft
      · next hleft => exact iff_of_true rfl ⟨Nat.not_le.mp hbelow, Nat.not_lt.mp hleft⟩

/-- The cells of a pane are the cells of the area that belong to that part. -/
theorem contains_rect_iff {area : Rect} (hreach : area.reach = area) {part : Part} {x y : Nat} :
    ((ofArea area).rect part).Contains x y ↔ area.Contains x y ∧ partAt area x y = part := by
  have hwidth := listWidth_le area.width
  have hheight := helpHeight_le area.height
  cases part with
  | list =>
      rw [partAt_eq_list_iff]
      simp only [rect, ofArea, hreach, Rect.contains_iff]
      omega
  | preview =>
      rw [partAt_eq_preview_iff]
      simp only [rect, ofArea, hreach, Rect.contains_iff]
      omega
  | help =>
      rw [partAt_eq_help_iff]
      simp only [rect, ofArea, hreach, Rect.contains_iff]
      omega

/-- No edge of the rectangle is outside the area, wherever its cells are. -/
def Inside (r area : Rect) : Prop :=
  area.x ≤ r.x ∧ r.x + r.width ≤ area.x + area.width
    ∧ area.y ≤ r.y ∧ r.y + r.height ≤ area.y + area.height

theorem inside_rect {area : Rect} (hreach : area.reach = area) (part : Part) :
    Inside ((ofArea area).rect part) area := by
  have hwidth := listWidth_le area.width
  have hheight := helpHeight_le area.height
  cases part with
  | list =>
      simp only [Inside, rect, ofArea, hreach]
      omega
  | preview =>
      simp only [Inside, rect, ofArea, hreach]
      omega
  | help =>
      simp only [Inside, rect, ofArea, hreach]
      omega

/-! ## The tiling -/

/-- The panes share out an area. -/
structure Tile (panes : Panes) (area : Rect) : Prop where
  inside : ∀ part, Inside (panes.rect part) area
  disjoint : ∀ part part' x y, (panes.rect part).Contains x y →
    (panes.rect part').Contains x y → part = part'
  covers : ∀ x y, area.Contains x y → ∃ part, (panes.rect part).Contains x y
  corner : panes.list.x = area.x ∧ panes.list.y = area.y
  sideBySide : panes.preview.x = panes.list.x + panes.list.width
    ∧ panes.preview.y = panes.list.y ∧ panes.preview.height = panes.list.height
  /-- Any other width is farther from two fifths. -/
  nearest : ∀ n, n ≠ panes.list.width →
    (100 * panes.list.width - 40 * area.width : Int).natAbs
      < (100 * n - 40 * area.width : Int).natAbs
  remaining : panes.list.width + panes.preview.width = area.width
  helpSpans : panes.help.x = area.x ∧ panes.help.width = area.width
  helpLast : 2 ≤ area.height → panes.help.height = 1 ∧ panes.help.y + 1 = area.y + area.height
  helpGone : area.height ≤ 1 → panes.help.height = 0 ∧ panes.list.height = area.height
  rows : ∀ a b, Fair (.atLeast 1) (.exactly 1) area.height a b ↔
    a = panes.list.height ∧ b = panes.help.height
  columns : ∀ a b, Fair (.percent 40) (.percent 60) area.width a b ↔
    a = panes.list.width ∧ b = panes.preview.width

/-- **The panes tile their area**, if it ends at the last column and row there is or before: every
cell of it is in exactly one pane, list and preview share the upper rows by two fifths, and the help
has the last row unless that would be the only one. Both divisions are the only fair ones. -/
theorem tile_ofArea (area : Rect) (hx : area.x + area.width ≤ Rect.farthest)
    (hy : area.y + area.height ≤ Rect.farthest) : Tile (ofArea area) area := by
  have hreach := reach_eq_self hx hy
  have hwidth := listWidth_le area.width
  have hcases := helpHeight_cases area.height
  have hheights : (ofArea area).list.height = area.height - helpHeight area.height
      ∧ (ofArea area).help.height = helpHeight area.height
      ∧ (ofArea area).help.y = area.y + (area.height - helpHeight area.height) := by
    simp only [ofArea, hreach, and_self]
  have hwidths : (ofArea area).list.width = listWidth area.width
      ∧ (ofArea area).preview.width = area.width - listWidth area.width := by
    simp only [ofArea, hreach, and_self]
  obtain ⟨hlist, hhelp, hrow⟩ := hheights
  obtain ⟨hleft, hright⟩ := hwidths
  refine
    { inside := inside_rect hreach
      disjoint := ?disjoint
      covers := ?covers
      corner := ⟨rfl, rfl⟩
      sideBySide := ⟨rfl, rfl, rfl⟩
      nearest := ?nearest
      remaining := by omega
      helpSpans := ⟨rfl, rfl⟩
      helpLast := by omega
      helpGone := by omega
      rows := ?rows
      columns := ?columns }
  case disjoint =>
    intro part part' x y h h'
    rw [contains_rect_iff hreach] at h h'
    exact h.2.symm.trans h'.2
  case covers =>
    intro x y h
    exact ⟨partAt area x y, (contains_rect_iff hreach).mpr ⟨h, rfl⟩⟩
  case nearest =>
    intro n hn
    rw [hleft] at hn ⊢
    exact miss_listWidth_lt hn
  case rows =>
    intro a b
    rw [hlist, hhelp]
    exact fair_rows_iff
  case columns =>
    intro a b
    rw [hleft, hright]
    exact fair_columns_iff

/-- An area of one row in the last column and row there is. -/
theorem tile_last_row : (65494 + 41 ≤ Rect.farthest ∧ 65534 + 1 ≤ Rect.farthest)
    ∧ Tile (ofArea ⟨65494, 65534, 41, 1⟩) ⟨65494, 65534, 41, 1⟩ :=
  ⟨by decide, tile_ofArea ⟨65494, 65534, 41, 1⟩ (by decide) (by decide)⟩

end Panes

end GlyphBook
