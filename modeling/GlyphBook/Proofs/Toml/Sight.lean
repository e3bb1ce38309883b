import GlyphBook.Proofs.Theme.Listing
import GlyphBook.Proofs.Toml.Places
import GlyphBook.Toml.Highlight

/-!
# Pointing at a token

An error shows the place of a token by the line in which it starts, counted in line feeds and
characters from the front of the text, while extents count characters from its end. For a token
that stands where its extent says, the two agree (`sight_eq`), the line shown is the line of that
number in the text (`getElem?_splitOn`), and the report is laid out as `PointsAt` spells it.

The marks under the token are its bytes as far as the line goes. That much is certain when no
character in front of it on its line takes more than one byte, or when the token keeps to the line.
-/

namespace GlyphBook

namespace Toml

/-! ## Lines -/

/-- What stands behind the last line feed. -/
def lastLine (cs : List Char) : List Char := (cs.reverse.takeWhile (· ≠ '\n')).reverse

/-- What stands in front of the first line feed. -/
def firstLine (cs : List Char) : List Char := cs.takeWhile (· ≠ '\n')

theorem newline_notMem_lastLine (cs : List Char) : '\n' ∉ lastLine cs := by
  intro h
  have hne := List.mem_takeWhile_imp (List.mem_reverse.mp h)
  simp at hne

theorem lastLine_suffix (cs : List Char) : lastLine cs <:+ cs := by
  have h := List.reverse_suffix.mpr (List.takeWhile_prefix (· ≠ '\n') (l := cs.reverse))
  rwa [List.reverse_reverse] at h

theorem takeWhile_eq_self {cs : List Char} (h : '\n' ∉ cs) : cs.takeWhile (· ≠ '\n') = cs := by
  refine List.takeWhile_eq_self_iff.mpr fun c hc => ?_
  rw [decide_eq_true_eq]
  rintro rfl
  exact h hc

theorem lastLine_of_notMem {cs : List Char} (h : '\n' ∉ cs) : lastLine cs = cs := by
  rw [lastLine, takeWhile_eq_self fun hmem => h (List.mem_reverse.mp hmem), List.reverse_reverse]

theorem lastLine_append_newline (front later : List Char) :
    lastLine (front ++ '\n' :: later) = lastLine later := by
  have hstop (cs : List Char) : ('\n' :: cs).takeWhile (· ≠ '\n') = [] := rfl
  rw [lastLine, lastLine, List.reverse_append, List.reverse_cons, List.append_assoc,
    List.singleton_append, List.takeWhile_append, hstop]
  split
  · next hall =>
    rw [List.append_nil, (List.takeWhile_prefix _).eq_of_length hall]
  · rfl

theorem firstLine_append_newline {front : List Char} (h : '\n' ∉ front) (later : List Char) :
    firstLine (front ++ '\n' :: later) = front := by
  have hfront : ∀ c ∈ front, decide (c ≠ '\n') = true := by
    intro c hc
    rw [decide_eq_true_eq]
    rintro rfl
    exact h hc
  rw [firstLine, List.takeWhile_append_of_pos hfront]
  exact List.append_nil front

/-- The line of that number is what comes before on the last line, and what follows to its end. -/
theorem getElem?_splitOn (before rest : List Char) :
    ((before ++ rest).splitOn '\n')[before.count '\n']?
      = some (lastLine before ++ firstLine rest) := by
  by_cases hbefore : '\n' ∈ before
  · obtain ⟨front, later, hsplit, hfront⟩ := List.eq_append_cons_of_mem hbefore
    rw [hsplit, List.append_assoc, List.cons_append, splitOn_append_cons hfront, List.count_append,
      List.count_eq_zero_of_not_mem hfront, Nat.zero_add, List.count_cons_self,
      List.getElem?_cons_succ, lastLine_append_newline]
    exact getElem?_splitOn later rest
  · rw [List.count_eq_zero_of_not_mem hbefore, lastLine_of_notMem hbefore]
    by_cases hrest : '\n' ∈ rest
    · obtain ⟨front, later, rfl, hfront⟩ := List.eq_append_cons_of_mem hrest
      have hline : '\n' ∉ before ++ front := by simp [hbefore, hfront]
      rw [firstLine_append_newline hfront, ← List.append_assoc, splitOn_append_cons hline]
      rfl
    · have hline : '\n' ∉ before ++ rest := by simp [hbefore, hrest]
      rw [List.splitOn_eq_singleton hline, firstLine, takeWhile_eq_self hrest]
      rfl
termination_by before.length
decreasing_by
  rw [hsplit, List.length_append, List.length_cons]
  omega

/-! ## Bytes -/

theorem byteCount_append (cs ds : List Char) :
    byteCount (cs ++ ds) = byteCount cs + byteCount ds := by
  simp [byteCount]

theorem byteCount_cons (c : Char) (cs : List Char) :
    byteCount (c :: cs) = c.utf8Size + byteCount cs := by
  simp [byteCount]

theorem length_le_byteCount (cs : List Char) : cs.length ≤ byteCount cs := by
  induction cs with
  | nil => exact Nat.le_refl _
  | cons c cs ih =>
      rw [byteCount_cons, List.length_cons]
      have := c.utf8Size_pos
      omega

/-- Characters that take one byte each. -/
def OneByte (cs : List Char) : Prop := ∀ c ∈ cs, c.utf8Size = 1

theorem OneByte.byteCount {cs : List Char} (h : OneByte cs) : byteCount cs = cs.length := by
  induction cs with
  | nil => rfl
  | cons c cs ih =>
      obtain ⟨hc, hlater⟩ := List.forall_mem_cons.mp h
      rw [byteCount_cons, List.length_cons, hc, ih hlater, Nat.add_comm]

/-! ## The sight of a token -/

/-- A token is sighted where it stands. -/
theorem sight_eq {source before w after : List Char} {extent : Extent}
    (h : extent.Covers source before w after) :
    sight source extent = ⟨before.count '\n', (lastLine before).length,
      lastLine before ++ firstLine (w ++ after), byteCount w⟩ := by
  obtain ⟨rfl, hstart, hstop⟩ := h
  have hfront : (before ++ (w ++ after)).length - extent.start = before.length := by
    rw [hstart, List.length_append, Nat.add_sub_cancel]
  have htoken : extent.start - extent.stop = w.length := by
    rw [hstart, hstop, List.length_append, Nat.add_sub_cancel]
  simp only [sight, hfront, htoken, List.take_left, List.drop_left, lastLine, firstLine]

theorem before_eq_or_newline (before : List Char) :
    before = lastLine before ∨ '\n' :: lastLine before <:+ before := by
  by_cases h : '\n' ∈ before.reverse
  · right
    obtain ⟨lead, earlier, hsplit, hlead⟩ := List.eq_append_cons_of_mem h
    have hbefore : before = earlier.reverse ++ '\n' :: lead.reverse := by
      rw [← List.reverse_reverse before, hsplit]
      simp
    rw [hbefore, lastLine_append_newline,
      lastLine_of_notMem fun hmem => hlead (List.mem_reverse.mp hmem)]
    exact List.suffix_append _ _
  · left
    exact (lastLine_of_notMem fun hmem => h (List.mem_reverse.mpr hmem)).symm

theorem firstLine_append {cs : List Char} (h : '\n' ∉ cs) (rest : List Char) :
    firstLine (cs ++ rest) = cs ++ firstLine rest := by
  refine List.takeWhile_append_of_pos fun c hc => ?_
  rw [decide_eq_true_eq]
  rintro rfl
  exact h hc

/-- The marks reach as far as the token and the line do. -/
theorem marks_eq {line column : Nat} {lead w after : List Char} (hcolumn : column = lead.length)
    (h : OneByte lead ∨ '\n' ∉ w) :
    Sight.marks ⟨line, column, lead ++ firstLine (w ++ after), byteCount w⟩
      = max 1 (min (byteCount w) (byteCount (firstLine (w ++ after)))) := by
  simp only [Sight.marks]
  rw [byteCount_append, hcolumn]
  rcases h with h | h
  · rw [h.byteCount, Nat.add_sub_cancel_left]
  · have hlead := length_le_byteCount lead
    rw [firstLine_append h, byteCount_append]
    omega

/-! ## Reports -/

/-- The report of an error in a line, from its lines. -/
def reportLines (number column marks : Nat) (line : List Char) (message : String) : List String :=
  let gutter := String.ofList (List.replicate (toString number).length ' ') ++ " |"
  ["TOML parse error at line " ++ toString number ++ ", column " ++ toString column,
    gutter,
    toString number ++ " | " ++ String.ofList line,
    gutter ++ " " ++ String.ofList (List.replicate (column - 1) ' ')
      ++ String.ofList (List.replicate marks '^'),
    message,
    ""]

/-- The report points at the token `w` that stands behind `before` in the source. Its line and its
column are counted from one, the column in characters; its line is quoted, and marks stand under
it. -/
def PointsAt (source before w : List Char) (message report : String) : Prop :=
  ∃ lead line marks,
    lead <:+ before ∧ '\n' ∉ lead ∧ (before = lead ∨ '\n' :: lead <:+ before)
      ∧ (source.splitOn '\n')[before.count '\n']? = some line
      ∧ 0 < marks
      ∧ (OneByte lead ∨ '\n' ∉ w →
          marks = max 1 (min (byteCount w) (byteCount (line.drop lead.length))))
      ∧ report = String.intercalate "\n"
          (reportLines (before.count '\n' + 1) (lead.length + 1) marks line message)

theorem intercalate_lines (a b c d e : String) :
    String.intercalate "\n" [a, b, c, d, e, ""]
      = a ++ "\n" ++ b ++ "\n" ++ c ++ "\n" ++ d ++ "\n" ++ e ++ "\n" :=
  String.append_empty

theorem report_eq (s : Sight) (message : String) :
    s.report message = String.intercalate "\n"
      (reportLines (s.line + 1) (s.column + 1) s.marks s.text message) := by
  unfold reportLines Sight.report
  rw [intercalate_lines, Nat.add_sub_cancel]
  generalize s.marks = marks
  dsimp only
  simp only [String.append_assoc]

/-- **The report on a token that stands where its extent says points at it.** -/
theorem pointsAt_report {source before w after : List Char} {extent : Extent}
    (h : extent.Covers source before w after) (message : String) :
    PointsAt source before w message ((sight source extent).report message) := by
  have hline := getElem?_splitOn before (w ++ after)
  rw [← h.text] at hline
  refine ⟨lastLine before, _, (sight source extent).marks, lastLine_suffix before,
    newline_notMem_lastLine before, before_eq_or_newline before, hline,
    Nat.lt_of_lt_of_le Nat.one_pos (Nat.le_max_left ..), fun hplain => ?_, ?_⟩
  · rw [sight_eq h, marks_eq rfl hplain, List.drop_left]
  · rw [report_eq, sight_eq h]

end Toml

end GlyphBook
