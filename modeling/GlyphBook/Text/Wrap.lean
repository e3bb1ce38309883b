/-!
# Wrapping words

Words are set into rows of a given width with one blank between neighbours. A word goes into the
current row if it still fits there and starts a new row otherwise; one that is wider than a whole
row is cut into pieces of that width, and its last piece is where the next word is put behind.
Nothing is lost: the words are what remains of the rows when the blanks are taken out.
-/

namespace GlyphBook

namespace Wrap

variable {α : Type}

/-! ## Words -/

/-- The longest pieces of a text without blanks. -/
def words (isBlank : α → Bool) : List α → List (List α)
  | [] => []
  | c :: cs =>
    if isBlank c then words isBlank cs
    else
      match cs, words isBlank cs with
      | d :: _, word :: others =>
        if isBlank d then [c] :: word :: others else (c :: word) :: others
      | _, others => [c] :: others

/-! ## Rows -/

/-- A word in pieces of the given width; only the last piece may be shorter. A width of zero leaves
the word in one piece. -/
def pieces (width : Nat) (word : List α) : List (List α) :=
  if width = 0 ∨ word.length ≤ width then [word]
  else word.take width :: pieces width (word.drop width)
termination_by word.length
decreasing_by
  rw [List.length_drop]
  omega

/-- Cutting a word loses nothing. -/
theorem flatten_pieces (width : Nat) (word : List α) : (pieces width word).flatten = word := by
  fun_induction pieces width word with
  | case1 word h => exact List.append_nil word
  | case2 word h ih => rw [List.flatten_cons, ih, List.take_append_drop]

/-- The last piece of a word stands behind the pieces before it. -/
theorem flatten_dropLast_append_lastPiece (width : Nat) (word : List α) :
    (pieces width word).dropLast.flatten ++ (pieces width word).getLast?.getD [] = word := by
  have hne : pieces width word ≠ [] := by
    rw [pieces]
    split <;> exact List.cons_ne_nil _ _
  calc (pieces width word).dropLast.flatten ++ (pieces width word).getLast?.getD []
      = ((pieces width word).dropLast ++ [(pieces width word).getLast hne]).flatten := by
        rw [List.flatten_append, List.flatten_singleton, List.getLast?_eq_some_getLast hne,
          Option.getD_some]
    _ = word := by rw [List.dropLast_concat_getLast, flatten_pieces]

/-- Puts words behind the row that is being filled. A word that does not fit there is set by its
pieces: all but the last are rows of their own. -/
def fill (blank : α) (width : Nat) : List α → List (List α) → List (List α)
  | row, [] => [row]
  | row, word :: words =>
    if row.length + 1 + word.length ≤ width then fill blank width (row ++ blank :: word) words
    else
      let parts := pieces width word
      row :: parts.dropLast ++ fill blank width (parts.getLast?.getD []) words

/-- The rows of a text that is given by its words; without words it is one empty row. -/
def rowsOfWords (blank : α) (width : Nat) : List (List α) → List (List α)
  | [] => [[]]
  | word :: words =>
    let parts := pieces width word
    parts.dropLast ++ fill blank width (parts.getLast?.getD []) words

/-- The rows of a text. -/
def rows (isBlank : α → Bool) (blank : α) (width : Nat) (text : List α) : List (List α) :=
  rowsOfWords blank width (words isBlank text)

/-! ## What the rows are made of -/

section

variable {isBlank : α → Bool}

/-- The words are the text without its blanks. -/
theorem flatten_words (text : List α) :
    (words isBlank text).flatten = text.filter fun c => !isBlank c := by
  fun_induction words isBlank text with
  | case1 => rfl
  | case2 c cs hc ih => simp [ih, hc]
  | case3 c hc d cs word others hd hwords ih =>
      rw [hwords] at ih ⊢
      simp [hc, hd, ← ih]
  | case4 c hc d cs word others hd hwords ih =>
      rw [hwords] at ih ⊢
      simp [hc, hd, ← ih]
  | case5 c cs hc _ ih => simp [hc, ← ih]

variable {blank : α} {width : Nat}

/-- Filling rows with words only adds blanks between them. -/
theorem filter_flatten_fill (hblank : isBlank blank = true) (row : List α)
    (texts : List (List α)) :
    (fill blank width row texts).flatten.filter (fun c => !isBlank c)
      = (row ++ texts.flatten).filter fun c => !isBlank c := by
  fun_induction fill blank width row texts with
  | case1 row => simp
  | case2 row word later hfits ih =>
      rw [ih]
      simp [hblank]
  | case3 row word later hfits parts ih =>
      have hword := flatten_dropLast_append_lastPiece width word
      rw [List.cons_append, List.flatten_cons, List.flatten_append, List.filter_append,
        List.filter_append, ih, ← List.filter_append, ← List.append_assoc, hword,
        ← List.filter_append, List.flatten_cons]

/-- **Wrapping loses nothing**: the rows of a text without their blanks are the text without its
blanks. -/
theorem filter_flatten_rows (hblank : isBlank blank = true) (text : List α) :
    (rows isBlank blank width text).flatten.filter (fun c => !isBlank c)
      = text.filter fun c => !isBlank c := by
  have hwords : (words isBlank text).flatten = text.filter fun c => !isBlank c :=
    flatten_words text
  rw [rows]
  cases htexts : words isBlank text with
  | nil =>
      rw [htexts] at hwords
      rw [← hwords]
      rfl
  | cons word later =>
      rw [htexts] at hwords
      have hword := flatten_dropLast_append_lastPiece width word
      rw [rowsOfWords, List.flatten_append, List.filter_append, filter_flatten_fill hblank,
        ← List.filter_append, ← List.append_assoc, hword, ← List.flatten_cons, hwords,
        List.filter_filter]
      simp only [Bool.and_self]

variable {P : α → Prop}

theorem forall_pieces {word : List α} (h : ∀ c ∈ word, P c) :
    ∀ piece ∈ pieces width word, ∀ c ∈ piece, P c := by
  intro piece hpiece c hc
  refine h c ?_
  rw [← flatten_pieces width word]
  exact List.mem_flatten_of_mem hpiece hc

/-- The last piece of a word, and the pieces before it. -/
theorem forall_lastPiece {word : List α} (h : ∀ c ∈ word, P c) :
    ∀ c ∈ (pieces width word).getLast?.getD [], P c := by
  cases hlast : (pieces width word).getLast? with
  | none => simp
  | some piece => exact forall_pieces h piece (List.mem_of_getLast? hlast)

theorem forall_fill (hblank : P blank) (row : List α) (texts : List (List α))
    (hrow : ∀ c ∈ row, P c) (htexts : ∀ word ∈ texts, ∀ c ∈ word, P c) :
    ∀ r ∈ fill blank width row texts, ∀ c ∈ r, P c := by
  fun_induction fill blank width row texts with
  | case1 row => simpa using hrow
  | case2 row word later hfits ih =>
      obtain ⟨hword, hlater⟩ := List.forall_mem_cons.mp htexts
      refine ih ?_ hlater
      simpa [or_imp, forall_and] using ⟨hrow, hblank, hword⟩
  | case3 row word later hfits parts ih =>
      obtain ⟨hword, hlater⟩ := List.forall_mem_cons.mp htexts
      have hrest := ih (forall_lastPiece hword) hlater
      have hparts : ∀ r ∈ parts.dropLast, ∀ c ∈ r, P c :=
        fun r hr => forall_pieces hword r ((List.dropLast_sublist _).mem hr)
      intro r hr
      rcases List.mem_cons.mp hr with rfl | hr
      · exact hrow
      · rcases List.mem_append.mp hr with hr | hr
        · exact hparts r hr
        · exact hrest r hr

/-- The rows of a text are made of its characters and of blanks. -/
theorem forall_rows (hblank : P blank) {text : List α} (h : ∀ c ∈ text, P c) :
    ∀ row ∈ rows isBlank blank width text, ∀ c ∈ row, P c := by
  have hwords : ∀ word ∈ words isBlank text, ∀ c ∈ word, P c := by
    intro word hword c hc
    have hmem : c ∈ (words isBlank text).flatten := List.mem_flatten_of_mem hword hc
    rw [flatten_words] at hmem
    exact h c (List.mem_filter.mp hmem).1
  rw [rows]
  cases htexts : words isBlank text with
  | nil => simp [rowsOfWords]
  | cons word later =>
      rw [htexts] at hwords
      obtain ⟨hword, hlater⟩ := List.forall_mem_cons.mp hwords
      intro row hrow
      rw [rowsOfWords] at hrow
      rcases List.mem_append.mp hrow with hrow | hrow
      · exact forall_pieces hword row ((List.dropLast_sublist _).mem hrow)
      · exact forall_fill hblank _ later (forall_lastPiece hword) hlater row hrow

/-! ## How long the rows are -/

theorem length_le_of_mem_pieces (hwidth : 0 < width) {word piece : List α}
    (h : piece ∈ pieces width word) : piece.length ≤ width := by
  fun_induction pieces width word with
  | case1 word hshort =>
      rw [List.mem_singleton.mp h]
      omega
  | case2 word hlong ih =>
      rcases List.mem_cons.mp h with rfl | h
      · exact List.length_take_le _ _
      · exact ih h

theorem length_lastPiece_le (hwidth : 0 < width) (word : List α) :
    ((pieces width word).getLast?.getD []).length ≤ width := by
  cases hlast : (pieces width word).getLast? with
  | none => exact Nat.zero_le width
  | some piece => exact length_le_of_mem_pieces hwidth (List.mem_of_getLast? hlast)

theorem length_le_of_mem_fill (hwidth : 0 < width) {row : List α} {texts : List (List α)}
    (hrow : row.length ≤ width) {r : List α} (h : r ∈ fill blank width row texts) :
    r.length ≤ width := by
  fun_induction fill blank width row texts with
  | case1 row =>
      rw [List.mem_singleton.mp h]
      exact hrow
  | case2 row word later hfits ih =>
      refine ih ?_ h
      simp only [List.length_append, List.length_cons]
      omega
  | case3 row word later hfits parts ih =>
      rcases List.mem_cons.mp h with rfl | h
      · exact hrow
      · rcases List.mem_append.mp h with h | h
        · exact length_le_of_mem_pieces hwidth ((List.dropLast_sublist _).mem h)
        · exact ih (length_lastPiece_le hwidth word) h

/-- Every row fits into the width. -/
theorem length_le_of_mem_rows (hwidth : 0 < width) {text row : List α}
    (h : row ∈ rows isBlank blank width text) : row.length ≤ width := by
  rw [rows] at h
  cases htexts : words isBlank text with
  | nil =>
      rw [htexts] at h
      rw [List.mem_singleton.mp h]
      exact Nat.zero_le width
  | cons word later =>
      rw [htexts, rowsOfWords] at h
      rcases List.mem_append.mp h with h | h
      · exact length_le_of_mem_pieces hwidth ((List.dropLast_sublist _).mem h)
      · exact length_le_of_mem_fill hwidth (length_lastPiece_le hwidth word) h

end

end Wrap

end GlyphBook
