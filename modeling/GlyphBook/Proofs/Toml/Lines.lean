import GlyphBook.Proofs.Toml.Form

/-!
# Documents by their lines

A document is a run of lines: headers and entries with blanks and a comment behind them, and lines
without data between them. The last line need not be ended. `Lines` says which lines of data a text
has, apart from the places that the reader writes down (`Statement.Says`), and the reader finds
exactly those lines, or refuses the text because a table in braces gives a key twice
(`statements?_of_document`).

The induction is over the lines. What each step needs is that the reader of one line stops where the
line ends (`readStatement?_of_lineForm`), and that it was not fooled by a line without data.
-/

namespace GlyphBook

namespace Toml

/-! ## One line -/

/-- A line of data, apart from its place and from how it is written. -/
inductive Line where
  | header (names : List String)
  | entry (names : List String) (content : Content)

/-- No table in the line gives a key twice. -/
def Line.Distinct : Line → Prop
  | .header _ => True
  | .entry _ content => content.Distinct

/-- The statement is this line. -/
inductive Statement.Says : Statement → Line → Prop where
  | header {path : Path} {extent : Extent} {names : List String} :
      path.names = names → Says (.header path extent) (.header names)
  | entry {path : Path} {extent : Extent} {value : Value} {names : List String}
      {content : Content} :
      path.names = names → value.Holds content →
      Says (.entry path extent value) (.entry names content)

/-- A line of data, from its first character to its last. -/
inductive LineForm : List Char → Line → Prop where
  | header {b k : List Char} {names : List String} :
      Blank b → PathForm k names → names.length < nestingLimit →
      LineForm ('[' :: (b ++ (k ++ [']']))) (.header names)
  | entry {b k v : List Char} {names : List String} {content : Content} :
      PathForm k names → names.length < nestingLimit → Blank b → ValueForm v content →
      LineForm (k ++ '=' :: (b ++ v)) (.entry names content)

/-- What may stand behind the data of a line: blanks, and a comment behind them. -/
inductive Trailer : List Char → Prop where
  | blank {b : List Char} : Blank b → Trailer b
  | comment {b cs : List Char} : Blank b → Remark cs → Trailer (b ++ '#' :: cs)

/-- A line ends here, and `rest` stands behind it. -/
inductive Ends : List Char → List Char → Prop where
  | newline {n rest : List Char} : Newline n → Ends (n ++ rest) rest
  | stop : Ends [] []

/-- The lines of data in a text. -/
inductive Lines : List Char → List Line → Prop where
  | nil : Lines [] []
  | void {t e rest : List Char} {lines : List Line} :
      Trailer t → Ends e rest → Lines rest lines → Lines (t ++ e) lines
  | data {b w t e rest : List Char} {line : Line} {lines : List Line} :
      Blank b → LineForm w line → Trailer t → Ends e rest → Lines rest lines →
      Lines (b ++ (w ++ (t ++ e))) (line :: lines)

/-- A line of data with nothing around it but its line end. -/
theorem lines_cons {w rest : List Char} {line : Line} {lines : List Line} (hw : LineForm w line)
    (hlater : Lines rest lines) : Lines (w ++ '\n' :: rest) (line :: lines) :=
  .data (b := []) (t := []) blank_nil hw (.blank blank_nil) (.newline (Or.inl rfl)) hlater

/-! ## The end of a line -/

theorem Ends.length_le {e rest : List Char} (h : Ends e rest) : rest.length ≤ e.length := by
  cases h with
  | newline _ => simp
  | stop => exact Nat.le_refl _

/-- Where a line ends there is neither a blank nor a comment, nor a byte order mark. -/
theorem Ends.skip {e rest : List Char} (h : Ends e rest) :
    skipBlanks e = e ∧ skipComment e = e ∧ e.dropWhile isCommentChar = e
      ∧ afterLine? e = some rest ∧ dropMark e = e := by
  cases h with
  | newline hn =>
      rcases hn with rfl | rfl
      · exact ⟨rfl, rfl, rfl, rfl, rfl⟩
      · exact ⟨rfl, rfl, rfl, rfl, rfl⟩
  | stop => exact ⟨rfl, rfl, rfl, rfl, rfl⟩

theorem afterLine?_comment {cs e rest : List Char} (hcs : Remark cs) (he : Ends e rest) :
    afterLine? (skipComment ('#' :: (cs ++ e))) = some rest := by
  obtain ⟨-, -, hdrop, hafter, -⟩ := he.skip
  have hcomment : skipComment ('#' :: (cs ++ e)) = e := by
    show (cs ++ e).dropWhile isCommentChar = e
    rw [List.dropWhile_append_of_pos hcs, hdrop]
  rw [hcomment, hafter]

theorem finishLine?_of_trailer {t e rest : List Char} (ht : Trailer t) (he : Ends e rest) :
    finishLine? (t ++ e) = some rest := by
  rw [finishLine?]
  cases ht with
  | blank hb =>
      obtain ⟨hblanks, hcomment, -, hafter, -⟩ := he.skip
      rw [skipBlanks_append hb, hblanks, hcomment, hafter]
  | comment hb hcs =>
      rw [List.append_assoc, skipBlanks_append hb, List.cons_append, skipBlanks_cons (by decide),
        afterLine?_comment hcs he]

theorem unquoted_of_trailer {t e rest : List Char} (ht : Trailer t) (he : Ends e rest) :
    Unquoted (t ++ e) := by
  have hend : Unquoted e := by
    cases he with
    | newline hn =>
        rcases hn with rfl | rfl
        · exact unquoted_cons (by decide) (by decide) _
        · exact unquoted_cons (by decide) (by decide) _
    | stop => exact fun c hc => nomatch hc
  cases ht with
  | blank hb =>
      cases t with
      | nil => exact hend
      | cons c t =>
          have hc := hb c (List.mem_cons_self ..)
          exact unquoted_cons (ne_quote_of_isBlank hc).1 (ne_quote_of_isBlank hc).2 _
  | comment hb _ =>
      rw [List.append_assoc]
      exact unquoted_of_blank hb (by decide) (by decide) _

/-! ## Reading one line -/

theorem readHeader?_of_pathForm {b k t e rest : List Char} {names : List String} (hb : Blank b)
    (hk : PathForm k names) (hsize : names.length < nestingLimit) (ht : Trailer t)
    (he : Ends e rest) (cs : List Char) :
    ∃ path extent, readHeader? false cs (b ++ (k ++ ']' :: (t ++ e)))
        = some (.header path extent, rest)
      ∧ path.names = names := by
  obtain ⟨path, hpath, hnames⟩ := readPath?_of_pathForm hb hk hsize (Or.inr rfl) (t ++ e)
  refine ⟨path, ⟨cs.length, (t ++ e).length⟩, ?_, hnames⟩
  simp only [readHeader?, hpath, finishLine?_of_trailer ht he, Option.map_some]

theorem ValueForm.exists_start {v : List Char} {content : Content} (h : ValueForm v content) :
    ∃ c v', v = c :: v' ∧ isBlank c = false := by
  cases h with
  | text htext =>
      obtain ⟨c, v', rfl, hc⟩ := htext.exists_start
      exact ⟨c, v', rfl, by rcases hc with rfl | rfl <;> decide⟩
  | list _ => exact ⟨_, _, rfl, by decide⟩
  | table _ => exact ⟨_, _, rfl, by decide⟩

theorem readEntry?_of_form {b k v t e rest : List Char} {names : List String} {content : Content}
    (hk : PathForm k names) (hsize : names.length < nestingLimit) (hb : Blank b)
    (hv : ValueForm v content) (ht : Trailer t) (he : Ends e rest) :
    (content.Distinct → ∃ path extent value,
        readEntry? (k ++ '=' :: (b ++ (v ++ (t ++ e)))) = some (.entry path extent value, rest)
          ∧ path.names = names ∧ value.Holds content)
      ∧ (¬ content.Distinct → readEntry? (k ++ '=' :: (b ++ (v ++ (t ++ e)))) = none) := by
  obtain ⟨path, hpath, hnames⟩ :=
    readPath?_of_pathForm blank_nil hk hsize (Or.inl rfl) (b ++ (v ++ (t ++ e)))
  rw [List.nil_append] at hpath
  have hfuel : v.length < 2 * (b ++ (v ++ (t ++ e))).length + 2 := by
    simp only [List.length_append]
    omega
  obtain ⟨hreads, hrefuses⟩ := readValue?_of_valueForm hv (unquoted_of_trailer ht he) hfuel
  have hfront : skipBlanks (b ++ (v ++ (t ++ e))) = v ++ (t ++ e) := by
    obtain ⟨c, v', rfl, hc⟩ := hv.exists_start
    exact skipBlanks_append_cons hb hc _
  unfold readEntry?
  rw [hpath]
  constructor
  · intro hdistinct
    obtain ⟨extent, value, hread, hholds⟩ := hreads hdistinct
    refine ⟨path, extent, value, ?_, hnames, hholds⟩
    simp only [hfront, hread, finishLine?_of_trailer ht he, Option.map_some]
  · intro hrepeats
    simp only [hfront, hrefuses hrepeats]

def isLineStart (c : Char) : Bool := isKeyStart c || c = '['

theorem LineForm.exists_start {w : List Char} {line : Line} (h : LineForm w line) :
    ∃ c w', w = c :: w' ∧ isLineStart c = true := by
  cases h with
  | header _ _ _ => exact ⟨_, _, rfl, by decide⟩
  | entry hk _ _ _ =>
      obtain ⟨c, k', rfl, hc⟩ := hk.exists_start
      exact ⟨c, _, rfl, by simp [isLineStart, hc]⟩

/-- **One line is read** up to the end of the line, unless a table in it gives a key twice. -/
theorem readStatement?_of_lineForm {w t e rest : List Char} {line : Line} (h : LineForm w line)
    (ht : Trailer t) (he : Ends e rest) :
    (line.Distinct → ∃ statement : Statement,
        readStatement? (w ++ (t ++ e)) = some (statement, rest) ∧ statement.Says line)
      ∧ (¬ line.Distinct → readStatement? (w ++ (t ++ e)) = none) := by
  cases h with
  | @header b k names hb hk hsize =>
      obtain ⟨path, extent, hread, hnames⟩ :=
        readHeader?_of_pathForm hb hk hsize ht he ('[' :: (b ++ (k ++ ']' :: (t ++ e))))
      have hfront : ∀ cs, b ++ (k ++ ']' :: (t ++ e)) ≠ '[' :: cs := by
        intro cs h
        cases b with
        | nil =>
            obtain ⟨c, k', rfl, hc⟩ := hk.exists_start
            exact ne_of_isKeyStart hc (by decide) (List.cons.inj h).1
        | cons c b =>
            obtain rfl : c = '[' := (List.cons.inj h).1
            cases hb '[' (List.mem_cons_self ..)
      have hstatement : readStatement? ('[' :: (b ++ (k ++ ']' :: (t ++ e))))
          = some (.header path extent, rest) := by
        rw [readStatement?, hread]
        exact hfront
      refine ⟨fun _ => ⟨.header path extent, ?_, .header hnames⟩, fun h => absurd trivial h⟩
      simp only [List.cons_append, List.append_assoc, List.nil_append]
      exact hstatement
  | @entry b k v names content hk hsize hb hv =>
      obtain ⟨hreads, hrefuses⟩ := readEntry?_of_form hk hsize hb hv ht he
      have hentry : readStatement? (k ++ '=' :: (b ++ v) ++ (t ++ e))
          = readEntry? (k ++ '=' :: (b ++ (v ++ (t ++ e)))) := by
        have hassoc : k ++ '=' :: (b ++ v) ++ (t ++ e) = k ++ '=' :: (b ++ (v ++ (t ++ e))) := by
          simp only [List.append_assoc, List.cons_append]
        rw [hassoc]
        obtain ⟨c, k', rfl, hc⟩ := hk.exists_start
        have hbracket : c ≠ '[' := ne_of_isKeyStart hc (by decide)
        rw [List.cons_append, readStatement?]
        · exact fun _ h => hbracket (List.cons.inj h).1
        · exact fun _ h => hbracket (List.cons.inj h).1
      rw [hentry]
      constructor
      · intro hdistinct
        obtain ⟨path, extent, value, hread, hnames, hholds⟩ := hreads hdistinct
        exact ⟨_, hread, .entry hnames hholds⟩
      · exact hrefuses

/-! ## All lines -/

theorem readStatements?_nil (fuel : Nat) : readStatements? (fuel + 1) [] = some [] := rfl

/-- A line without data is passed over. -/
theorem readStatements?_void {t e rest : List Char} (ht : Trailer t) (he : Ends e rest)
    {fuel : Nat} (hfuel : (t ++ e).length < fuel + 1) :
    ∃ fuel', rest.length < fuel'
      ∧ readStatements? (fuel + 1) (t ++ e) = readStatements? fuel' rest := by
  have hrest := he.length_le
  cases ht with
  | blank hb =>
      have hfront : skipBlanks (t ++ e) = e := (skipBlanks_append hb e).trans he.skip.1
      cases he with
      | newline hn =>
          refine ⟨fuel, ?_, ?_⟩
          · rcases hn with rfl | rfl
            · simp only [List.length_append, List.length_cons] at hfuel
              omega
            · simp only [List.length_append, List.length_cons] at hfuel
              omega
          · rcases hn with rfl | rfl
            · rw [readStatements?, hfront]
              rfl
            · rw [readStatements?, hfront]
              rfl
      | stop =>
          -- At the end of the text one unit of fuel is enough to find nothing.
          refine ⟨1, Nat.one_pos, ?_⟩
          rw [readStatements?, hfront]
          rfl
  | @comment b cs hb hcs =>
      have hfront : skipBlanks (b ++ '#' :: cs ++ e) = '#' :: (cs ++ e) := by
        rw [List.append_assoc]
        exact skipBlanks_append_cons hb (by decide) _
      refine ⟨fuel, ?_, ?_⟩
      · simp only [List.length_append, List.length_cons] at hfuel
        omega
      · rw [readStatements?, hfront]
        simp only [afterLine?_comment hcs he]

theorem readStatements?_data {b w text : List Char} {line : Line} (hb : Blank b)
    (hw : LineForm w line) (fuel : Nat) :
    readStatements? (fuel + 1) (b ++ (w ++ text))
      = (readStatement? (w ++ text)).bind fun (statement, rest) =>
          (readStatements? fuel rest).map (statement :: ·) := by
  obtain ⟨c, w', rfl, hc⟩ := hw.exists_start
  have hne {d : Char} (hd : isLineStart d = false) : c ≠ d := by
    rintro rfl
    rw [hc] at hd
    cases hd
  have hblank : isBlank c = false := by
    simp [isBlank, hne (d := ' ') (by decide), hne (d := '\t') (by decide)]
  have hfront : skipBlanks (b ++ (c :: w' ++ text)) = c :: w' ++ text :=
    skipBlanks_append_cons hb hblank _
  have hnewline : afterNewline? (c :: w' ++ text) = none := by
    rw [List.cons_append, afterNewline?]
    · exact fun _ h => hne (d := '\n') (by decide) (List.cons.inj h).1
    · exact fun _ h => hne (d := '\r') (by decide) (List.cons.inj h).1
  rw [readStatements?, hfront]
  split
  · next h => cases h
  · next h => exact absurd (List.cons.inj h).1 (hne (d := '#') (by decide))
  · rw [hnewline]
    cases readStatement? (c :: w' ++ text) with
    | none => rfl
    | some read => rfl

/-- **The lines of data are read**, unless a table in one of them gives a key twice. -/
theorem readStatements?_of_lines {text : List Char} {lines : List Line} (h : Lines text lines)
    {fuel : Nat} (hfuel : text.length < fuel) :
    ((∀ line ∈ lines, line.Distinct) → ∃ statements,
        readStatements? fuel text = some statements ∧ List.Forall₂ Statement.Says statements lines)
      ∧ (¬ (∀ line ∈ lines, line.Distinct) → readStatements? fuel text = none) := by
  induction h generalizing fuel with
  | nil =>
      obtain ⟨fuel, rfl⟩ := Nat.exists_eq_add_of_lt hfuel
      refine ⟨fun _ => ⟨[], readStatements?_nil _, .nil⟩, fun hnot => ?_⟩
      exact absurd (fun _ hline => nomatch hline) hnot
  | void ht he _ ih =>
      obtain ⟨fuel, rfl⟩ := Nat.exists_eq_add_of_lt hfuel
      obtain ⟨fuel', hfuel', hread⟩ := readStatements?_void ht he hfuel
      rw [hread]
      exact ih hfuel'
  | @data b w t e rest line lines hb hw ht he _ ih =>
      obtain ⟨fuel, rfl⟩ : ∃ n, fuel = n + 1 :=
        Nat.exists_eq_add_of_le' (Nat.lt_of_le_of_lt (Nat.zero_le _) hfuel)
      have hrest : rest.length < fuel := by
        have hend := he.length_le
        obtain ⟨c, w', rfl, -⟩ := hw.exists_start
        simp only [List.length_append, List.length_cons] at hfuel
        omega
      obtain ⟨hline, hrefused⟩ := readStatement?_of_lineForm hw ht he
      obtain ⟨hlater, hrefusedLater⟩ := ih hrest
      rw [readStatements?_data hb hw]
      constructor
      · intro hdistinct
        obtain ⟨hhere, hthere⟩ := List.forall_mem_cons.mp hdistinct
        obtain ⟨statement, hread, hsaid⟩ := hline hhere
        obtain ⟨statements, hreads, hall⟩ := hlater hthere
        refine ⟨statement :: statements, ?_, .cons hsaid hall⟩
        rw [hread]
        show (readStatements? fuel rest).map (statement :: ·) = _
        rw [hreads]
        rfl
      · intro hrepeats
        by_cases hhere : line.Distinct
        · obtain ⟨statement, hread, -⟩ := hline hhere
          have hthere : ¬ ∀ line ∈ lines, line.Distinct :=
            fun hthere => hrepeats (List.forall_mem_cons.mpr ⟨hhere, hthere⟩)
          rw [hread]
          show (readStatements? fuel rest).map (statement :: ·) = _
          rw [hrefusedLater hthere]
          rfl
        · rw [hrefused hhere]
          rfl

/-! ## Documents -/

/-- The text has these lines of data, behind a byte order mark if there is one. -/
def Document (source : String) (lines : List Line) : Prop := Lines (dropMark source.toList) lines

theorem dropMark_cons {c : Char} (h : c ≠ '\ufeff') (cs : List Char) :
    dropMark (c :: cs) = c :: cs := by
  rw [dropMark]
  exact fun _ hmark => h (List.cons.inj hmark).1

theorem dropMark_append {b cs : List Char} (hb : Blank b) (h : dropMark cs = cs) :
    dropMark (b ++ cs) = b ++ cs := by
  cases b with
  | nil => exact h
  | cons c b =>
      have hc : c ≠ '\ufeff' := by
        rintro rfl
        cases hb '\ufeff' (List.mem_cons_self ..)
      exact dropMark_cons hc _

/-- No line begins with a byte order mark. -/
theorem Lines.dropMark_eq {text : List Char} {lines : List Line} (h : Lines text lines) :
    dropMark text = text := by
  cases h with
  | nil => rfl
  | void ht he _ =>
      have hend : dropMark _ = _ := he.skip.2.2.2.2
      cases ht with
      | blank hb => exact dropMark_append hb hend
      | comment hb _ =>
          rw [List.append_assoc]
          exact dropMark_append hb (dropMark_cons (by decide) _)
  | data hb hw _ _ _ =>
      obtain ⟨c, w', rfl, hc⟩ := hw.exists_start
      have hmark : c ≠ '\ufeff' := by
        rintro rfl
        cases hc
      exact dropMark_append hb (dropMark_cons hmark _)

/-- A text without a byte order mark has its own lines. -/
theorem Lines.document {text : List Char} {lines : List Line} (h : Lines text lines) :
    Document (String.ofList text) lines := by
  rw [Document, String.toList_ofList, h.dropMark_eq]
  exact h

theorem length_dropMark_le (cs : List Char) : (dropMark cs).length ≤ cs.length := by
  unfold dropMark
  split
  · simp
  · exact Nat.le_refl _

theorem statements?_of_document {source : String} {lines : List Line} (h : Document source lines) :
    ((∀ line ∈ lines, line.Distinct) → ∃ statements,
        statements? source.toList = some statements
          ∧ List.Forall₂ Statement.Says statements lines)
      ∧ (¬ (∀ line ∈ lines, line.Distinct) → statements? source.toList = none) :=
  readStatements?_of_lines h (Nat.lt_succ_of_le (length_dropMark_le _))

end Toml

end GlyphBook
