import GlyphBook.Proofs.Toml.Keys

/-!
# The forms of TOML values

A value is written as a string, as a list of strings in brackets, or as strings under their keys in
braces. Blanks may stand between any two tokens, and in a list also line ends and comments.
`ValueForm` says which value a text means, apart from the places that the reader writes down
(`Value.Holds`).

Each reader is shown to read a form up to what follows it, as long as that does not begin with a
quote, which could continue a string. A table in braces is the one form that may be refused, namely
if it gives a key twice (`readValue?_of_valueForm`).
-/

namespace GlyphBook

namespace Toml

/-! ## Line ends and comments -/

/-- The end of a line. -/
def Newline (n : List Char) : Prop := n = ['\n'] ∨ n = ['\r', '\n']

def Remark (cs : List Char) : Prop := ∀ c ∈ cs, isCommentChar c = true

/-- What may stand between the items of a list: blanks, line ends, and comments with theirs. -/
inductive Gap : List Char → Prop where
  | nil : Gap []
  | blank {c : Char} {w : List Char} : isBlank c = true → Gap w → Gap (c :: w)
  | newline {n w : List Char} : Newline n → Gap w → Gap (n ++ w)
  | comment {cs n w : List Char} : Remark cs → Newline n → Gap w → Gap ('#' :: (cs ++ (n ++ w)))

theorem skipVoid?_newline {n : List Char} (hn : Newline n) (inComment : Bool) (cs : List Char) :
    skipVoid? inComment (n ++ cs) = skipVoid? false cs := by
  rcases hn with rfl | rfl
  · rfl
  · rfl

theorem skipVoid?_remark {cs : List Char} (h : Remark cs) (rest : List Char) :
    skipVoid? true (cs ++ rest) = skipVoid? true rest := by
  induction cs with
  | nil => rfl
  | cons c cs ih =>
      obtain ⟨hc, hlater⟩ := List.forall_mem_cons.mp h
      have hfeed : c ≠ '\n' := by rintro rfl; cases hc
      have hreturn : c ≠ '\r' := by rintro rfl; cases hc
      rw [List.cons_append, skipVoid?, if_pos rfl, if_pos hc]
      · exact ih hlater
      · exact fun h => hfeed h
      · exact fun _ h _ => hreturn h

/-- The character ends a gap and belongs to what follows it. -/
def EndsGap (c : Char) : Prop := c ∈ [',', ']', '"', '\x27']

theorem skipVoid?_of_gap {w : List Char} (h : Gap w) {c : Char} (hc : EndsGap c)
    (rest : List Char) : skipVoid? false (w ++ c :: rest) = some (c :: rest) := by
  induction h with
  | nil =>
      simp only [EndsGap, List.mem_cons, List.not_mem_nil, or_false] at hc
      rcases hc with rfl | rfl | rfl | rfl <;> rfl
  | @blank d w hd _ ih =>
      simp only [isBlank, Bool.or_eq_true, decide_eq_true_eq] at hd
      rcases hd with rfl | rfl
      · exact ih
      · exact ih
  | newline hn _ ih => rw [List.append_assoc, skipVoid?_newline hn, ih]
  | @comment cs n w hcs hn _ ih =>
      have hread : skipVoid? true (cs ++ (n ++ (w ++ c :: rest))) = some (c :: rest) := by
        rw [skipVoid?_remark hcs, skipVoid?_newline hn, ih]
      simp only [List.cons_append, List.append_assoc]
      exact hread

/-! ## Values -/

/-- A value, apart from its place and from how it is written. -/
inductive Content where
  | text (name : String)
  | list (names : List String)
  | table (pairs : List (String × String))

/-- A string under its key. -/
def named (pair : String × String) : String × Value := (pair.1, .text pair.2)

/-- The value has this content: a text, a list of texts, or a table of texts in braces. -/
inductive Value.Holds : Value → Content → Prop where
  | text {name : String} : Holds (.text name) (.text name)
  | list {items : List (Extent × Value)} {names : List String} :
      items.map Prod.snd = names.map .text → Holds (.list .written items) (.list names)
  | table {members : List Member} {pairs : List (String × String)} :
      members.map Member.bare = pairs.map named →
      Holds (.table .inline members) (.table pairs)

/-- No key is given twice. -/
def Content.Distinct : Content → Prop
  | .table pairs => (pairs.map Prod.fst).Nodup
  | _ => True

/-- Strings with commas between them, up to the closing bracket. A comma may stand behind the last
one. -/
inductive ItemsForm : List Char → List String → Prop where
  | close {g : List Char} : Gap g → ItemsForm (g ++ [']']) []
  | last {g g' v : List Char} {name : String} :
      Gap g → TextForm v name → Gap g' → ItemsForm (g ++ (v ++ (g' ++ [']']))) [name]
  | more {g g' v w : List Char} {name : String} {names : List String} :
      Gap g → TextForm v name → Gap g' → ItemsForm w names →
      ItemsForm (g ++ (v ++ (g' ++ ',' :: w))) (name :: names)

/-- Strings under their keys with commas between them, up to the closing brace. Only a table that
is `empty` so far may be closed at once. -/
inductive MembersForm : Bool → List Char → List (String × String) → Prop where
  | close {b : List Char} : Blank b → MembersForm true (b ++ ['\x7d']) []
  | last {empty : Bool} {b b' b'' k v : List Char} {key name : String} :
      Blank b → PathForm k [key] → Blank b' → TextForm v name → Blank b'' →
      MembersForm empty (b ++ (k ++ '=' :: (b' ++ (v ++ (b'' ++ ['\x7d']))))) [(key, name)]
  | more {empty : Bool} {b b' b'' k v w : List Char} {key name : String}
      {pairs : List (String × String)} :
      Blank b → PathForm k [key] → Blank b' → TextForm v name → Blank b'' →
      MembersForm false w pairs →
      MembersForm empty (b ++ (k ++ '=' :: (b' ++ (v ++ (b'' ++ ',' :: w))))) ((key, name) :: pairs)

/-- A value on its own. -/
inductive ValueForm : List Char → Content → Prop where
  | text {w : List Char} {name : String} : TextForm w name → ValueForm w (.text name)
  | list {w : List Char} {names : List String} :
      ItemsForm w names → ValueForm ('[' :: w) (.list names)
  | table {w : List Char} {pairs : List (String × String)} :
      MembersForm true w pairs → ValueForm ('\x7b' :: w) (.table pairs)

/-! ## Strings as values -/

theorem TextForm.exists_start {w : List Char} {name : String} (h : TextForm w name) :
    ∃ c w', w = c :: w' ∧ (c = '"' ∨ c = '\x27') := by
  cases h with
  | basic _ => exact ⟨_, _, rfl, Or.inl rfl⟩
  | literal _ => exact ⟨_, _, rfl, Or.inr rfl⟩

theorem TextForm.length_pos {w : List Char} {name : String} (h : TextForm w name) :
    0 < w.length := by
  obtain ⟨c, w', rfl, -⟩ := h.exists_start
  exact Nat.succ_pos _

theorem readValue?_of_textForm {w : List Char} {name : String} (h : TextForm w name)
    {tail : List Char} (htail : Unquoted tail) (fuel depth : Nat) :
    ∃ extent, readValue? (fuel + 1) depth (w ++ tail) = some ((extent, .text name), tail) := by
  have hread := readText?_of_textForm h htail
  obtain ⟨c, w', rfl, hc⟩ := h.exists_start
  have hscalar : readScalar? (c :: w' ++ tail) = some (.text name, tail) := by
    rw [List.cons_append] at hread ⊢
    rw [readScalar?, if_pos hc, hread]
    rfl
  refine ⟨⟨(c :: w' ++ tail).length, tail.length⟩, ?_⟩
  rw [readValue?, hscalar]
  · rfl
  · rintro rest h
    obtain rfl : c = '[' := (List.cons.inj h).1
    rcases hc with hc | hc <;> cases hc
  · rintro rest h
    obtain rfl : c = '\x7b' := (List.cons.inj h).1
    rcases hc with hc | hc <;> cases hc

/-! ## Lists -/

theorem unquoted_cons {c : Char} (hdouble : c ≠ '"') (hsingle : c ≠ '\x27') (cs : List Char) :
    Unquoted (c :: cs) := by
  intro d hd
  obtain rfl : c = d := Option.some.inj hd
  exact ⟨hdouble, hsingle⟩

theorem ne_quote_of_isBlank {c : Char} (hc : isBlank c = true) : c ≠ '"' ∧ c ≠ '\x27' := by
  constructor
  · rintro rfl
    cases hc
  · rintro rfl
    cases hc

theorem unquoted_of_gap {g : List Char} (h : Gap g) {c : Char} (hdouble : c ≠ '"')
    (hsingle : c ≠ '\x27') (rest : List Char) : Unquoted (g ++ c :: rest) := by
  cases h with
  | nil => exact unquoted_cons hdouble hsingle rest
  | blank hc _ => exact unquoted_cons (ne_quote_of_isBlank hc).1 (ne_quote_of_isBlank hc).2 _
  | newline hn _ =>
      rcases hn with rfl | rfl
      · exact unquoted_cons (by decide) (by decide) _
      · exact unquoted_cons (by decide) (by decide) _
  | comment _ _ _ => exact unquoted_cons (by decide) (by decide) _

theorem gap_of_blank {b : List Char} (h : Blank b) : Gap b := by
  induction b with
  | nil => exact .nil
  | cons c b ih =>
      obtain ⟨hc, hlater⟩ := List.forall_mem_cons.mp h
      exact .blank hc (ih hlater)

/-- Behind a gap the reader of a list meets the string that stands there. -/
theorem skipVoid?_of_textForm {g v : List Char} {name : String} (hg : Gap g) (hv : TextForm v name)
    (tail : List Char) :
    skipVoid? false (g ++ (v ++ tail)) = some (v ++ tail) ∧ ∀ after, v ++ tail ≠ ']' :: after := by
  obtain ⟨c, v', rfl, hc⟩ := hv.exists_start
  constructor
  · refine skipVoid?_of_gap hg ?_ _
    rcases hc with rfl | rfl
    · simp [EndsGap]
    · simp [EndsGap]
  · intro after h
    obtain rfl : c = ']' := (List.cons.inj h).1
    rcases hc with hc | hc <;> cases hc

/-- The string that the closing bracket follows is the last one. -/
theorem readItems?_last {g v tail after : List Char} {name : String} (hg : Gap g)
    (hv : TextForm v name) (htail : Unquoted tail)
    (hclose : skipVoid? false tail = some (']' :: after)) (fuel depth : Nat) :
    ∃ extent, readItems? (fuel + 2) depth (g ++ (v ++ tail))
      = some ([(extent, .text name)], after) := by
  obtain ⟨extent, hread⟩ := readValue?_of_textForm hv htail fuel depth
  obtain ⟨hvoid, hbracket⟩ := skipVoid?_of_textForm hg hv tail
  refine ⟨extent, ?_⟩
  rw [readItems?, hvoid]
  split
  · next h => cases h
  · next h => exact absurd (Option.some.inj h) (hbracket _)
  · next h =>
      obtain rfl := Option.some.inj h
      simp only [hread, hclose]

/-- Behind a string and a comma the list goes on. -/
theorem readItems?_more {g v tail rest : List Char} {name : String} (hg : Gap g)
    (hv : TextForm v name) (htail : Unquoted tail)
    (hcomma : skipVoid? false tail = some (',' :: rest)) (fuel depth : Nat) :
    ∃ extent, readItems? (fuel + 2) depth (g ++ (v ++ tail))
      = (readItems? (fuel + 1) depth rest).map fun (items, after) =>
          ((extent, .text name) :: items, after) := by
  obtain ⟨extent, hread⟩ := readValue?_of_textForm hv htail fuel depth
  obtain ⟨hvoid, hbracket⟩ := skipVoid?_of_textForm hg hv tail
  refine ⟨extent, ?_⟩
  rw [readItems?, hvoid]
  split
  · next h => cases h
  · next h => exact absurd (Option.some.inj h) (hbracket _)
  · next h =>
      obtain rfl := Option.some.inj h
      simp only [hread, hcomma]

theorem ItemsForm.length_lt {w : List Char} {names : List String} (h : ItemsForm w names) :
    names.length < w.length := by
  induction h with
  | close _ => simp
  | last _ hv _ =>
      have := hv.length_pos
      simp only [List.length_cons, List.length_nil, List.length_append]
      omega
  | more _ _ _ _ ih =>
      simp only [List.length_cons, List.length_append]
      omega

/-- **A list is read** up to its closing bracket. -/
theorem readItems?_of_itemsForm {w : List Char} {names : List String} (h : ItemsForm w names)
    (tail : List Char) {fuel : Nat} (hfuel : names.length < fuel) (depth : Nat) :
    ∃ items, readItems? fuel depth (w ++ tail) = some (items, tail)
      ∧ items.map Prod.snd = names.map .text := by
  induction h generalizing fuel with
  | @close g hg =>
      obtain ⟨fuel, rfl⟩ := Nat.exists_eq_add_of_lt hfuel
      have hvoid : skipVoid? false (g ++ ([']'] ++ tail)) = some (']' :: tail) :=
        skipVoid?_of_gap hg (by simp [EndsGap]) tail
      refine ⟨[], ?_, rfl⟩
      rw [List.append_assoc, readItems?, hvoid]
      rfl
  | @last g g' v name hg hv hg' =>
      obtain ⟨fuel, rfl⟩ : ∃ n, fuel = n + 2 := Nat.exists_eq_add_of_le' hfuel
      have hvoid : skipVoid? false (g' ++ ([']'] ++ tail)) = some (']' :: tail) :=
        skipVoid?_of_gap hg' (by simp [EndsGap]) tail
      have hquote : Unquoted (g' ++ ([']'] ++ tail)) :=
        unquoted_of_gap hg' (by decide) (by decide) tail
      obtain ⟨extent, hread⟩ := readItems?_last hg hv hquote hvoid fuel depth
      refine ⟨[(extent, .text name)], ?_, rfl⟩
      simp only [List.append_assoc]
      exact hread
  | @more g g' v w name names hg hv hg' _ ih =>
      obtain ⟨fuel, rfl⟩ : ∃ n, fuel = n + 2 :=
        Nat.exists_eq_add_of_le' (Nat.lt_of_le_of_lt (Nat.succ_le_succ (Nat.zero_le _)) hfuel)
      have hvoid : skipVoid? false (g' ++ ',' :: (w ++ tail)) = some (',' :: (w ++ tail)) :=
        skipVoid?_of_gap hg' (by simp [EndsGap]) _
      have hquote : Unquoted (g' ++ ',' :: (w ++ tail)) :=
        unquoted_of_gap hg' (by decide) (by decide) _
      obtain ⟨extent, hread⟩ := readItems?_more hg hv hquote hvoid fuel depth
      obtain ⟨items, hitems, hnames⟩ := ih (Nat.lt_of_succ_lt_succ hfuel)
      refine ⟨(extent, .text name) :: items, ?_, ?_⟩
      · rw [hitems] at hread
        simp only [List.append_assoc, List.cons_append]
        exact hread
      · rw [List.map_cons, List.map_cons, hnames]

/-! ## Tables in braces -/

theorem unquoted_of_blank {b : List Char} (hb : Blank b) {c : Char} (hdouble : c ≠ '"')
    (hsingle : c ≠ '\x27') (rest : List Char) : Unquoted (b ++ c :: rest) :=
  unquoted_of_gap (gap_of_blank hb) hdouble hsingle rest

/-- What the reader of a table meets behind blanks: a key and its string. -/
theorem readPair_of_forms {b k b' v tail : List Char} {key name : String} (hb : Blank b)
    (hk : PathForm k [key]) (hb' : Blank b') (hv : TextForm v name) (htail : Unquoted tail)
    (fuel depth : Nat) :
    ∃ front rest, ∃ member : Member, member.bare = named (key, name)
      ∧ skipBlanks (b ++ (k ++ '=' :: (b' ++ (v ++ tail)))) = front
      ∧ (∀ after, front ≠ '\x7d' :: after)
      ∧ readPath? front = some (⟨[], member.1⟩, '=' :: rest)
      ∧ readValue? (fuel + 1) depth (skipBlanks rest) = some (member.2, tail) := by
  obtain ⟨path, hpath, hnames⟩ :=
    readPath?_of_pathForm blank_nil hk (show 1 < nestingLimit by decide) (Or.inl rfl)
      (b' ++ (v ++ tail))
  obtain ⟨key, rfl, rfl⟩ := Path.eq_of_names hnames
  obtain ⟨extent, hread⟩ := readValue?_of_textForm hv htail fuel depth
  obtain ⟨c, k', rfl, hc⟩ := hk.exists_start
  obtain ⟨d, v', rfl, hd⟩ := hv.exists_start
  have hvalue : skipBlanks (b' ++ (d :: v' ++ tail)) = d :: v' ++ tail :=
    skipBlanks_append_cons hb' (by rcases hd with rfl | rfl <;> decide) _
  refine ⟨_, _, (key, extent, .text name), rfl,
    skipBlanks_append_cons hb (isBlank_of_isKeyStart hc) _, ?_, hpath, ?_⟩
  · intro after h
    exact ne_of_isKeyStart hc (by decide) (List.cons.inj h).1
  · rw [hvalue]
    exact hread

/-- The string that the closing brace follows is the last one. -/
theorem readMembers?_last {b k b' v tail after : List Char} {key name : String} (hb : Blank b)
    (hk : PathForm k [key]) (hb' : Blank b') (hv : TextForm v name) (htail : Unquoted tail)
    (hclose : skipBlanks tail = '\x7d' :: after) (empty : Bool) (fuel depth : Nat) :
    ∃ member : Member, member.bare = named (key, name)
      ∧ readMembers? (fuel + 2) depth empty (b ++ (k ++ '=' :: (b' ++ (v ++ tail))))
        = some ([member.inBraces], after) := by
  obtain ⟨front, rest, member, hmember, hfront, hbrace, hpath, hvalue⟩ :=
    readPair_of_forms hb hk hb' hv htail fuel depth
  refine ⟨member, hmember, ?_⟩
  rw [readMembers?, hfront]
  · simp only [hpath, hvalue, hclose]
    rfl
  · intro after _ h
    exact hbrace after (hfront.symm.trans h)

/-- Behind a string and a comma the table goes on. -/
theorem readMembers?_more {b k b' v tail rest : List Char} {key name : String} (hb : Blank b)
    (hk : PathForm k [key]) (hb' : Blank b') (hv : TextForm v name) (htail : Unquoted tail)
    (hcomma : skipBlanks tail = ',' :: rest) (empty : Bool) (fuel depth : Nat) :
    ∃ member : Member, member.bare = named (key, name)
      ∧ readMembers? (fuel + 2) depth empty (b ++ (k ++ '=' :: (b' ++ (v ++ tail))))
        = (readMembers? (fuel + 1) depth false rest).map fun (entries, after) =>
            (member.inBraces :: entries, after) := by
  obtain ⟨front, inner, member, hmember, hfront, hbrace, hpath, hvalue⟩ :=
    readPair_of_forms hb hk hb' hv htail fuel depth
  refine ⟨member, hmember, ?_⟩
  rw [readMembers?, hfront]
  · simp only [hpath, hvalue, hcomma]
    rfl
  · intro after _ h
    exact hbrace after (hfront.symm.trans h)

theorem MembersForm.length_lt {empty : Bool} {w : List Char} {pairs : List (String × String)}
    (h : MembersForm empty w pairs) : pairs.length < w.length := by
  induction h with
  | close _ => simp
  | last _ _ _ _ _ =>
      simp only [List.length_cons, List.length_nil, List.length_append]
      omega
  | more _ _ _ _ _ _ ih =>
      simp only [List.length_cons, List.length_append]
      omega

/-- **A table in braces is read** up to its closing brace. -/
theorem readMembers?_of_membersForm {empty : Bool} {w : List Char}
    {pairs : List (String × String)} (h : MembersForm empty w pairs) (tail : List Char) {fuel : Nat}
    (hfuel : pairs.length < fuel) (depth : Nat) :
    ∃ members : List Member, readMembers? fuel depth empty (w ++ tail)
        = some (members.map Member.inBraces, tail)
      ∧ members.map Member.bare = pairs.map named := by
  induction h generalizing fuel with
  | @close b hb =>
      obtain ⟨fuel, rfl⟩ := Nat.exists_eq_add_of_lt hfuel
      have hfront : skipBlanks (b ++ '\x7d' :: tail) = '\x7d' :: tail :=
        skipBlanks_append_cons hb (by decide) tail
      refine ⟨[], ?_, rfl⟩
      rw [List.append_assoc, List.singleton_append]
      simp only [readMembers?, hfront]
      rfl
  | @last empty b b' b'' k v key name hb hk hb' hv hb'' =>
      obtain ⟨fuel, rfl⟩ : ∃ n, fuel = n + 2 := Nat.exists_eq_add_of_le' hfuel
      have hclose : skipBlanks (b'' ++ '\x7d' :: tail) = '\x7d' :: tail :=
        skipBlanks_append_cons hb'' (by decide) tail
      have hquote : Unquoted (b'' ++ '\x7d' :: tail) :=
        unquoted_of_blank hb'' (by decide) (by decide) tail
      obtain ⟨member, hmember, hread⟩ :=
        readMembers?_last hb hk hb' hv hquote hclose empty fuel depth
      refine ⟨[member], ?_, ?_⟩
      · simp only [List.append_assoc, List.cons_append, List.nil_append]
        exact hread
      · rw [List.map_singleton, hmember]
        rfl
  | @more empty b b' b'' k v w key name pairs hb hk hb' hv hb'' _ ih =>
      obtain ⟨fuel, rfl⟩ : ∃ n, fuel = n + 2 :=
        Nat.exists_eq_add_of_le' (Nat.lt_of_le_of_lt (Nat.succ_le_succ (Nat.zero_le _)) hfuel)
      have hcomma : skipBlanks (b'' ++ ',' :: (w ++ tail)) = ',' :: (w ++ tail) :=
        skipBlanks_append_cons hb'' (by decide) _
      have hquote : Unquoted (b'' ++ ',' :: (w ++ tail)) :=
        unquoted_of_blank hb'' (by decide) (by decide) _
      obtain ⟨member, hmember, hread⟩ :=
        readMembers?_more hb hk hb' hv hquote hcomma empty fuel depth
      obtain ⟨members, hmembers, hbare⟩ := ih (Nat.lt_of_succ_lt_succ hfuel)
      refine ⟨member :: members, ?_, ?_⟩
      · rw [hmembers] at hread
        simp only [List.append_assoc, List.cons_append]
        exact hread
      · rw [List.map_cons, List.map_cons, hmember, hbare]

/-! ## Any value -/

theorem keyNames_of_bare {members : List Member} {pairs : List (String × String)}
    (h : members.map Member.bare = pairs.map named) : keyNames members = pairs.map Prod.fst := by
  have hfirst := congrArg (List.map Prod.fst) h
  rw [List.map_map, List.map_map] at hfirst
  exact hfirst

/-- **A value is read** up to what follows it, unless it is a table that gives a key twice; such a
table is refused. -/
theorem readValue?_of_valueForm {w : List Char} {content : Content} (h : ValueForm w content)
    {tail : List Char} (htail : Unquoted tail) {fuel : Nat} (hfuel : w.length < fuel) :
    (content.Distinct → ∃ extent value,
        readValue? fuel 0 (w ++ tail) = some ((extent, value), tail) ∧ value.Holds content)
      ∧ (¬ content.Distinct → readValue? fuel 0 (w ++ tail) = none) := by
  obtain ⟨fuel, rfl⟩ : ∃ n, fuel = n + 1 :=
    Nat.exists_eq_add_of_le' (Nat.lt_of_le_of_lt (Nat.zero_le _) hfuel)
  cases h with
  | text htext =>
      obtain ⟨extent, hread⟩ := readValue?_of_textForm htext htail fuel 0
      exact ⟨fun _ => ⟨extent, _, hread, .text⟩, fun h => absurd trivial h⟩
  | @list w names hitems =>
      have hlength : names.length < fuel := by
        have := hitems.length_lt
        simp only [List.length_cons] at hfuel
        omega
      obtain ⟨items, hread, hnames⟩ := readItems?_of_itemsForm hitems tail hlength 1
      refine ⟨fun _ => ⟨⟨('[' :: (w ++ tail)).length, tail.length⟩, _, ?_, .list hnames⟩,
        fun h => absurd trivial h⟩
      rw [List.cons_append, readValue?, if_pos (by decide), hread]
      rfl
  | @table w pairs hpairs =>
      have hlength : pairs.length < fuel := by
        have := hpairs.length_lt
        simp only [List.length_cons] at hfuel
        omega
      obtain ⟨members, hread, hbare⟩ := readMembers?_of_membersForm hpairs tail hlength 1
      -- The members are read in any case; whether they make a table is up to their names.
      have hvalue : readValue? (fuel + 1) 0 ('\x7b' :: w ++ tail)
          = (appendAll [] members).map fun members =>
              ((⟨('\x7b' :: (w ++ tail)).length, tail.length⟩, .table .inline members), tail) := by
        rw [List.cons_append, readValue?, if_pos (by decide), hread]
        simp only [assembleInline?_map]
      have hnone : (keyNames []).Nodup := List.nodup_nil
      rw [hvalue, appendAll_eq hnone, List.nil_append, keyNames_of_bare hbare]
      constructor
      · intro (hdistinct : (pairs.map Prod.fst).Nodup)
        rw [if_pos hdistinct]
        exact ⟨_, _, rfl, .table hbare⟩
      · intro (hrepeats : ¬ (pairs.map Prod.fst).Nodup)
        rw [if_neg hrepeats]
        rfl

end Toml

end GlyphBook
