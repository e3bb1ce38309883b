import GlyphBook.Proofs.Toml.Spelling
import GlyphBook.Proofs.Toml.Steady

/-!
# Readers that leave the lines behind them alone

A string in triple quotes may run over several lines, and a list or a table in braces may hold one.
Such a value is still read without regard to the lines behind the one on which it ends: put other
lines there, and the same is read (`Keeps`). For strings the reason is that a string is told by the
characters it is written with, except that more quotes may stand behind the closing ones
(`Closes`). For values that keep to their line it is that they do so at all (`Steady.keeps`).
-/

namespace GlyphBook

namespace Toml

/-! ## Strings in triple quotes -/

/-- Behind `w` the reader stops, whatever follows, unless that goes on with a quote. -/
def Closes (read : List Char → Option (List Char × List Char)) (quote : Char)
    (w text after : List Char) : Prop :=
  ∀ after', (after'.head? = some quote → after.head? = some quote) →
    read (w ++ after') = some (text, after')

theorem closeTriple_of_ne {quote : Char} {cs : List Char} (h : cs.head? ≠ some quote) :
    closeTriple quote cs = ([], cs) := by
  rcases cs with _ | ⟨a, _ | ⟨b, rest⟩⟩
  · rfl
  · exact if_neg fun ha => h (congrArg some ha)
  · exact if_neg fun ha => h (congrArg some ha)

theorem closeTriple_one {quote : Char} {cs : List Char} (h : cs.head? ≠ some quote) :
    closeTriple quote (quote :: cs) = ([quote], cs) := by
  cases cs with
  | nil => exact if_pos rfl
  | cons b rest => exact (if_pos rfl).trans (if_neg fun hb => h (congrArg some hb))

theorem closeTriple_two (quote : Char) (cs : List Char) :
    closeTriple quote (quote :: quote :: cs) = ([quote, quote], cs) := by
  simp [closeTriple]

theorem closeTriple_front {quote : Char} {cs text after : List Char}
    (h : closeTriple quote cs = (text, after)) :
    ∃ w, cs = w ++ after ∧
      Closes (fun cs => some (closeTriple quote cs)) quote w text after := by
  by_cases hne : cs.head? = some quote
  · obtain ⟨rest, rfl⟩ := List.head?_eq_some_iff.mp hne
    by_cases hne' : rest.head? = some quote
    · obtain ⟨rest, rfl⟩ := List.head?_eq_some_iff.mp hne'
      obtain ⟨rfl, rfl⟩ := Prod.mk.inj ((closeTriple_two quote rest).symm.trans h)
      exact ⟨[quote, quote], rfl, fun after' _ => congrArg some (closeTriple_two quote after')⟩
    · obtain ⟨rfl, rfl⟩ := Prod.mk.inj ((closeTriple_one hne').symm.trans h)
      exact ⟨[quote], rfl, fun after' hafter =>
        congrArg some (closeTriple_one (mt hafter hne'))⟩
  · obtain ⟨rfl, rfl⟩ := Prod.mk.inj ((closeTriple_of_ne hne).symm.trans h)
    exact ⟨[], rfl, fun after' hafter => congrArg some (closeTriple_of_ne (mt hafter hne))⟩

/-- Where three quotes do not stand, they do not stand before another rest either. -/
theorem not_quotes_append {c quote : Char} {w after : List Char} (hlength : 3 ≤ w.length)
    (h : ∀ rest, c = quote → w ++ after = quote :: quote :: rest → False) (after' : List Char) :
    ∀ rest, c = quote → w ++ after' = quote :: quote :: rest → False := by
  intro rest hc heq
  rcases w with _ | ⟨a, _ | ⟨b, w⟩⟩
  · cases hlength
  · exact absurd hlength (by simp)
  · obtain ⟨ha, hlater⟩ := List.cons.inj heq
    obtain ⟨hb, -⟩ := List.cons.inj hlater
    exact h (w ++ after) hc (by rw [ha, hb]; rfl)

theorem readLiteralLines?_front {cs text after : List Char}
    (h : readLiteralLines? cs = some (text, after)) :
    ∃ w, cs = w ++ after ∧ 3 ≤ w.length ∧ Closes readLiteralLines? '\x27' w text after := by
  fun_induction readLiteralLines? cs generalizing text after with
  | case1 => cases h
  | case2 rest ih =>
      obtain ⟨text, hread, rfl⟩ := push_eq_some_iff.mp h
      obtain ⟨w, rfl, hlength, hw⟩ := ih hread
      refine ⟨'\n' :: w, rfl, Nat.le_succ_of_le hlength, fun after' hafter => ?_⟩
      rw [List.cons_append, readLiteralLines?, hw after' hafter]
      rfl
  | case3 rest ih =>
      obtain ⟨text, hread, rfl⟩ := push_eq_some_iff.mp h
      obtain ⟨w, rfl, hlength, hw⟩ := ih hread
      refine ⟨'\r' :: '\n' :: w, rfl, Nat.le_succ_of_le (Nat.le_succ_of_le hlength),
        fun after' hafter => ?_⟩
      rw [List.cons_append, List.cons_append, readLiteralLines?, hw after' hafter]
      rfl
  | case4 rest =>
      obtain ⟨w, rfl, hw⟩ := closeTriple_front (Option.some.inj h)
      refine ⟨'\x27' :: '\x27' :: '\x27' :: w, rfl, by simp, fun after' hafter => ?_⟩
      exact hw after' hafter
  | case5 c rest hnewline hreturn hquote hc ih =>
      obtain ⟨text, hread, rfl⟩ := push_eq_some_iff.mp h
      obtain ⟨w, rfl, hlength, hw⟩ := ih hread
      refine ⟨c :: w, rfl, Nat.le_succ_of_le hlength, fun after' hafter => ?_⟩
      rw [List.cons_append, readLiteralLines?, if_pos hc, hw after' hafter]
      · rfl
      · exact hnewline
      · rintro _ rfl
        cases hc
      · exact not_quotes_append hlength hquote after'
  | case6 => cases h

theorem readBasicLines?_front {fold : Fold} {cs text after : List Char}
    (h : readBasicLines? fold cs = some (text, after)) :
    ∃ w, cs = w ++ after ∧ 3 ≤ w.length ∧ Closes (readBasicLines? fold) '"' w text after := by
  fun_induction readBasicLines? fold cs generalizing text after with
  | case2 rest ih =>
      obtain ⟨text, hread, rfl⟩ := push_eq_some_iff.mp h
      obtain ⟨w, rfl, hlength, hw⟩ := ih hread
      refine ⟨'\n' :: w, rfl, Nat.le_succ_of_le hlength, fun after' hafter => ?_⟩
      rw [List.cons_append, readBasicLines?, if_pos rfl, hw after' hafter]
      rfl
  | case3 fold rest hfold ih =>
      obtain ⟨w, rfl, hlength, hw⟩ := ih h
      refine ⟨'\n' :: w, rfl, Nat.le_succ_of_le hlength, fun after' hafter => ?_⟩
      rw [List.cons_append, readBasicLines?, if_neg hfold, hw after' hafter]
  | case4 rest ih =>
      obtain ⟨text, hread, rfl⟩ := push_eq_some_iff.mp h
      obtain ⟨w, rfl, hlength, hw⟩ := ih hread
      refine ⟨'\r' :: '\n' :: w, rfl, Nat.le_succ_of_le (Nat.le_succ_of_le hlength),
        fun after' hafter => ?_⟩
      rw [List.cons_append, List.cons_append, readBasicLines?, if_pos rfl, hw after' hafter]
      rfl
  | case5 fold rest hfold ih =>
      obtain ⟨w, rfl, hlength, hw⟩ := ih h
      refine ⟨'\r' :: '\n' :: w, rfl, Nat.le_succ_of_le (Nat.le_succ_of_le hlength),
        fun after' hafter => ?_⟩
      rw [List.cons_append, List.cons_append, readBasicLines?, if_neg hfold, hw after' hafter]
  | case7 fold rest hfold =>
      obtain ⟨w, rfl, hw⟩ := closeTriple_front (Option.some.inj h)
      refine ⟨'"' :: '"' :: '"' :: w, rfl, by simp, fun after' hafter => ?_⟩
      simp only [List.cons_append]
      rw [readBasicLines?, if_neg hfold]
      exact hw after' hafter
  | case9 fold p q r s rest hfold ih =>
      obtain ⟨c, hc, hpush⟩ := Option.bind_eq_some_iff.mp h
      obtain ⟨text, hread, rfl⟩ := push_eq_some_iff.mp hpush
      obtain ⟨w, rfl, hlength, hw⟩ := ih hread
      refine ⟨'\\' :: 'u' :: p :: q :: r :: s :: w, rfl, by simp, fun after' hafter => ?_⟩
      simp only [List.cons_append]
      rw [readBasicLines?, if_neg hfold, hc, Option.bind_some, hw after' hafter]
      rfl
  | case11 fold p q r s p' q' r' s' rest hfold ih =>
      obtain ⟨c, hc, hpush⟩ := Option.bind_eq_some_iff.mp h
      obtain ⟨text, hread, rfl⟩ := push_eq_some_iff.mp hpush
      obtain ⟨w, rfl, hlength, hw⟩ := ih hread
      refine ⟨'\\' :: 'U' :: p :: q :: r :: s :: p' :: q' :: r' :: s' :: w, rfl, by simp,
        fun after' hafter => ?_⟩
      simp only [List.cons_append]
      rw [readBasicLines?, if_neg hfold, hc, Option.bind_some, hw after' hafter]
      rfl
  | case13 fold rest hfold ih =>
      obtain ⟨w, rfl, hlength, hw⟩ := ih h
      refine ⟨'\\' :: '\n' :: w, rfl, Nat.le_succ_of_le (Nat.le_succ_of_le hlength),
        fun after' hafter => ?_⟩
      rw [List.cons_append, List.cons_append, readBasicLines?, if_neg hfold, hw after' hafter]
  | case15 fold rest hfold ih =>
      obtain ⟨w, rfl, hlength, hw⟩ := ih h
      refine ⟨'\\' :: '\r' :: '\n' :: w, rfl, by simp, fun after' hafter => ?_⟩
      simp only [List.cons_append]
      rw [readBasicLines?, if_neg hfold, hw after' hafter]
  | case17 fold e rest _ _ _ _ hfold c hc ih =>
      obtain ⟨text, hread, rfl⟩ := push_eq_some_iff.mp h
      obtain ⟨w, rfl, hlength, hw⟩ := ih hread
      refine ⟨'\\' :: e :: w, rfl, Nat.le_succ_of_le (Nat.le_succ_of_le hlength),
        fun after' hafter => ?_⟩
      have hne {d : Char} (hd : shortEscape? d = none) : e ≠ d := by
        rintro rfl
        rw [hd] at hc
        cases hc
      rw [List.cons_append, List.cons_append, readBasicLines?, if_neg hfold, hc]
      · exact congrArg (push c) (hw after' hafter)
      · exact fun _ _ _ _ _ h => absurd h (hne rfl)
      · exact fun _ _ _ _ _ _ _ _ _ h => absurd h (hne rfl)
      · exact hne rfl
      · exact fun _ h => absurd h (hne rfl)
  | case18 fold e rest _ _ _ _ hfold hc he ih =>
      obtain ⟨w, rfl, hlength, hw⟩ := ih h
      refine ⟨'\\' :: e :: w, rfl, Nat.le_succ_of_le (Nat.le_succ_of_le hlength),
        fun after' hafter => ?_⟩
      rw [List.cons_append, List.cons_append, readBasicLines?, if_neg hfold, hc]
      · exact (if_pos he).trans (hw after' hafter)
      all_goals rcases he with rfl | rfl <;> simp
  | case20 fold c rest _ _ hquote _ _ _ _ _ hc ih =>
      obtain ⟨w, rfl, hlength, hw⟩ := ih h
      refine ⟨c :: w, rfl, Nat.le_succ_of_le hlength, fun after' hafter => ?_⟩
      rw [List.cons_append, readBasicLines?, if_pos hc, hw after' hafter]
      all_goals rcases hc.1 with rfl | rfl <;> simp
  | case22 fold c rest hnewline _ hquote _ _ _ _ _ hblank hsought hc ih =>
      obtain ⟨text, hread, rfl⟩ := push_eq_some_iff.mp h
      obtain ⟨w, rfl, hlength, hw⟩ := ih hread
      refine ⟨c :: w, rfl, Nat.le_succ_of_le hlength, fun after' hafter => ?_⟩
      have hreturn : c ≠ '\r' := by
        rintro rfl
        cases hc.1
      rw [List.cons_append, readBasicLines?, if_neg hblank, if_neg hsought, if_pos hc,
        hw after' hafter]
      · rfl
      · exact hnewline
      · exact fun _ h => absurd h hreturn
      · exact not_quotes_append hlength hquote after'
      all_goals intros; exact hc.2 (by assumption)
  | _ => cases h

/-! ## Other lines behind -/

/-- What the reader takes in front of the end of a line does not depend on the lines behind. -/
structure Keeps (read : List Char → Option (α × List Char)) : Prop where
  suffix {cs after : List Char} {x : α} : read cs = some (x, after) → after <:+ cs
  keep {u v t t' : List Char} {x : α} : LineEnd t → LineEnd t' →
    read (u ++ t) = some (x, v ++ t) → read (u ++ t') = some (x, v ++ t')

theorem Steady.keeps {read : List Char → Option (α × List Char)} (h : Steady read) :
    Keeps read where
  suffix := h.suffix
  keep {u v t t' x} ht ht' hread := by
    rw [h.append u ht, Option.map_eq_some_iff] at hread
    obtain ⟨⟨x', v'⟩, hread, heq⟩ := hread
    obtain ⟨rfl, hafter⟩ := Prod.mk.inj heq
    obtain rfl := List.append_cancel_right hafter
    rw [h.append u ht', hread]
    rfl

theorem exists_append_of_suffix {v t rest : List α} (h : v ++ t <:+ rest) :
    ∃ p, rest = p ++ v ++ t := by
  obtain ⟨p, rfl⟩ := h
  exact ⟨p, (List.append_assoc ..).symm⟩

namespace Keeps

theorem congr {read read' : List Char → Option (α × List Char)} (h : Keeps read')
    (heq : ∀ cs, read cs = read' cs) : Keeps read := by
  rwa [show read = read' from funext heq]

theorem none : Keeps fun _ => (Option.none : Option (α × List Char)) := Steady.none.keeps

/-- A token that keeps to its line decides what is read next. -/
theorem choose {first : List Char → Option (α × List Char)}
    {later : α → List Char → Option (β × List Char)} {other : List Char → Option (β × List Char)}
    (h : Steady first) (hlater : ∀ x, Keeps (later x)) (hother : Keeps other) :
    Keeps fun cs => (first cs).elim (other cs) fun p => later p.1 p.2 where
  suffix {cs after y} hread := by
    cases hfirst : first cs with
    | none =>
        rw [hfirst] at hread
        exact hother.suffix hread
    | some p =>
        rw [hfirst] at hread
        exact ((hlater p.1).suffix hread).trans (h.suffix hfirst)
  keep {u v t t' y} ht ht' hread := by
    rw [h.append u ht] at hread
    rw [h.append u ht']
    cases hfirst : first u with
    | none =>
        rw [hfirst] at hread
        exact hother.keep ht ht' hread
    | some p =>
        rw [hfirst] at hread
        exact (hlater p.1).keep ht ht' hread

theorem bind {first : List Char → Option (α × List Char)}
    {later : α → List Char → Option (β × List Char)} (h : Keeps first)
    (hlater : ∀ x, Keeps (later x)) : Keeps fun cs => (first cs).bind fun p => later p.1 p.2 where
  suffix {cs after y} hread := by
    obtain ⟨⟨x, rest⟩, hfirst, hnext⟩ := Option.bind_eq_some_iff.mp hread
    exact ((hlater x).suffix hnext).trans (h.suffix hfirst)
  keep {u v t t' y} ht ht' hread := by
    obtain ⟨⟨x, rest⟩, hfirst, hnext⟩ := Option.bind_eq_some_iff.mp hread
    obtain ⟨p, rfl⟩ := exists_append_of_suffix ((hlater x).suffix hnext)
    exact Option.bind_eq_some_iff.mpr
      ⟨_, h.keep ht ht' hfirst, (hlater x).keep ht ht' hnext⟩

theorem map {first : List Char → Option (α × List Char)} (h : Keeps first) (f : α → β) :
    Keeps fun cs => (first cs).map fun p => (f p.1, p.2) := by
  have hbind := h.bind fun x => (Steady.pure (f x)).keeps
  rwa [show (fun cs => (first cs).map fun p => (f p.1, p.2))
    = fun cs => (first cs).bind fun p => some (f p.1, p.2) from
    funext fun cs => by cases first cs <;> rfl]

theorem ite {c : Prop} [Decidable c] {read other : List Char → Option (α × List Char)}
    (h : Keeps read) (hother : Keeps other) : Keeps fun cs => if c then read cs else other cs := by
  by_cases hc : c
  · simpa only [if_pos hc] using h
  · simpa only [if_neg hc] using hother

/-- A reader that the first character of the text sends on to others. No token begins with the end
of a line. -/
theorem headed {read : List Char → Option (α × List Char)}
    {later : Char → List Char → Option (α × List Char)}
    (hend : ∀ {t}, LineEnd t → read t = Option.none)
    (hcons : ∀ c cs, c ≠ '\n' → read (c :: cs) = later c (c :: cs))
    (h : ∀ c, Keeps (later c)) : Keeps read where
  suffix {cs after x} hread := by
    cases cs with
    | nil =>
        rw [hend .stop] at hread
        cases hread
    | cons c cs =>
        by_cases hc : c = '\n'
        · rw [hc, hend .newline] at hread
          cases hread
        · rw [hcons c cs hc] at hread
          exact (h c).suffix hread
  keep {u v t t' x} ht ht' hread := by
    cases u with
    | nil =>
        rw [List.nil_append, hend ht] at hread
        cases hread
    | cons c u =>
        by_cases hc : c = '\n'
        · rw [hc, List.cons_append, hend .newline] at hread
          cases hread
        · rw [List.cons_append, hcons c _ hc, ← List.cons_append] at hread ⊢
          exact (h c).keep ht ht' hread

end Keeps

/-! ## Strings -/

theorem LineEnd.head?_ne {t : List Char} (h : LineEnd t) {c : Char} (hc : c ≠ '\n') :
    t.head? ≠ some c := by
  cases h with
  | stop => exact fun heq => nomatch heq
  | newline => exact fun heq => hc (Option.some.inj heq).symm

theorem length_dropFirstNewline_le (cs : List Char) : (dropFirstNewline cs).length ≤ cs.length := by
  fun_cases dropFirstNewline cs with
  | case1 rest => exact Nat.le_succ _
  | case2 rest => exact Nat.le_add_right _ 2
  | case3 => exact Nat.le_refl _

/-- Where the string goes on for two more characters, the lines behind play no part. -/
theorem dropFirstNewline_append {u : List Char} (h : 2 ≤ u.length) (t : List Char) :
    dropFirstNewline (u ++ t) = dropFirstNewline u ++ t := by
  rcases u with _ | ⟨a, _ | ⟨b, u⟩⟩
  · cases h
  · exact absurd h (by simp)
  · by_cases hfeed : a = '\n'
    · subst hfeed
      rfl
    · by_cases hreturn : a = '\r' ∧ b = '\n'
      · obtain ⟨rfl, rfl⟩ := hreturn
        rfl
      · have hkeep (cs : List Char) : dropFirstNewline (a :: b :: cs) = a :: b :: cs := by
          rw [dropFirstNewline]
          · exact fun _ h => hfeed (List.cons.inj h).1
          · exact fun _ h => hreturn
              ⟨(List.cons.inj h).1, (List.cons.inj (List.cons.inj h).2).1⟩
        exact (hkeep (u ++ t)).trans (congrArg (· ++ t) (hkeep u).symm)

/-- A string over several lines is told by what it is written with. -/
theorem keeps_of_front {quote : Char} {read : List Char → Option (List Char × List Char)}
    (hquote : quote ≠ '\n')
    (hfront : ∀ {cs text after}, read cs = some (text, after) →
      ∃ w, cs = w ++ after ∧ 3 ≤ w.length ∧ Closes read quote w text after) :
    Keeps fun cs => read (dropFirstNewline cs) where
  suffix {cs after x} hread := by
    obtain ⟨w, hw, -, -⟩ := hfront hread
    have hdrop : dropFirstNewline cs <:+ cs := by
      fun_cases dropFirstNewline cs with
      | case1 rest => exact List.suffix_cons _ _
      | case2 rest => exact (List.suffix_cons _ _).trans (List.suffix_cons _ _)
      | case3 => exact List.suffix_refl _
    exact (hw ▸ List.suffix_append w after).trans hdrop
  keep {u v t t' x} ht ht' hread := by
    obtain ⟨w, hw, hlength, hcloses⟩ := hfront hread
    have hu : 2 ≤ u.length := by
      have hle := length_dropFirstNewline_le (u ++ t)
      rw [hw] at hle
      simp only [List.length_append] at hle
      omega
    rw [dropFirstNewline_append hu] at hw ⊢
    rw [← List.append_assoc] at hw
    rw [List.append_cancel_right hw, List.append_assoc]
    refine hcloses (v ++ t') fun hhead => ?_
    cases v with
    | nil => exact absurd hhead (ht'.head?_ne hquote)
    | cons c v => exact hhead

theorem keeps_readBasic : Keeps readBasic? where
  suffix hread := by
    obtain ⟨w, rfl, -⟩ := readBasic?_eq_some_iff.mp hread
    exact (List.suffix_cons _ _).trans (List.suffix_append _ _)
  keep {u v t t' x} _ _ hread := by
    obtain ⟨w, hw, hspells⟩ := readBasic?_eq_some_iff.mp hread
    have hsame : u ++ t = (w ++ '"' :: v) ++ t := by simpa using hw
    have hu := List.append_cancel_right hsame
    exact readBasic?_eq_some_iff.mpr ⟨w, by rw [hu]; simp, hspells⟩

theorem keeps_readLiteral : Keeps readLiteral? where
  suffix hread := by
    obtain ⟨rfl, -⟩ := readLiteral?_eq_some_iff.mp hread
    exact (List.suffix_cons _ _).trans (List.suffix_append _ _)
  keep {u v t t' x} _ _ hread := by
    obtain ⟨hw, hliteral⟩ := readLiteral?_eq_some_iff.mp hread
    have hsame : u ++ t = (x ++ '\x27' :: v) ++ t := by simpa using hw
    have hu := List.append_cancel_right hsame
    exact readLiteral?_eq_some_iff.mpr ⟨by rw [hu]; simp, hliteral⟩

/-- Two more of the quotes that begin a string. -/
theorem steady_twoQuotes {quote : Char} (hquote : quote ≠ '\n') : Steady fun cs =>
    (readOne? (· == quote) cs).bind fun p => readOne? (· == quote) p.2 :=
  (steady_readChar hquote).bind fun _ => steady_readChar hquote

theorem twoQuotes_eq_none {quote : Char} {cs : List Char}
    (h : ∀ rest, cs ≠ quote :: quote :: rest) :
    ((readOne? (· == quote) cs).bind fun p => readOne? (· == quote) p.2) = none := by
  rcases cs with _ | ⟨a, _ | ⟨b, rest⟩⟩
  · rfl
  · simp [readOne?]
  · rw [readOne?_bind_cons]
    by_cases ha : a = quote
    · have hb : b ≠ quote := fun hb => h rest (by rw [ha, hb])
      simp [readOne?_cons_of_ne hb]
    · simp [ha]

/-- A string from its first quote on. -/
theorem keeps_quoted {quote : Char} {many one : List Char → Option (List Char × List Char)}
    (hquote : quote ≠ '\n') (hmany : Keeps fun cs => many (dropFirstNewline cs))
    (hone : Keeps one) :
    Keeps fun cs => ((readOne? (· == quote) cs).bind fun p => readOne? (· == quote) p.2).elim
      (one cs) fun p => many (dropFirstNewline p.2) :=
  .choose (steady_twoQuotes hquote) (fun _ => hmany) hone

theorem keeps_readText : Keeps readText? := by
  have hbasic : Keeps fun cs => readBasicLines? .off (dropFirstNewline cs) :=
    keeps_of_front (show '"' ≠ '\n' by decide) readBasicLines?_front
  have hliteral : Keeps fun cs => readLiteralLines? (dropFirstNewline cs) :=
    keeps_of_front (show '\x27' ≠ '\n' by decide) readLiteralLines?_front
  have hdouble := keeps_quoted (show '"' ≠ '\n' by decide) hbasic keeps_readBasic
  have hsingle := keeps_quoted (show '\x27' ≠ '\n' by decide) hliteral keeps_readLiteral
  refine (Keeps.choose (steady_readChar (c := '"') (by decide))
    (fun _ => hdouble.map String.ofList)
    (.choose (steady_readChar (c := '\x27') (by decide))
      (fun _ => hsingle.map String.ofList) .none)).congr fun cs => ?_
  fun_cases readText? cs with
  | case1 rest => rfl
  | case2 rest h =>
      show _ = Option.map _ (Option.elim _ _ _)
      rw [twoQuotes_eq_none h]
      rfl
  | case3 => rfl
  | case4 rest h =>
      show _ = Option.map _ (Option.elim _ _ _)
      rw [twoQuotes_eq_none h]
      rfl
  | case5 cs _ hdouble _ hsingle =>
      cases cs with
      | nil => rfl
      | cons c rest =>
          rw [readOne?_cons_of_ne fun hc => hdouble rest (by rw [hc]),
            readOne?_cons_of_ne fun hc => hsingle rest (by rw [hc])]
          rfl

/-! ## Values that contain no other -/

/-- What a value that begins with `c` is read as. -/
def readAs? (c : Char) (cs : List Char) : Option (Value × List Char) :=
  if c = '"' ∨ c = '\x27' then (readText? cs).map fun p => (.text p.1, p.2)
  else if c = 't' ∨ c = 'f' then readBoolean? cs
  else if c = 'i' ∨ c = 'n' then readDoubleWord? cs
  else if c = '+' ∨ c = '-' ∨ isDigit c = true then
    readMoment? cs <|> readDecimal? cs <|> readDoubleWord? cs <|> readInteger? cs
  else none

theorem keeps_readAs (c : Char) : Keeps (readAs? c) :=
  .ite (keeps_readText.map Value.text) <| .ite steady_readBoolean.keeps <|
    .ite steady_readDoubleWord.keeps <| .ite
      (steady_readMoment.orElse <| steady_readDecimal.orElse <|
        steady_readDoubleWord.orElse steady_readInteger).keeps .none

theorem keeps_readScalar : Keeps readScalar? := by
  have hcons (c : Char) (cs : List Char) (_ : c ≠ '\n') :
      readScalar? (c :: cs) = readAs? c (c :: cs) := rfl
  refine .headed (fun ht => ?_) hcons keeps_readAs
  cases ht with
  | stop => rfl
  | newline => rfl

/-! ## Keys -/

theorem keeps_readKeyName : Keeps readKeyName? := by
  have hbare : Steady fun cs => (readOne? isBareKeyChar cs).bind fun p =>
      some (p.1 :: p.2.takeWhile isBareKeyChar, p.2.dropWhile isBareKeyChar) :=
    (steady_readOne (by decide)).bind fun c =>
      (steady_span (p := isBareKeyChar) (by decide)).map (c :: ·)
  refine (Keeps.choose (steady_readChar (c := '"') (by decide)) (fun _ => keeps_readBasic)
    (.choose (steady_readChar (c := '\x27') (by decide)) (fun _ => keeps_readLiteral)
      hbare.keeps)).congr fun cs => ?_
  fun_cases readKeyName? cs with
  | case1 => rfl
  | case2 => rfl
  | case3 cs hdouble hsingle h =>
      cases cs with
      | nil => rfl
      | cons c rest =>
          rw [readOne?_cons_of_ne fun hc => hdouble rest (by rw [hc]),
            readOne?_cons_of_ne fun hc => hsingle rest (by rw [hc])]
          rw [readOne?_bind_cons]
          by_cases hc : isBareKeyChar c = true
          · rw [List.takeWhile_cons_of_pos hc] at h
            cases h
          · rw [if_neg hc]
            rfl
  | case4 cs hdouble hsingle h =>
      cases cs with
      | nil => exact absurd rfl h
      | cons c rest =>
          rw [readOne?_cons_of_ne fun hc => hdouble rest (by rw [hc]),
            readOne?_cons_of_ne fun hc => hsingle rest (by rw [hc]), readOne?_bind_cons]
          by_cases hc : isBareKeyChar c = true
          · rw [List.takeWhile_cons_of_pos hc, List.dropWhile_cons_of_pos hc, if_pos hc]
            rfl
          · exact absurd (List.takeWhile_cons_of_neg hc) h

end Toml

end GlyphBook
