import GlyphBook.Toml.Reader
import Mathlib.Data.List.Infix

/-!
# Readers that keep to their line

Numbers, words, dates and times stand on one line, and what is read of them does not depend on the
lines behind: with more lines added the reader takes the same, and leaves the new lines over
(`Steady`). It cannot be enough to look at the characters that are taken, because each of these
readers looks beyond them to see where its token stops.

Each reader here is written as simpler ones put together, with the tests of its own branches, and
`Steady` is closed under the ways of doing that.
-/

namespace GlyphBook

namespace Toml

/-- The text is at the end of a line, or at its own. -/
inductive LineEnd : List Char → Prop where
  | stop : LineEnd []
  | newline {rest : List Char} : LineEnd ('\n' :: rest)

/-- The reader takes a front of the text, and no more than it would take if its line were the last
one. -/
structure Steady (read : List Char → Option (α × List Char)) : Prop where
  suffix {cs after : List Char} {x : α} : read cs = some (x, after) → after <:+ cs
  append (cs : List Char) {t : List Char} :
    LineEnd t → read (cs ++ t) = (read cs).map fun (x, after) => (x, after ++ t)

namespace Steady

theorem congr {read read' : List Char → Option (α × List Char)} (h : Steady read')
    (heq : ∀ cs, read cs = read' cs) : Steady read := by
  rwa [show read = read' from funext heq]

theorem pure (x : α) : Steady fun cs => some (x, cs) where
  suffix h := by
    obtain ⟨-, rfl⟩ := Prod.mk.inj (Option.some.inj h)
    exact List.suffix_refl _
  append _ _ _ := rfl

theorem none : Steady fun _ => (Option.none : Option (α × List Char)) where
  suffix h := nomatch h
  append _ _ _ := rfl

/-- What is read first decides what is read next. -/
theorem choose {first : List Char → Option (α × List Char)}
    {later : α → List Char → Option (β × List Char)} {other : List Char → Option (β × List Char)}
    (h : Steady first) (hlater : ∀ x, Steady (later x)) (hother : Steady other) :
    Steady fun cs => (first cs).elim (other cs) fun p => later p.1 p.2 where
  suffix {cs after x} hread := by
    cases hfirst : first cs with
    | none =>
        rw [hfirst] at hread
        exact hother.suffix hread
    | some p =>
        rw [hfirst] at hread
        exact ((hlater p.1).suffix hread).trans (h.suffix hfirst)
  append cs t ht := by
    rw [h.append cs ht]
    cases first cs with
    | none => exact hother.append cs ht
    | some p => exact (hlater p.1).append p.2 ht

theorem bind {first : List Char → Option (α × List Char)}
    {later : α → List Char → Option (β × List Char)} (h : Steady first)
    (hlater : ∀ x, Steady (later x)) :
    Steady fun cs => (first cs).bind fun p => later p.1 p.2 :=
  (h.choose hlater none).congr fun cs => by cases first cs <;> rfl

theorem map {first : List Char → Option (α × List Char)} (h : Steady first) (f : α → β) :
    Steady fun cs => (first cs).map fun p => (f p.1, p.2) :=
  (h.bind fun x => pure (f x)).congr fun cs => by cases first cs <;> rfl

theorem orElse {first other : List Char → Option (α × List Char)} (h : Steady first)
    (hother : Steady other) : Steady fun cs => (first cs <|> other cs) :=
  (h.choose pure hother).congr fun cs => by cases first cs <;> rfl

theorem optional {first : List Char → Option (α × List Char)} (h : Steady first) (x : α) :
    Steady fun cs => some ((first cs).getD (x, cs)) :=
  (h.choose pure (.pure x)).congr fun cs => by cases first cs <;> rfl

end Steady

/-- A reader that only says what is left, as one that gives a value too. -/
def skipping (skip : List Char → Option (List Char)) (cs : List Char) : Option (Unit × List Char) :=
  (skip cs).map fun after => ((), after)

/-- One character that passes a test. -/
def readOne? (p : Char → Bool) : List Char → Option (Char × List Char)
  | c :: rest => if p c then some (c, rest) else none
  | [] => none

theorem readOne?_bind_nil (p : Char → Bool) (f : Char × List Char → Option β) :
    (readOne? p []).bind f = none := by
  rw [readOne?, Option.bind_none]

theorem readOne?_bind_cons (p : Char → Bool) (c : Char) (rest : List Char)
    (f : Char × List Char → Option β) :
    (readOne? p (c :: rest)).bind f = if p c then f (c, rest) else none := by
  rw [readOne?]
  split <;> rfl

theorem steady_readOne {p : Char → Bool} (hp : p '\n' = false) : Steady (readOne? p) where
  suffix {cs after x} h := by
    cases cs with
    | nil => cases h
    | cons c rest =>
        rw [readOne?] at h
        split at h
        · obtain ⟨-, rfl⟩ := Prod.mk.inj (Option.some.inj h)
          exact List.suffix_cons c _
        · cases h
  append cs t ht := by
    cases cs with
    | nil =>
        cases ht with
        | stop => rfl
        | newline => simp [readOne?, hp]
    | cons c rest =>
        simp only [List.cons_append, readOne?]
        split <;> rfl

theorem steady_span {p : Char → Bool} (hp : p '\n' = false) :
    Steady fun cs => some (cs.takeWhile p, cs.dropWhile p) where
  suffix h := by
    obtain ⟨-, rfl⟩ := Prod.mk.inj (Option.some.inj h)
    exact List.dropWhile_suffix p
  append cs t ht := by
    have hend : t.takeWhile p = [] ∧ t.dropWhile p = t := by
      cases ht with
      | stop => exact ⟨rfl, rfl⟩
      | newline =>
          have hneg : ¬ p '\n' = true := by rw [hp]; exact Bool.false_ne_true
          exact ⟨List.takeWhile_cons_of_neg hneg, List.dropWhile_cons_of_neg hneg⟩
    have happend : (cs ++ t).takeWhile p = cs.takeWhile p
        ∧ (cs ++ t).dropWhile p = cs.dropWhile p ++ t := by
      induction cs with
      | nil => exact hend
      | cons c cs ih =>
          rw [List.cons_append, List.takeWhile_cons, List.dropWhile_cons, List.takeWhile_cons,
            List.dropWhile_cons, ih.1, ih.2]
          split
          · exact ⟨rfl, rfl⟩
          · exact ⟨rfl, rfl⟩
    rw [happend.1, happend.2]
    rfl

theorem steady_dropWhile {p : Char → Bool} (hp : p '\n' = false) :
    Steady fun cs => some ((), cs.dropWhile p) :=
  (steady_span hp).map fun _ => ()

/-! ## Runs of digits -/

theorem moreDigits_suffix (p : Char → Bool) (cs : List Char) : (moreDigits p cs).2 <:+ cs := by
  fun_induction moreDigits p cs with
  | case1 c rest _ digits after heq ih =>
      rw [heq] at ih
      exact ih.trans ((List.suffix_cons c rest).trans (List.suffix_cons _ _))
  | case2 => exact List.suffix_refl _
  | case3 c rest _ _ digits after heq ih =>
      rw [heq] at ih
      exact ih.trans (List.suffix_cons c rest)
  | case4 => exact List.suffix_refl _
  | case5 => exact List.suffix_refl _

theorem moreDigits_append {p : Char → Bool} (hp : p '\n' = false) (hscore : p '_' = false)
    (cs : List Char) {t : List Char} (ht : LineEnd t) :
    moreDigits p (cs ++ t) = ((moreDigits p cs).1, (moreDigits p cs).2 ++ t) := by
  have hend : moreDigits p t = ([], t) := by
    cases ht with
    | stop => rfl
    | newline => simp [moreDigits, hp]
  fun_induction moreDigits p cs with
  | case1 c rest hc digits after heq ih =>
      rw [heq] at ih
      simp [moreDigits, hc, ih]
  | case2 c rest hc => simp [moreDigits, hc]
  | case3 c rest hne hc digits after heq ih =>
      have hc' : c ≠ '_' := by
        rintro rfl
        rw [hscore] at hc
        cases hc
      rw [heq] at ih
      rw [List.cons_append, moreDigits, if_pos hc, ih]
      exact fun _ _ h => absurd h hc'
  | case4 c rest hne hc =>
      by_cases hc' : c = '_'
      · subst hc'
        cases rest with
        | cons d rest => exact absurd rfl (hne d rest rfl)
        | nil =>
            cases ht with
            | stop => simp [moreDigits, hscore]
            | newline => simp [moreDigits, hp]
      · rw [List.cons_append, moreDigits, if_neg hc]
        exact fun _ _ h => absurd h hc'
  | case5 => exact hend

/-- A digit is neither a line end nor an underscore. -/
structure Digits (p : Char → Bool) : Prop where
  newline : p '\n' = false
  underscore : p '_' = false

theorem digits_isDigit : Digits isDigit := ⟨by decide, by decide⟩

theorem steady_moreDigits {p : Char → Bool} (h : Digits p) :
    Steady fun cs => some (moreDigits p cs) where
  suffix {cs after x} hread := by
    have hafter : (moreDigits p cs).2 = after := congrArg Prod.snd (Option.some.inj hread)
    exact hafter ▸ moreDigits_suffix p cs
  append cs t ht := congrArg some (moreDigits_append h.newline h.underscore cs ht)

theorem steady_someDigits {p : Char → Bool} (h : Digits p) : Steady (someDigits? p) := by
  refine ((steady_readOne h.newline).bind fun c =>
    (steady_moreDigits h).map fun digits => c :: digits).congr fun cs => ?_
  cases cs with
  | nil => rfl
  | cons c rest =>
      simp only [someDigits?, readOne?]
      split <;> rfl

/-- A given character. -/
theorem steady_readChar {c : Char} (hc : c ≠ '\n') : Steady (readOne? (· == c)) :=
  steady_readOne (beq_eq_false_iff_ne.mpr hc.symm)

theorem readOne?_cons_of_ne {c d : Char} (h : d ≠ c) (rest : List Char) :
    readOne? (· == c) (d :: rest) = none := by
  simp [readOne?, h]

theorem steady_wholeDigits : Steady wholeDigits? := by
  refine (((steady_readChar (c := '0') (by decide)).map fun _ => ['0']).orElse
    (steady_someDigits digits_isDigit)).congr fun cs => ?_
  fun_cases wholeDigits? cs with
  | case1 rest => rfl
  | case2 cs h =>
      cases cs with
      | nil => rfl
      | cons c rest =>
          rw [readOne?_cons_of_ne fun hc => h rest (by rw [hc])]
          rfl

theorem steady_splitSign : Steady fun cs => some (splitSign cs) := by
  refine (((steady_readChar (c := '+') (by decide)).map fun _ => false).orElse
    (((steady_readChar (c := '-') (by decide)).map fun _ => true).orElse
      (.pure false))).congr fun cs => ?_
  fun_cases splitSign cs with
  | case1 => rfl
  | case2 => rfl
  | case3 cs hplus hminus =>
      cases cs with
      | nil => rfl
      | cons c rest =>
          rw [readOne?_cons_of_ne fun hc => hplus rest (by rw [hc]),
            readOne?_cons_of_ne fun hc => hminus rest (by rw [hc])]
          rfl

/-! ## Numbers -/

/-- A value that was found, or not, without reading on. -/
theorem steady_ofOption (found : Option α) :
    Steady fun cs => found.map fun x => (x, cs) := by
  cases found with
  | none => exact .none
  | some x => exact .pure x

theorem steady_readBase (base : Nat) : Steady (readBase? base) := by
  have hdigits : Digits fun c => (Hex.value? c).any (· < base) := ⟨rfl, rfl⟩
  refine ((steady_someDigits hdigits).map fun digits =>
    digits.foldl (fun n c => n * base + (Hex.value? c).getD 0) 0).congr fun cs => ?_
  rw [readBase?]
  cases someDigits? (fun c => (Hex.value? c).any (· < base)) cs <;> rfl

theorem steady_readInteger : Steady readInteger? := by
  -- The letter behind a zero that tells the base.
  have hletter : Steady fun cs =>
      (readOne? (· == '0') cs).bind fun p => readOne? (fun c => c ∈ ['x', 'o', 'b']) p.2 :=
    (steady_readChar (by decide)).bind fun _ => steady_readOne (by decide)
  refine (hletter.choose
    (fun c => (steady_readBase (if c = 'x' then 16 else if c = 'o' then 8 else 2)).bind fun n =>
      steady_ofOption (integer? n))
    (steady_splitSign.bind fun negative => steady_wholeDigits.bind fun digits =>
      steady_ofOption (integer? (if negative then -(natOfDigits digits : Int)
        else natOfDigits digits)))).congr fun cs => ?_
  fun_cases readInteger? cs with
  | case1 => rfl
  | case2 => rfl
  | case3 => rfl
  | case4 cs hx ho hb negative rest' hsign =>
      have hnone : ((readOne? (· == '0') cs).bind fun p =>
          readOne? (fun c => c ∈ ['x', 'o', 'b']) p.2) = none := by
        rcases cs with _ | ⟨c, _ | ⟨d, rest⟩⟩
        · rfl
        · by_cases hc : c = '0'
          · subst hc; rfl
          · rw [readOne?_cons_of_ne hc]; rfl
        · by_cases hc : c = '0'
          · subst hc
            have hd : d ∉ ['x', 'o', 'b'] := by
              simp only [List.mem_cons, List.not_mem_nil, or_false]
              rintro (rfl | rfl | rfl)
              · exact hx rest rfl
              · exact ho rest rfl
              · exact hb rest rfl
            have hfail : readOne? (fun c => decide (c ∈ ['x', 'o', 'b'])) (d :: rest) = none := by
              rw [readOne?, if_neg (by rwa [decide_eq_true_eq])]
            exact hfail
          · rw [readOne?_cons_of_ne hc]; rfl
      rw [hnone]
      simp only [hsign]
      rfl

theorem steady_readFraction : Steady readFraction? := by
  refine ((steady_readChar (c := '.') (by decide)).bind fun _ =>
    steady_someDigits digits_isDigit).congr fun cs => ?_
  fun_cases readFraction? cs with
  | case1 => rfl
  | case2 cs h =>
      cases cs with
      | nil => rfl
      | cons c rest =>
          rw [readOne?_cons_of_ne fun hc => h rest (by rw [hc])]
          rfl

theorem steady_readExponent : Steady readExponent? := by
  refine ((steady_readOne (p := fun c => c = 'e' ∨ c = 'E') (by decide)).bind fun _ =>
    steady_splitSign.bind fun negative => (steady_someDigits digits_isDigit).map fun digits =>
      (if negative then -(natOfDigits digits : Int) else natOfDigits digits)).congr fun cs => ?_
  cases cs with
  | nil => rfl
  | cons c rest =>
      by_cases hc : c = 'e' ∨ c = 'E'
      · simp [readExponent?, readOne?, hc]
      · simp [readExponent?, readOne?, hc]

theorem steady_readDecimal : Steady readDecimal? := by
  refine (steady_splitSign.bind fun negative => steady_wholeDigits.bind fun whole =>
    steady_readFraction.choose
      (fun fraction => (steady_readExponent.optional 0).bind fun exponent =>
        steady_ofOption (double? (Binary64.ofDecimal negative (natOfDigits (whole ++ fraction))
          (exponent - fraction.length))))
      (steady_readExponent.bind fun exponent =>
        steady_ofOption (double? (Binary64.ofDecimal negative (natOfDigits whole) exponent)))).congr
    fun cs => ?_
  rw [readDecimal?]
  -- Which double a numeral stands for plays no part here.
  generalize Binary64.ofDecimal = toDouble
  simp only [Option.bind_eq_bind, Option.bind_some]
  cases wholeDigits? (splitSign cs).2 with
  | none => rfl
  | some whole =>
      obtain ⟨whole, rest⟩ := whole
      cases hfraction : readFraction? rest with
      | none =>
          simp only [Option.bind_some, Option.elim, hfraction]
          cases readExponent? rest with
          | none => rfl
          | some exponent =>
              simp only [Option.bind_some]
              cases double? _ <;> rfl
      | some fraction =>
          simp only [Option.bind_some, Option.elim, hfraction]
          cases double? _ <;> rfl

/-! ## Words -/

theorem steady_afterWord {word : List Char} (h : '\n' ∉ word) :
    Steady (skipping (afterWord? word)) := by
  induction word with
  | nil => exact (Steady.pure ()).congr fun cs => rfl
  | cons c word ih =>
      have hc : c ≠ '\n' := fun heq => h (heq ▸ List.mem_cons_self ..)
      refine ((steady_readChar hc).bind fun _ =>
        ih fun hmem => h (List.mem_cons_of_mem _ hmem)).congr fun cs => ?_
      cases cs with
      | nil => rfl
      | cons d rest =>
          by_cases hd : d = c
          · subst hd
            simp [skipping, afterWord?, readOne?, List.isPrefixOf]
          · have hne : (c == d) = false := beq_eq_false_iff_ne.mpr (Ne.symm hd)
            simp [skipping, afterWord?, readOne?_cons_of_ne hd, List.isPrefixOf, hne]

theorem steady_readDoubleWord : Steady readDoubleWord? := by
  refine (steady_splitSign.bind fun negative =>
    (steady_afterWord (show '\n' ∉ ['i', 'n', 'f'] by decide)).choose
      (fun _ => .pure (.double (.infinite negative)))
      ((steady_afterWord (show '\n' ∉ ['n', 'a', 'n'] by decide)).map fun _ => .double .nan)).congr
    fun cs => ?_
  simp only [readDoubleWord?, skipping, Option.bind_some]
  cases afterWord? ['i', 'n', 'f'] (splitSign cs).2 with
  | none => cases afterWord? ['n', 'a', 'n'] (splitSign cs).2 <;> rfl
  | some after => rfl

theorem steady_readBoolean : Steady readBoolean? := by
  refine ((steady_afterWord (show '\n' ∉ ['t', 'r', 'u', 'e'] by decide)).choose
    (fun _ => .pure (.boolean true))
    ((steady_afterWord (show '\n' ∉ ['f', 'a', 'l', 's', 'e'] by decide)).map
      fun _ => .boolean false)).congr fun cs => ?_
  simp only [readBoolean?, skipping]
  cases afterWord? ['t', 'r', 'u', 'e'] cs with
  | none => cases afterWord? ['f', 'a', 'l', 's', 'e'] cs <;> rfl
  | some after => rfl

/-! ## Dates and times -/

theorem steady_afterChar {c : Char} (hc : c ≠ '\n') : Steady (skipping (afterChar? c)) := by
  refine ((steady_readChar hc).map fun _ => ()).congr fun cs => ?_
  cases cs with
  | nil => rfl
  | cons d rest =>
      by_cases hd : d = c
      · simp [skipping, afterChar?, readOne?, hd]
      · simp [skipping, afterChar?, readOne?_cons_of_ne hd, hd]

theorem steady_digit : Steady (readOne? isDigit) := steady_readOne (by decide)

theorem steady_twoDigits (low high : Nat) : Steady (twoDigits? low high) := by
  refine (steady_digit.bind fun a => steady_digit.bind fun b =>
    steady_ofOption (if low ≤ digitValue a * 10 + digitValue b
        ∧ digitValue a * 10 + digitValue b ≤ high
      then some (digitValue a * 10 + digitValue b) else none)).congr fun cs => ?_
  rcases cs with _ | ⟨a, _ | ⟨b, rest⟩⟩
  · rfl
  · rw [readOne?_bind_cons]
    exact ite_self none |>.symm
  · rw [readOne?_bind_cons, readOne?_bind_cons, twoDigits?]
    by_cases ha : isDigit a = true
    · by_cases hb : isDigit b = true
      · rw [if_pos ha, if_pos hb, if_pos ⟨ha, hb⟩]
        by_cases h : low ≤ digitValue a * 10 + digitValue b
            ∧ digitValue a * 10 + digitValue b ≤ high
        · exact (if_pos h).trans (by rw [if_pos h]; rfl)
        · exact (if_neg h).trans (by rw [if_neg h]; rfl)
      · rw [if_pos ha, if_neg hb, if_neg fun h => hb h.2]
    · rw [if_neg ha, if_neg fun h => ha h.1]

theorem steady_afterDate : Steady (skipping afterDate?) := by
  refine (steady_digit.bind fun a => steady_digit.bind fun b => steady_digit.bind fun c =>
    steady_digit.bind fun d => (steady_afterChar (c := '-') (by decide)).bind fun _ =>
    (steady_twoDigits 1 12).bind fun month =>
    (steady_afterChar (c := '-') (by decide)).bind fun _ =>
    (steady_twoDigits 1 (daysInMonth (natOfDigits [a, b, c, d]) month)).map fun _ => ()).congr
    fun cs => ?_
  rcases cs with _ | ⟨a, _ | ⟨b, _ | ⟨c, _ | ⟨d, rest⟩⟩⟩⟩
  · rfl
  · simp only [readOne?_bind_cons, readOne?_bind_nil, ite_self]
    rfl
  · simp only [readOne?_bind_cons, readOne?_bind_nil, ite_self]
    rfl
  · simp only [readOne?_bind_cons, readOne?_bind_nil, ite_self]
    rfl
  · simp only [readOne?_bind_cons]
    by_cases h : (isDigit a && isDigit b && isDigit c && isDigit d) = true
    · have hguard := h
      simp only [Bool.and_eq_true] at h
      obtain ⟨⟨⟨ha, hb⟩, hc⟩, hd⟩ := h
      rw [if_pos ha, if_pos hb, if_pos hc, if_pos hd]
      simp only [skipping, afterDate?, hguard, guard, if_true, Option.map_eq_bind,
        Option.bind_assoc, Option.bind_eq_bind, Option.pure_def, Function.comp_def,
        Option.bind_some]
    · have hguard : afterDate? (a :: b :: c :: d :: rest) = none := by
        simp only [afterDate?, h, guard]
        rfl
      simp only [Bool.and_eq_true, and_assoc, not_and] at h
      rw [skipping, hguard]
      split
      · next ha =>
        split
        · next hb =>
          split
          · next hc => exact (if_neg (h ha hb hc)).symm
          · rfl
        · rfl
      · rfl

/-- The digits after the point of a second. -/
theorem steady_secondFraction : Steady fun cs => some ((), skipSecondFraction cs) := by
  refine (((steady_readChar (c := '.') (by decide)).bind fun _ => steady_digit.bind fun _ =>
    steady_dropWhile (p := isDigit) (by decide)).optional ()).congr fun cs => ?_
  fun_cases skipSecondFraction cs with
  | case1 c rest hc =>
      rw [readOne?_bind_cons]
      simp only [beq_self_eq_true, if_true, readOne?_bind_cons, hc]
      rfl
  | case2 c rest hc =>
      simp only [readOne?_bind_cons, beq_self_eq_true, if_true, hc]
      rfl
  | case3 cs h =>
      rcases cs with _ | ⟨c, _ | ⟨d, rest⟩⟩
      · rfl
      · simp only [readOne?_bind_cons, readOne?_bind_nil, ite_self]
        rfl
      · have hc : c ≠ '.' := fun hc => h d rest (by rw [hc])
        rw [readOne?_cons_of_ne hc]
        rfl

theorem steady_afterTime : Steady (skipping afterTime?) := by
  refine ((steady_twoDigits 0 23).bind fun _ => (steady_afterChar (c := ':') (by decide)).bind
    fun _ => (steady_twoDigits 0 59).bind fun _ => (steady_afterChar (c := ':') (by decide)).bind
    fun _ => (steady_twoDigits 0 60).bind fun _ => steady_secondFraction).congr fun cs => ?_
  simp only [skipping, afterTime?, Option.map_eq_bind, Option.bind_assoc, Option.bind_eq_bind,
    Option.pure_def, Function.comp_def, Option.bind_some]

theorem steady_afterOffset : Steady (skipping afterOffset?) := by
  refine (((steady_readOne (p := fun c => c = 'Z' ∨ c = 'z') (by decide)).map fun _ => ()).orElse
    ((steady_readOne (p := fun c => c = '+' ∨ c = '-') (by decide)).bind fun _ =>
      (steady_twoDigits 0 23).bind fun _ => (steady_afterChar (c := ':') (by decide)).bind fun _ =>
      (steady_twoDigits 0 59).map fun _ => ())).congr fun cs => ?_
  cases cs with
  | nil => rfl
  | cons c rest =>
      by_cases hz : c = 'Z' ∨ c = 'z'
      · simp [skipping, afterOffset?, readOne?, hz]
      · by_cases hsign : c = '+' ∨ c = '-'
        · simp only [skipping, afterOffset?, readOne?, hz, hsign, decide_true, decide_false,
            if_true, if_false, Option.map_eq_bind, Option.bind_assoc, Option.bind_eq_bind,
            Option.pure_def, Function.comp_def, Option.bind_some]
          rfl
        · simp [skipping, afterOffset?, readOne?, hz, hsign]

theorem steady_timeOfDay : Steady fun cs => some ((), skipTimeOfDay cs) := by
  refine (((steady_readOne (p := fun c => c = 'T' ∨ c = 't' ∨ c = ' ') (by decide)).bind fun _ =>
    steady_afterTime.bind fun _ => steady_afterOffset.optional ()).optional ()).congr fun cs => ?_
  cases cs with
  | nil => rfl
  | cons c rest =>
      by_cases hc : c = 'T' ∨ c = 't' ∨ c = ' '
      · simp only [skipTimeOfDay, readOne?_bind_cons, hc, decide_true, if_true, skipping]
        cases afterTime? rest with
        | none => rfl
        | some after => cases hoffset : afterOffset? after <;> simp [hoffset]
      · simp [skipTimeOfDay, readOne?_bind_cons, hc]

theorem steady_readMoment : Steady readMoment? := by
  refine ((steady_afterDate.bind fun _ => steady_timeOfDay.map fun _ => Value.moment).orElse
    (steady_afterTime.map fun _ => Value.moment)).congr fun cs => ?_
  simp only [readMoment?, skipping]
  cases afterDate? cs with
  | none => cases afterTime? cs <;> rfl
  | some after => rfl

end Toml

end GlyphBook
