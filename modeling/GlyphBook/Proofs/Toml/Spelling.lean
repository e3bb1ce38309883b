import GlyphBook.Toml.Reader
import GlyphBook.Toml.Writing
import Mathlib.Tactic.SplitIfs

/-!
# The spellings of a TOML string on one line

Between double quotes a character may stand for itself, behind a short escape, or be given by its
code point in four or in eight digits. `Spells` is that relation between what stands between the
quotes and what it means, and the reader decides it (`readBasic?_eq_some_iff`). Between single
quotes every character stands for itself (`readLiteral?_eq_some_iff`).

Both kinds of quotes may stand around a value (`TextForm`), where three quotes in a row would begin
a string over several lines: the text behind a value must not begin with a quote. The writer
produces one of the spellings, for every text (`textForm_writeText`).
-/

namespace GlyphBook

namespace Toml

/-- `Spells w cs`: between double quotes, `w` is a way to write the characters `cs`. -/
inductive Spells : List Char → List Char → Prop where
  | nil : Spells [] []
  | plain {c : Char} {w cs : List Char} :
      isTextChar c = true → c ≠ '"' → c ≠ '\\' → Spells w cs → Spells (c :: w) (c :: cs)
  | short {e c : Char} {w cs : List Char} :
      shortEscape? e = some c → Spells w cs → Spells ('\\' :: e :: w) (c :: cs)
  | unit {p q r s c : Char} {w cs : List Char} :
      codePoint? [p, q, r, s] = some c → Spells w cs →
      Spells ('\\' :: 'u' :: p :: q :: r :: s :: w) (c :: cs)
  | long {p q r s p' q' r' s' c : Char} {w cs : List Char} :
      codePoint? [p, q, r, s, p', q', r', s'] = some c → Spells w cs →
      Spells ('\\' :: 'U' :: p :: q :: r :: s :: p' :: q' :: r' :: s' :: w) (c :: cs)

theorem push_eq_some_iff {c : Char} {read : Option (List Char × List Char)} {cs rest : List Char} :
    push c read = some (cs, rest) ↔ ∃ cs', read = some (cs', rest) ∧ cs = c :: cs' := by
  cases read with
  | none => simp [push]
  | some result =>
      obtain ⟨text, after⟩ := result
      simp only [push, Option.map_some, Option.some.injEq, Prod.mk.injEq]
      constructor
      · rintro ⟨rfl, rfl⟩
        exact ⟨text, ⟨rfl, rfl⟩, rfl⟩
      · rintro ⟨cs', ⟨rfl, rfl⟩, rfl⟩
        exact ⟨rfl, rfl⟩

theorem readBasic?_of_spells {w cs : List Char} (h : Spells w cs) (rest : List Char) :
    readBasic? (w ++ '"' :: rest) = some (cs, rest) := by
  induction h with
  | nil => simp [readBasic?]
  | @plain c w cs hc hquote hback _ ih =>
      rw [List.cons_append, readBasic?, if_pos ⟨hc, hback⟩, ih]
      · rfl
      all_goals simp_all
  | @short e c w cs he _ ih =>
      have hu : e ≠ 'u' := by
        rintro rfl
        cases he
      have hU : e ≠ 'U' := by
        rintro rfl
        cases he
      rw [List.cons_append, List.cons_append, readBasic?, he, ih]
      · rfl
      all_goals simp_all
  | unit hc _ ih => simp [readBasic?, hc, ih, push]
  | long hc _ ih => simp [readBasic?, hc, ih, push]

theorem spells_of_readBasic? {text cs rest : List Char} (h : readBasic? text = some (cs, rest)) :
    ∃ w, text = w ++ '"' :: rest ∧ Spells w cs := by
  fun_induction readBasic? text generalizing cs rest with
  | case1 => cases h
  | case2 rest' =>
      obtain ⟨rfl, rfl⟩ := Prod.mk.inj (Option.some.inj h)
      exact ⟨[], rfl, .nil⟩
  | case3 p q r s rest' ih =>
      obtain ⟨c, hc, hpush⟩ := Option.bind_eq_some_iff.mp h
      obtain ⟨cs', hread, rfl⟩ := push_eq_some_iff.mp hpush
      obtain ⟨w, rfl, hw⟩ := ih hread
      exact ⟨_, rfl, .unit hc hw⟩
  | case4 p q r s p' q' r' s' rest' ih =>
      obtain ⟨c, hc, hpush⟩ := Option.bind_eq_some_iff.mp h
      obtain ⟨cs', hread, rfl⟩ := push_eq_some_iff.mp hpush
      obtain ⟨w, rfl, hw⟩ := ih hread
      exact ⟨_, rfl, .long hc hw⟩
  | case5 e rest' _ _ ih =>
      obtain ⟨c, hc, hpush⟩ := Option.bind_eq_some_iff.mp h
      obtain ⟨cs', hread, rfl⟩ := push_eq_some_iff.mp hpush
      obtain ⟨w, rfl, hw⟩ := ih hread
      exact ⟨_, rfl, .short hc hw⟩
  | case6 c rest' hquote _ _ _ hc ih =>
      obtain ⟨cs', hread, rfl⟩ := push_eq_some_iff.mp h
      obtain ⟨w, rfl, hw⟩ := ih hread
      exact ⟨_, rfl, .plain hc.1 (fun heq => hquote heq) hc.2 hw⟩
  | case7 => cases h

/-- **The reader decides the spelling relation**: it reads a string up to its first quote, and
gives what is spelled there. -/
theorem readBasic?_eq_some_iff {text cs rest : List Char} :
    readBasic? text = some (cs, rest) ↔ ∃ w, text = w ++ '"' :: rest ∧ Spells w cs := by
  constructor
  · exact spells_of_readBasic?
  · rintro ⟨w, rfl, hw⟩
    exact readBasic?_of_spells hw rest

/-- What stands between two quotes does not begin with one. -/
theorem Spells.head_ne {c : Char} {w cs : List Char} (h : Spells (c :: w) cs) : c ≠ '"' := by
  cases h with
  | plain _ hquote _ _ => exact hquote
  | _ => decide

/-! ## Single quotes -/

def Literal (w : List Char) : Prop := ∀ c ∈ w, c ≠ '\x27' ∧ isTextChar c = true

theorem readLiteral?_eq_some_iff {text cs rest : List Char} :
    readLiteral? text = some (cs, rest) ↔ text = cs ++ '\x27' :: rest ∧ Literal cs := by
  induction text generalizing cs with
  | nil => simp [readLiteral?]
  | cons c text ih =>
      rw [readLiteral?]
      by_cases hquote : c = '\x27'
      · rw [if_pos hquote, Option.some.injEq, Prod.mk.injEq]
        constructor
        · rintro ⟨rfl, rfl⟩
          exact ⟨by rw [hquote]; rfl, fun _ h => (List.not_mem_nil h).elim⟩
        · rintro ⟨htext, hliteral⟩
          cases cs with
          | nil => exact ⟨rfl, (List.cons.inj htext).2⟩
          | cons d cs =>
              obtain rfl : c = d := (List.cons.inj htext).1
              exact absurd hquote (hliteral c (List.mem_cons_self ..)).1
      · rw [if_neg hquote]
        constructor
        · intro h
          split_ifs at h with hc
          obtain ⟨cs', hread, rfl⟩ := push_eq_some_iff.mp h
          obtain ⟨rfl, hliteral⟩ := ih.mp hread
          exact ⟨rfl, List.forall_mem_cons.mpr ⟨⟨hquote, hc⟩, hliteral⟩⟩
        · rintro ⟨htext, hliteral⟩
          cases cs with
          | nil => exact absurd (List.cons.inj htext).1 hquote
          | cons d cs =>
              obtain ⟨rfl, rfl⟩ := List.cons.inj htext
              obtain ⟨⟨-, hc⟩, hliteral⟩ := List.forall_mem_cons.mp hliteral
              rw [if_pos hc]
              exact push_eq_some_iff.mpr ⟨cs, ih.mpr ⟨rfl, hliteral⟩, rfl⟩

theorem readLiteral?_of_literal {w : List Char} (h : Literal w) (rest : List Char) :
    readLiteral? (w ++ '\x27' :: rest) = some (w, rest) :=
  readLiteral?_eq_some_iff.mpr ⟨rfl, h⟩

/-! ## Values -/

/-- A string on one line, with its quotes. -/
inductive TextForm : List Char → String → Prop where
  | basic {w cs : List Char} : Spells w cs → TextForm ('"' :: (w ++ ['"'])) (String.ofList cs)
  | literal {w : List Char} : Literal w → TextForm ('\x27' :: (w ++ ['\x27'])) (String.ofList w)

/-- The text does not begin with a quote. -/
def Unquoted (tail : List Char) : Prop := ∀ c ∈ tail.head?, c ≠ '"' ∧ c ≠ '\x27'

theorem readText?_of_textForm {w : List Char} {name : String} (h : TextForm w name)
    {tail : List Char} (htail : Unquoted tail) : readText? (w ++ tail) = some (name, tail) := by
  cases h with
  | @basic w cs hw =>
      have hread := readBasic?_of_spells hw tail
      rw [List.cons_append, List.append_assoc, List.singleton_append, readText?, hread]
      · rfl
      -- Three quotes in a row would need an empty string and a quote behind it.
      · intro rest htriple
        cases w with
        | nil =>
            cases tail with
            | nil => cases htriple
            | cons c tail => exact (htail c rfl).1 (List.cons.inj (List.cons.inj htriple).2).1
        | cons c w => exact hw.head_ne (List.cons.inj htriple).1
  | @literal w hw =>
      have hread := readLiteral?_of_literal hw tail
      rw [List.cons_append, List.append_assoc, List.singleton_append, readText?, hread]
      · rfl
      · intro rest htriple
        cases w with
        | nil =>
            cases tail with
            | nil => cases htriple
            | cons c tail => exact (htail c rfl).2 (List.cons.inj (List.cons.inj htriple).2).1
        | cons c w => exact (hw c (List.mem_cons_self ..)).1 (List.cons.inj htriple).1

/-! ## The writer's spelling -/

/-- Digits are read back as what they were written for, as far as `count` of them reach. -/
theorem number?_hexDigits (count n : Nat) :
    Hex.number? (hexDigits count n) = some (n % Nat.pow 16 count) := by
  induction count generalizing n with
  | zero =>
      rw [hexDigits, show Nat.pow 16 0 = 1 from rfl, Nat.mod_one]
      rfl
  | succ count ih =>
      have hlast := Hex.value?_digitChar (n % 16) (Nat.mod_lt n (by decide))
      rw [hexDigits, Hex.number?, Hex.extend?_append (ih (n / 16)) hlast]
      have hsplit :
          n % Nat.pow 16 (count + 1) = n / 16 % Nat.pow 16 count * 16 + n % 16 := by
        rw [show Nat.pow 16 (count + 1) = 16 * Nat.pow 16 count from Nat.mul_comm .., Nat.mod_mul]
        omega
      rw [hsplit]

theorem codePoint?_hexDigits (c : Char) : codePoint? (hexDigits 8 c.toNat) = some c := by
  have hvalid : c.toNat.isValidChar := c.valid
  have hsmall : c.toNat < Nat.pow 16 8 := by
    rcases hvalid with h | ⟨-, h⟩
    · exact Nat.lt_trans h (by decide)
    · exact Nat.lt_trans h (by decide)
  rw [codePoint?, number?_hexDigits, Nat.mod_eq_of_lt hsmall, Option.bind_some, if_pos hvalid,
    Char.ofNat_toNat]

theorem spells_writeChar (c : Char) {w cs : List Char} (h : Spells w cs) :
    Spells (writeChar c ++ w) (c :: cs) := by
  unfold writeChar
  split_ifs with hquote hback hc
  · exact .short (by rw [hquote]; rfl) h
  · exact .short (by rw [hback]; rfl) h
  · exact .plain hc hquote hback h
  · exact .long (codePoint?_hexDigits c) h

theorem spells_flatMap_writeChar (cs : List Char) : Spells (cs.flatMap writeChar) cs := by
  induction cs with
  | nil => exact .nil
  | cons c cs ih => exact spells_writeChar c ih

/-- **Any text can be written**: what the writer puts between quotes spells it. -/
theorem textForm_writeText (text : String) : TextForm (writeText text) text := by
  have h := TextForm.basic (spells_flatMap_writeChar text.toList)
  rwa [String.ofList_toList] at h

end Toml

end GlyphBook
