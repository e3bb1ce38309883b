import GlyphBook.Json.Number
import Mathlib.Data.List.TakeWhile

/-!
# The forms of JSON numbers

A number is read to its end, and only the character behind it shows where that is. So the reader
gives the parts of a number back wherever the number is followed by a character that cannot go on
with it (`readNumeral?_append`), and there it does not matter what follows that character.
-/

namespace GlyphBook

namespace Json

/-- A number can go on with this character. -/
def Continues (c : Char) : Prop := isDigit c = true ∨ c = '.' ∨ c = 'e' ∨ c = 'E'

/-! ## Forms -/

structure Digits (ds : List Char) : Prop where
  nonempty : ds ≠ []
  all : ∀ d ∈ ds, isDigit d = true

inductive WholeForm : List Char → Prop where
  | zero : WholeForm ['0']
  | digits {c : Char} {ds : List Char} :
      isDigit c = true → c ≠ '0' → (∀ d ∈ ds, isDigit d = true) → WholeForm (c :: ds)

inductive FractionForm : List Char → Option (List Char) → Prop where
  | none : FractionForm [] none
  | some {ds : List Char} : Digits ds → FractionForm ('.' :: ds) (some ds)

inductive ExponentForm : List Char → Option Int → Prop where
  | none : ExponentForm [] none
  | unsigned {c : Char} {ds : List Char} : (c = 'e' ∨ c = 'E') → Digits ds →
      ExponentForm (c :: ds) (some (natOfDigits ds))
  | plus {c : Char} {ds : List Char} : (c = 'e' ∨ c = 'E') → Digits ds →
      ExponentForm (c :: '+' :: ds) (some (natOfDigits ds))
  | minus {c : Char} {ds : List Char} : (c = 'e' ∨ c = 'E') → Digits ds →
      ExponentForm (c :: '-' :: ds) (some (-(natOfDigits ds : Int)))

/-- A number behind its sign. -/
inductive UnsignedForm (negative : Bool) : List Char → Numeral → Prop where
  | parts {whole w w' : List Char} {fraction : Option (List Char)} {exponent : Option Int} :
      WholeForm whole → FractionForm w fraction → ExponentForm w' exponent →
      UnsignedForm negative (whole ++ (w ++ w')) ⟨negative, whole, fraction, exponent⟩

inductive NumeralForm : List Char → Numeral → Prop where
  | positive {w : List Char} {n : Numeral} : UnsignedForm false w n → NumeralForm w n
  | negative {w : List Char} {n : Numeral} : UnsignedForm true w n → NumeralForm ('-' :: w) n

/-! ## Reading the parts -/

theorem ne_of_isDigit {c d : Char} (hc : isDigit c = true) (hd : isDigit d = false) : c ≠ d := by
  rintro rfl
  rw [hc] at hd
  cases hd

def NoDigit (rest : List Char) : Prop := ∀ c ∈ rest.head?, isDigit c = false

theorem noDigit_cons {c : Char} (hc : isDigit c = false) (rest : List Char) :
    NoDigit (c :: rest) := by
  intro d hd
  obtain rfl := Option.some.inj hd
  exact hc

theorem isDigit_of_not_continues {c : Char} (hc : ¬ Continues c) : isDigit c = false :=
  Bool.eq_false_iff.mpr fun hdigit => hc (Or.inl hdigit)

theorem splitDigits_append {ds rest : List Char} (hds : ∀ d ∈ ds, isDigit d = true)
    (hrest : NoDigit rest) : splitDigits (ds ++ rest) = (ds, rest) := by
  unfold splitDigits
  rw [List.takeWhile_append_of_pos hds, List.dropWhile_append_of_pos hds]
  cases rest with
  | nil => simp
  | cons c rest =>
      have hc : ¬ isDigit c = true := Bool.eq_false_iff.mp (hrest c rfl)
      rw [List.takeWhile_cons_of_neg hc, List.dropWhile_cons_of_neg hc, List.append_nil]

theorem readWhole?_append {whole rest : List Char} (h : WholeForm whole) (hrest : NoDigit rest) :
    readWhole? (whole ++ rest) = some (whole, rest) := by
  cases h with
  | zero =>
      cases rest with
      | nil => rfl
      | cons c rest => simp [readWhole?, hrest c rfl]
  | @digits c ds hc hzero hds =>
      rw [List.cons_append, readWhole?, if_pos hc, splitDigits_append hds hrest]
      exact hzero

theorem readFraction?_append {w rest : List Char} {fraction : Option (List Char)}
    (h : FractionForm w fraction) (hrest : NoDigit rest) (hpoint : rest.head? ≠ some '.') :
    readFraction? (w ++ rest) = some (fraction, rest) := by
  cases h with
  | none =>
      rw [List.nil_append]
      unfold readFraction?
      split
      · exact absurd rfl hpoint
      · rfl
  | @some ds hds =>
      rw [List.cons_append, readFraction?, splitDigits_append hds.all hrest]
      split
      · next hnil => exact absurd (Prod.mk.inj hnil).1 hds.nonempty
      · next digits after heq =>
          obtain ⟨rfl, rfl⟩ := Prod.mk.inj heq
          rfl

theorem readExponentDigits?_append {ds rest : List Char} (negative : Bool) (hds : Digits ds)
    (hrest : NoDigit rest) : readExponentDigits? negative (ds ++ rest)
      = some (some (if negative then -(natOfDigits ds : Int) else natOfDigits ds), rest) := by
  rw [readExponentDigits?, splitDigits_append hds.all hrest]
  split
  · next hnil => exact absurd (Prod.mk.inj hnil).1 hds.nonempty
  · next digits after heq =>
      obtain ⟨rfl, rfl⟩ := Prod.mk.inj heq
      rfl

theorem readExponent?_append {w : List Char} {exponent : Option Int} (h : ExponentForm w exponent)
    {c : Char} (hc : ¬ Continues c) (rest : List Char) :
    readExponent? (w ++ c :: rest) = some (exponent, c :: rest) := by
  have hrest := noDigit_cons (isDigit_of_not_continues hc) rest
  cases h with
  | none =>
      have hletter : ¬ (c = 'e' ∨ c = 'E') := fun h => hc (Or.inr (Or.inr h))
      simp [readExponent?, hletter]
  | @unsigned c' ds hletter hds =>
      obtain ⟨d, ds, rfl⟩ := List.exists_cons_of_ne_nil hds.nonempty
      have hsign {sign : Char} (hsign : isDigit sign = false) (after : List Char) :
          d :: ds ++ c :: rest ≠ sign :: after := fun heq =>
        ne_of_isDigit (hds.all d List.mem_cons_self) hsign (List.cons.inj heq).1
      rw [List.cons_append, readExponent?, if_pos hletter]
      · exact readExponentDigits?_append false hds hrest
      · exact hsign (by decide)
      · exact hsign (by decide)
  | plus hletter hds =>
      rw [List.cons_append, List.cons_append, readExponent?, if_pos hletter]
      exact readExponentDigits?_append false hds hrest
  | minus hletter hds =>
      rw [List.cons_append, List.cons_append, readExponent?, if_pos hletter]
      exact readExponentDigits?_append true hds hrest

/-! ## Reading a number -/

/-- What an exponent or the text behind it starts with is part of no digits, and no point. -/
theorem ExponentForm.starts {w : List Char} {exponent : Option Int} (h : ExponentForm w exponent)
    {c : Char} (hc : ¬ Continues c) (rest : List Char) :
    NoDigit (w ++ c :: rest) ∧ (w ++ c :: rest).head? ≠ some '.' := by
  have hletter {c' : Char} (h : c' = 'e' ∨ c' = 'E') (cs : List Char) :
      NoDigit (c' :: cs) ∧ (c' :: cs).head? ≠ some '.' := by
    rcases h with rfl | rfl
    · exact ⟨noDigit_cons rfl cs, by simp⟩
    · exact ⟨noDigit_cons rfl cs, by simp⟩
  cases h with
  | none =>
      refine ⟨noDigit_cons (isDigit_of_not_continues hc) rest, ?_⟩
      exact fun h => hc (Or.inr (Or.inl (Option.some.inj h)))
  | unsigned h _ => exact hletter h _
  | plus h _ => exact hletter h _
  | minus h _ => exact hletter h _

theorem FractionForm.starts {w rest : List Char} {fraction : Option (List Char)}
    (h : FractionForm w fraction) (hrest : NoDigit rest) : NoDigit (w ++ rest) := by
  cases h with
  | none => exact hrest
  | some _ => exact noDigit_cons rfl _

/-- **A number is read to its end**, whatever follows the character behind it. -/
theorem readNumeral?_append {negative : Bool} {w : List Char} {n : Numeral}
    (h : UnsignedForm negative w n) {c : Char} (hc : ¬ Continues c) (rest : List Char) :
    readNumeral? negative (w ++ c :: rest) = some (n, c :: rest) := by
  cases h with
  | @parts whole w w' fraction exponent hwhole hfraction hexponent =>
      obtain ⟨hnoDigit, hpoint⟩ := hexponent.starts hc rest
      rw [List.append_assoc, List.append_assoc, readNumeral?,
        readWhole?_append hwhole (hfraction.starts hnoDigit)]
      show (readFraction? (w ++ (w' ++ c :: rest)) >>= _) = _
      rw [readFraction?_append hfraction hnoDigit hpoint]
      show (readExponent? (w' ++ c :: rest) >>= _) = _
      rw [readExponent?_append hexponent hc]
      rfl

end Json

end GlyphBook
