import GlyphBook.Proofs.Json.Form
import GlyphBook.Proofs.Json.Numeral

/-!
# Values that are no strings

Where a string is expected, a value of another kind is refused with what is seen of it: all of
`null`, a truth value or a number, and only the bracket of a list or a table. A number must be over
before it is seen (`readNumeral?_append`), so `seenAt?_append` asks for a character behind the value
that a number cannot go on with. A number that is too large for a double is not seen, and then the
text is no JSON.
-/

namespace GlyphBook

namespace Json

/-! ## How numbers start -/

theorem isDigit_start {negative : Bool} {w : List Char} {n : Numeral}
    (h : UnsignedForm negative w n) : ∃ c t, w = c :: t ∧ isDigit c = true := by
  cases h with
  | parts hwhole _ _ =>
      cases hwhole with
      | zero => exact ⟨'0', _, rfl, by decide⟩
      | digits hc _ _ => exact ⟨_, _, rfl, hc⟩

/-- A digit starts nothing but a number. -/
theorem seenAt?_digit {c : Char} (hc : isDigit c = true) (rest : List Char) :
    seenAt? (c :: rest) = (readNumeral? false (c :: rest)).bind fun (n, _) => n.seen? := by
  unfold seenAt?
  split
  case h_9 heq =>
    obtain ⟨rfl, rfl⟩ := List.cons.inj heq
    rfl
  case h_1 heq => cases heq
  all_goals
    next heq =>
      exact absurd (List.cons.inj heq).1 (ne_of_isDigit hc (by decide))

theorem seenAt?_numeral {w : List Char} {n : Numeral} (h : NumeralForm w n) {c : Char}
    (hc : ¬ Continues c) (rest : List Char) : seenAt? (w ++ c :: rest) = n.seen? := by
  cases h with
  | positive h =>
      have hread := readNumeral?_append h hc rest
      obtain ⟨d, t, rfl, hd⟩ := isDigit_start h
      rw [List.cons_append] at hread ⊢
      rw [seenAt?_digit hd, hread]
      rfl
  | @negative w _ h =>
      show ((readNumeral? true (w ++ c :: rest)).bind fun (n, _) => n.seen?) = _
      rw [readNumeral?_append h hc]
      rfl

/-! ## Forms -/

/-- A complete value that is no string, with what is seen of it. -/
inductive OtherForm : List Char → Seen → Prop where
  | null : OtherForm ['n', 'u', 'l', 'l'] .null
  | yes : OtherForm ['t', 'r', 'u', 'e'] (.boolean true)
  | no : OtherForm ['f', 'a', 'l', 's', 'e'] (.boolean false)
  | number {w : List Char} {n : Numeral} {seen : Seen} :
      NumeralForm w n → n.seen? = some seen → OtherForm w seen
  | list (w : List Char) : OtherForm ('[' :: w) .sequence
  | table (w : List Char) : OtherForm ('{' :: w) .map

theorem seenAt?_append {w : List Char} {seen : Seen} (h : OtherForm w seen) {c : Char}
    (hc : ¬ Continues c) (rest : List Char) : seenAt? (w ++ c :: rest) = some seen := by
  have hword (word : List Char) : afterWord? word (word ++ c :: rest) = some (c :: rest) :=
    afterWord?_eq_some_iff.mpr rfl
  cases h with
  | null =>
      rw [List.cons_append, seenAt?, hword]
      rfl
  | yes =>
      rw [List.cons_append, seenAt?, hword]
      rfl
  | no =>
      rw [List.cons_append, seenAt?, hword]
      rfl
  | number hnumeral hseen => rw [seenAt?_numeral hnumeral hc, hseen]
  | list w => rfl
  | table w => rfl

/-- The character starts a value that is no string. -/
structure StartsOther (c : Char) : Prop where
  noBlank : isBlank c = false
  noQuote : c ≠ '"'
  noClosing : c ≠ ']'

theorem startsOther_digit {c : Char} (hc : isDigit c = true) : StartsOther c := by
  have hne {d : Char} (hd : isDigit d = false) : c ≠ d := ne_of_isDigit hc hd
  refine ⟨?_, hne (by decide), hne (by decide)⟩
  unfold isBlank
  simp only [Bool.or_eq_false_iff, decide_eq_false_iff_not]
  exact ⟨⟨⟨hne (by decide), hne (by decide)⟩, hne (by decide)⟩, hne (by decide)⟩

theorem startsOther_numeral {w : List Char} {n : Numeral} (h : NumeralForm w n) :
    ∃ c t, w = c :: t ∧ StartsOther c := by
  cases h with
  | positive h =>
      obtain ⟨c, t, rfl, hc⟩ := isDigit_start h
      exact ⟨c, t, rfl, startsOther_digit hc⟩
  | negative _ => exact ⟨'-', _, rfl, ⟨rfl, by decide, by decide⟩⟩

theorem startsOther_form {w : List Char} {seen : Seen} (h : OtherForm w seen) :
    ∃ c t, w = c :: t ∧ StartsOther c := by
  cases h with
  | number h _ => exact startsOther_numeral h
  | null => exact ⟨_, _, rfl, ⟨rfl, by decide, by decide⟩⟩
  | yes => exact ⟨_, _, rfl, ⟨rfl, by decide, by decide⟩⟩
  | no => exact ⟨_, _, rfl, ⟨rfl, by decide, by decide⟩⟩
  | list => exact ⟨_, _, rfl, ⟨rfl, by decide, by decide⟩⟩
  | table => exact ⟨_, _, rfl, ⟨rfl, by decide, by decide⟩⟩

/-! ## Reading -/

theorem readString_of_startsOther {c : Char} (hc : StartsOther c) (rest : List Char) :
    readString (c :: rest) = .error (refuse "a string" (seenAt? (c :: rest))) := by
  rw [readString, skipBlanks_cons hc.noBlank]
  simp [hc.noQuote]

theorem readString_of_otherForm {w : List Char} {seen : Seen} (h : OtherForm w seen) {c : Char}
    (hc : ¬ Continues c) (rest : List Char) :
    readString (w ++ c :: rest) = .error (.mismatch ⟨seen, "a string"⟩) := by
  have hseen := seenAt?_append h hc rest
  obtain ⟨d, t, rfl, hd⟩ := startsOther_form h
  rw [List.cons_append] at hseen ⊢
  rw [readString_of_startsOther hd, hseen]
  rfl

theorem readString_of_not_seen {w : List Char} {n : Numeral} (h : NumeralForm w n)
    (hn : n.seen? = none) {c : Char} (hc : ¬ Continues c) (rest : List Char) :
    readString (w ++ c :: rest) = .error .notJson := by
  have hseen := seenAt?_numeral h hc rest
  obtain ⟨d, t, rfl, hd⟩ := startsOther_numeral h
  rw [List.cons_append] at hseen ⊢
  rw [readString_of_startsOther hd, hseen, hn]
  rfl

end Json

end GlyphBook
