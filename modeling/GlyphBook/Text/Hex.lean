/-!
# Digits in base sixteen

Reading code points that are written as digits in base sixteen, in either case.
-/

namespace GlyphBook

namespace Hex

def value? (c : Char) : Option Nat :=
  if '0' ≤ c ∧ c ≤ '9' then some (c.toNat - '0'.toNat)
  else if 'a' ≤ c ∧ c ≤ 'f' then some (c.toNat - 'a'.toNat + 10)
  else if 'A' ≤ c ∧ c ≤ 'F' then some (c.toNat - 'A'.toNat + 10)
  else none

/-- The number that follows `n` when the digits `cs` are written behind it. -/
def extend? (n : Nat) : List Char → Option Nat
  | [] => some n
  | c :: cs => (value? c).bind fun d => extend? (n * 16 + d) cs

/-- The number written with the digits `cs`. -/
def number? (cs : List Char) : Option Nat := extend? 0 cs

theorem extend?_append {digits : List Char} {c : Char} {d n m : Nat}
    (hdigits : extend? n digits = some m) (hc : value? c = some d) :
    extend? n (digits ++ [c]) = some (m * 16 + d) := by
  induction digits generalizing n with
  | nil =>
      obtain rfl := Option.some.inj hdigits
      rw [List.nil_append, extend?, hc]
      rfl
  | cons e digits ih =>
      rw [extend?] at hdigits
      obtain ⟨v, hv, hrest⟩ := Option.bind_eq_some_iff.mp hdigits
      rw [List.cons_append, extend?, hv]
      exact ih hrest

theorem value?_digitChar : ∀ d < 16, value? (Nat.digitChar d) = some d := by decide

end Hex

end GlyphBook
