/-!
# Binary floating-point numbers, counted exactly

A finite double is a whole number of the smallest positive double, `2^-1074`, so its magnitude is
kept as that natural number. Rounding, products and quotients are then statements about natural
numbers: each takes the exact quotient and rounds it once, to nearest and a tie to the even
significand.
-/

namespace GlyphBook

/-- A double. `units` counts the smallest positive double, `2^-1074`. -/
inductive Binary64 where
  | finite (negative : Bool) (units : Nat)
  | infinite (negative : Bool)
  | nan
  deriving Repr, DecidableEq

namespace Binary64

/-- How many units make the number one. -/
def one : Nat := Nat.pow 2 1074

/-- The first magnitude, in units, that no finite double reaches. -/
def limit : Nat := Nat.pow 2 2098

/-! ## Rounding -/

/-- The natural number nearest to `n / d`; of two equally near, the even one. -/
def roundQuotient (n d : Nat) : Nat :=
  let q := n / d
  let r := n % d
  if 2 * r < d then q
  else if d < 2 * r then q + 1
  else q + q % 2

/-- The step between neighbouring magnitudes at `units`: a significand has 53 bits. -/
def step (units : Nat) : Nat :=
  if units < Nat.pow 2 53 then 1 else Nat.pow 2 (units.log2 - 52)

/-- The magnitude nearest to `n / d` units, before it is asked whether it is finite. -/
def roundUnits (n d : Nat) : Nat :=
  let s := step (n / d)
  roundQuotient n (d * s) * s

/-- A rounded magnitude with its sign; from `limit` on it is infinite. -/
def ofUnits (negative : Bool) (units : Nat) : Binary64 :=
  if units < limit then .finite negative units else .infinite negative

/-! ## Decimal input -/

/-- The units nearest to `m * 10 ^ e`. Far outside the range of doubles the exact power is not
formed: there the answer is zero or a magnitude that is not finite whatever the digits. -/
def decimalUnits (m : Nat) (e : Int) : Nat :=
  if m = 0 then 0
  else if 400 < e then limit
  else if e < 0 ∧ (m.log2 + 400 : Int) < -e then 0
  else if 0 ≤ e then roundUnits (m * Nat.pow 10 e.toNat * one) 1
  else roundUnits (m * one) (Nat.pow 10 (-e).toNat)

/-- The double nearest to `± m * 10 ^ e`. -/
def ofDecimal (negative : Bool) (m : Nat) (e : Int) : Binary64 :=
  ofUnits negative (decimalUnits m e)

/-! ## Products and quotients of magnitudes -/

/-- The product of two magnitudes, rounded once. -/
def mulUnits (a b : Nat) : Nat := roundUnits (a * b) one

/-- The quotient of two magnitudes, rounded once. -/
def divUnits (a b : Nat) : Nat := roundUnits (a * one) b

/-- A natural number as a magnitude, rounded once. -/
def natUnits (n : Nat) : Nat := roundUnits (n * one) 1

end Binary64

end GlyphBook
