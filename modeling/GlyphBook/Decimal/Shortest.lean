import GlyphBook.Decimal.Binary64

/-!
# The shortest decimal that reads back

Every real number nearer to a double than to its neighbours reads as that double. Among the
decimals in that interval the one with the fewest digits is chosen, and among those the one
nearest to the double. What happens when two are equally near is left to the caller, because
written formats differ there.
-/

namespace GlyphBook

/-- Which of two equally near decimals to take. -/
inductive Tie where
  | even
  | up
  deriving Repr, DecidableEq

/-- The value `digits * 10 ^ exponent`. -/
structure Decimal where
  digits : Nat
  exponent : Int
  deriving Repr, DecidableEq

namespace Decimal

/-- The interval of reals that round to a magnitude, in quarters of a unit. Both ends belong to it
exactly when the significand is even. -/
structure Interval where
  low : Nat
  high : Nat
  closed : Bool

/-- Below a power of two the neighbour is half as far away, except where the step is already the
smallest. -/
def Interval.of (units : Nat) : Interval :=
  let s := Binary64.step units
  let below := if units = s * Nat.pow 2 52 ∧ 1 < s then s else 2 * s
  { low := 4 * units - below
    high := 4 * units + 2 * s
    closed := (units / s) % 2 == 0 }

def Interval.contains (i : Interval) (scale quarters : Nat) : Bool :=
  if i.closed then i.low * scale ≤ quarters && quarters ≤ i.high * scale
  else i.low * scale < quarters && quarters < i.high * scale

/-- The grid of multiples of `10 ^ exponent`, as the two factors that make a count on the grid and
a number of units comparable. -/
structure Grid where
  /-- Multiplies units. -/
  scale : Nat
  /-- Multiplies counts on the grid. -/
  pitch : Nat

def Grid.at (exponent : Int) : Grid :=
  if 0 ≤ exponent then ⟨1, Nat.pow 10 exponent.toNat * Binary64.one⟩
  else ⟨Nat.pow 10 (-exponent).toNat, Binary64.one⟩

/-- The point of the grid that stands for `units`, if one lies in its interval. Only the two
neighbours of the value need a look. -/
def Grid.point? (g : Grid) (tie : Tie) (units : Nat) : Option Nat :=
  let i := Interval.of units
  let below := units * g.scale / g.pitch
  let rest := units * g.scale % g.pitch
  let hit (count : Nat) : Bool := count ≠ 0 && i.contains g.scale (4 * count * g.pitch)
  match hit below, hit (below + 1) with
  | false, false => none
  | true, false => some below
  | false, true => some (below + 1)
  | true, true =>
    if 2 * rest < g.pitch then some below
    else if g.pitch < 2 * rest then some (below + 1)
    else match tie with
      | .up => some (below + 1)
      | .even => some (below + below % 2)

/-- Tries the grids from `exponent` downwards, `fuel` of them. -/
def search (tie : Tie) (units : Nat) : Nat → Int → Decimal
  | 0, exponent => ⟨0, exponent⟩
  | fuel + 1, exponent =>
    match (Grid.at exponent).point? tie units with
    | some digits => ⟨digits, exponent⟩
    | none => search tie units fuel (exponent - 1)

/-- The number of decimal digits of `n`. -/
def width (n : Nat) : Nat := (Nat.toDigits 10 n).length

/-- The shortest decimal for a magnitude other than zero. The coarsest grid tried is that of the
first power of ten above the value, and the finest has seventeen digits of the smallest double. -/
def shortest (tie : Tie) (units : Nat) : Decimal :=
  let top := width (units / Binary64.one)
  search tie units (top + 345) top

end Decimal

end GlyphBook
