import GlyphBook.Decimal.Shortest

/-!
# Writing a double

The digits of a number are chosen in `GlyphBook.Decimal.Shortest`. Where the point stands, and
when an exponent is written instead, is a decision of each text format and is kept in one record.
-/

namespace GlyphBook

/-- What a text format decides about numbers. `positional` is asked for the place of the point,
counted from the first digit: `1` for `1.5`, `0` for `0.15`. -/
structure NumberLayout where
  tie : Tie
  positional : Int → Bool

namespace NumberLayout

/-- Digits with a point after the first `point` of them, filled up with zeros on either side. -/
def plain (digits : String) (point : Int) : String :=
  let n : Int := digits.length
  if point ≤ 0 then
    "0." ++ String.ofList (List.replicate (-point).toNat '0') ++ digits
  else if n ≤ point then
    digits ++ String.ofList (List.replicate (point - n).toNat '0') ++ ".0"
  else
    String.ofList (digits.toList.take point.toNat) ++ "."
      ++ String.ofList (digits.toList.drop point.toNat)

/-- One digit, the rest after a point, and the power of ten with its sign. -/
def scientific (digits : String) (point : Int) : String :=
  let mantissa :=
    match digits.toList with
    | [] => ""
    | [d] => d.toString
    | d :: rest => d.toString ++ "." ++ String.ofList rest
  mantissa ++ (if 1 ≤ point then "e+" else "e") ++ toString (point - 1)

/-- A magnitude; a whole number keeps one zero after its point. -/
def magnitude (layout : NumberLayout) (units : Nat) : String :=
  if units = 0 then "0.0"
  else
    let d := Decimal.shortest layout.tie units
    let digits := toString d.digits
    let point : Int := digits.length + d.exponent
    if layout.positional point then plain digits point else scientific digits point

def write (layout : NumberLayout) : Binary64 → String
  | .nan => "NaN"
  | .infinite negative => if negative then "-inf" else "inf"
  | .finite negative units => (if negative then "-" else "") ++ layout.magnitude units

end NumberLayout

end GlyphBook
