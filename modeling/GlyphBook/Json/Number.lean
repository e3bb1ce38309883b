import GlyphBook.Mismatch

/-!
# JSON numbers

A number is read in two steps: its parts are split off the text, then its value is settled. A
whole number that fits 64 bits stays an integer. Any other is a double, and it is computed as
readers in streaming style do: the digits are gathered in one 64-bit significand, what no longer
fits is dropped, and the significand is multiplied or divided by a power of ten that is itself a
double. A magnitude past the largest double is an error.
-/

namespace GlyphBook

namespace Json

/-- The text formats' choice for doubles: the point moves while it stands within five places
before or sixteen behind the first digit, and a tie goes to the even digit. -/
def numbers : NumberLayout := ⟨.even, fun point => -5 < point && point ≤ 16⟩

/-! ## Splitting -/

def isDigit (c : Char) : Bool := '0' ≤ c && c ≤ '9'

def digitValue (c : Char) : Nat := c.toNat - '0'.toNat

/-- The leading digits, and what follows them. -/
def splitDigits (cs : List Char) : List Char × List Char :=
  (cs.takeWhile isDigit, cs.dropWhile isDigit)

/-- The parts of a number: `fraction` holds the digits after the point. -/
structure Numeral where
  negative : Bool
  whole : List Char
  fraction : Option (List Char)
  exponent : Option Int
  deriving Repr, DecidableEq

/-- The digits before the point: no zero stands in front of another digit. -/
def readWhole? : List Char → Option (List Char × List Char)
  | [] => none
  | '0' :: rest =>
    match rest with
    | c :: _ => if isDigit c then none else some (['0'], rest)
    | [] => some (['0'], [])
  | c :: rest =>
    if isDigit c then
      let (digits, after) := splitDigits rest
      some (c :: digits, after)
    else none

/-- The digits after a point, if there is one. A point without a digit is no number. -/
def readFraction? : List Char → Option (Option (List Char) × List Char)
  | '.' :: rest =>
    match splitDigits rest with
    | ([], _) => none
    | (digits, after) => some (some digits, after)
  | cs => some (none, cs)

def natOfDigits (digits : List Char) : Nat := digits.foldl (fun n c => n * 10 + digitValue c) 0

/-- The digits of an exponent, after its letter and its sign. -/
def readExponentDigits? (negative : Bool) (cs : List Char) : Option (Option Int × List Char) :=
  match splitDigits cs with
  | ([], _) => none
  | (digits, after) =>
    let n : Int := natOfDigits digits
    some (some (if negative then -n else n), after)

/-- An exponent, if there is one. -/
def readExponent? : List Char → Option (Option Int × List Char)
  | c :: rest =>
    if c = 'e' ∨ c = 'E' then
      match rest with
      | '+' :: after => readExponentDigits? false after
      | '-' :: after => readExponentDigits? true after
      | after => readExponentDigits? false after
    else some (none, c :: rest)
  | [] => some (none, [])

/-- The number at the front of the text, whose sign has been read already. -/
def readNumeral? (negative : Bool) (cs : List Char) : Option (Numeral × List Char) := do
  let (whole, cs) ← readWhole? cs
  let (fraction, cs) ← readFraction? cs
  let (exponent, cs) ← readExponent? cs
  return (⟨negative, whole, fraction, exponent⟩, cs)

/-! ## The value -/

/-- The first natural number that a 64-bit significand cannot hold. -/
def significandLimit : Nat := Nat.pow 2 64

/-- A significand being gathered, and the power of ten it stands for. `full` is set when a digit
did not fit; after that none is taken. -/
structure Significand where
  value : Nat
  exponent : Int
  full : Bool
  deriving Repr, DecidableEq

/-- A digit before the point: one that does not fit still counts as a place. -/
def Significand.addWhole (s : Significand) (c : Char) : Significand :=
  let value := s.value * 10 + digitValue c
  if s.full ∨ significandLimit ≤ value then { s with exponent := s.exponent + 1, full := true }
  else { s with value := value }

/-- A digit after the point: one that does not fit is dropped. -/
def Significand.addFraction (s : Significand) (c : Char) : Significand :=
  let value := s.value * 10 + digitValue c
  if s.full ∨ significandLimit ≤ value then { s with full := true }
  else { s with value := value, exponent := s.exponent - 1 }

def powerOfTen (k : Nat) : Nat := Binary64.natUnits (Nat.pow 10 k)

/-- Division by ten to the `k`, in steps that are doubles. Four steps take every significand to
zero. -/
def scaleDown : Nat → Nat → Nat → Nat
  | 0, _, _ => 0
  | steps + 1, units, k =>
    if k ≤ 308 then Binary64.divUnits units (powerOfTen k)
    else if units = 0 then 0
    else scaleDown steps (Binary64.divUnits units (powerOfTen 308)) (k - 308)

/-- The magnitude of a significand times a power of ten, or `none` when no double is that
large. -/
def scaled? (significand : Nat) (exponent : Int) : Option Nat :=
  let units := Binary64.natUnits significand
  if units = 0 then some 0
  else if exponent < 0 then some (scaleDown 4 units (-exponent).toNat)
  else if 308 < exponent then none
  else
    let product := Binary64.mulUnits units (powerOfTen exponent.toNat)
    if product < Binary64.limit then some product else none

/-- The significand of a number's digits. -/
def Numeral.significand (n : Numeral) : Significand :=
  let whole := n.whole.foldl Significand.addWhole ⟨0, 0, false⟩
  match n.fraction with
  | none => whole
  | some digits => digits.foldl Significand.addFraction { whole with full := false }

/-- What a number counts as: an integer when it has neither point nor exponent and fits 64 bits,
a double otherwise. Minus zero is a double, because no integer has that sign. -/
def Numeral.seen? (n : Numeral) : Option Seen :=
  let s := n.significand
  let double : Option Seen :=
    (scaled? s.value (s.exponent + n.exponent.getD 0)).map fun units =>
      .double (.finite n.negative units)
  match n.fraction, n.exponent with
  | none, none =>
    if s.full then double
    else if n.negative then
      if s.value = 0 ∨ Nat.pow 2 63 < s.value then double else some (.integer (-s.value))
    else some (.integer s.value)
  | _, _ => double

end Json

end GlyphBook
