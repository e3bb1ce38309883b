import GlyphBook.Text.Hex
import GlyphBook.Toml.Value

/-!
# TOML numbers and words

Integers have 64 bits and may be written in four bases; doubles need a digit on either side of the
point. An underscore may stand between two digits. An integer outside its range is no TOML, and
neither is a double that is too large to be finite; one too far below zero is minus infinity.
-/

namespace GlyphBook

namespace Toml

/-! ## Runs of digits -/

def isDigit (c : Char) : Bool := '0' ≤ c && c ≤ '9'

def digitValue (c : Char) : Nat := c.toNat - '0'.toNat

/-- More digits of a number that has one already: single underscores may stand before each. The
digits are given without them. -/
def moreDigits (isDigit : Char → Bool) : List Char → List Char × List Char
  | '_' :: c :: rest =>
    if isDigit c then
      let (digits, after) := moreDigits isDigit rest
      (c :: digits, after)
    else ([], '_' :: c :: rest)
  | c :: rest =>
    if isDigit c then
      let (digits, after) := moreDigits isDigit rest
      (c :: digits, after)
    else ([], c :: rest)
  | [] => ([], [])

/-- Digits, at least one; zeros may come first. -/
def someDigits? (isDigit : Char → Bool) : List Char → Option (List Char × List Char)
  | c :: rest =>
    if isDigit c then
      let (digits, after) := moreDigits isDigit rest
      some (c :: digits, after)
    else none
  | [] => none

/-- The digits of a whole number: a zero stands alone. -/
def wholeDigits? : List Char → Option (List Char × List Char)
  | '0' :: rest => some (['0'], rest)
  | cs => someDigits? isDigit cs

def natOfDigits (digits : List Char) : Nat := digits.foldl (fun n c => n * 10 + digitValue c) 0

/-- A sign, true for minus, and the text behind it. -/
def splitSign : List Char → Bool × List Char
  | '+' :: rest => (false, rest)
  | '-' :: rest => (true, rest)
  | cs => (false, cs)

/-! ## Integers -/

/-- A number in a base that is not ten, digits in either case. -/
def readBase? (base : Nat) (cs : List Char) : Option (Nat × List Char) := do
  let isDigit (c : Char) : Bool := (Hex.value? c).any (· < base)
  let (digits, after) ← someDigits? isDigit cs
  return (digits.foldl (fun n c => n * base + (Hex.value? c).getD 0) 0, after)

/-- The first integer that 64 bits with a sign cannot hold; its opposite is the least that they
can. -/
def integerLimit : Int := 0x8000000000000000

/-- An integer that 64 bits with a sign can hold. -/
def integer? (n : Int) : Option Value :=
  if -integerLimit ≤ n ∧ n < integerLimit then some (.integer n) else none

def readInteger? : List Char → Option (Value × List Char)
  | '0' :: 'x' :: rest =>
    (readBase? 16 rest).bind fun (n, after) => (integer? n).map fun v => (v, after)
  | '0' :: 'o' :: rest =>
    (readBase? 8 rest).bind fun (n, after) => (integer? n).map fun v => (v, after)
  | '0' :: 'b' :: rest =>
    (readBase? 2 rest).bind fun (n, after) => (integer? n).map fun v => (v, after)
  | cs =>
    let (negative, cs) := splitSign cs
    (wholeDigits? cs).bind fun (digits, after) =>
      let n : Int := natOfDigits digits
      (integer? (if negative then -n else n)).map fun v => (v, after)

/-! ## Doubles -/

/-- The digits after a point. -/
def readFraction? : List Char → Option (List Char × List Char)
  | '.' :: rest => someDigits? isDigit rest
  | _ => none

/-- The power of ten after its letter. -/
def readExponent? : List Char → Option (Int × List Char)
  | c :: rest =>
    if c = 'e' ∨ c = 'E' then
      let (negative, rest) := splitSign rest
      (someDigits? isDigit rest).map fun (digits, after) =>
        let n : Int := natOfDigits digits
        (if negative then -n else n, after)
    else none
  | [] => none

/-- A double that was written with digits as a value; infinity has to be written as a word. -/
def double? : Binary64 → Option Value
  | .infinite false => none
  | x => some (.double x)

/-- A number with a point, an exponent or both. -/
def readDecimal? (cs : List Char) : Option (Value × List Char) := do
  let (negative, cs) := splitSign cs
  let (whole, cs) ← wholeDigits? cs
  match readFraction? cs with
  | some (fraction, cs) =>
    let (exponent, cs) := (readExponent? cs).getD (0, cs)
    let x := Binary64.ofDecimal negative (natOfDigits (whole ++ fraction))
      (exponent - fraction.length)
    let v ← double? x
    return (v, cs)
  | none =>
    let (exponent, cs) ← readExponent? cs
    let v ← double? (Binary64.ofDecimal negative (natOfDigits whole) exponent)
    return (v, cs)

/-- The text after `word`, if it starts with it. -/
def afterWord? (word : List Char) (cs : List Char) : Option (List Char) :=
  if word.isPrefixOf cs then some (cs.drop word.length) else none

/-- The two doubles that are words, with or without a sign. -/
def readDoubleWord? (cs : List Char) : Option (Value × List Char) :=
  let (negative, cs) := splitSign cs
  match afterWord? ['i', 'n', 'f'] cs with
  | some after => some (.double (.infinite negative), after)
  | none => (afterWord? ['n', 'a', 'n'] cs).map fun after => (.double .nan, after)

/-- The truth values. -/
def readBoolean? (cs : List Char) : Option (Value × List Char) :=
  match afterWord? ['t', 'r', 'u', 'e'] cs with
  | some after => some (.boolean true, after)
  | none => (afterWord? ['f', 'a', 'l', 's', 'e'] cs).map fun after => (.boolean false, after)

end Toml

end GlyphBook
