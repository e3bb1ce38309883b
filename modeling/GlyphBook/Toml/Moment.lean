import GlyphBook.Toml.Number

/-!
# TOML dates and times

A date, a time, or both with or without an offset. Each part is checked against the calendar and
the clock: months have their days, leap years count, and a minute may have a sixty-first second.
-/

namespace GlyphBook

namespace Toml

/-- Two digits whose value lies in the range. -/
def twoDigits? (low high : Nat) : List Char → Option (Nat × List Char)
  | a :: b :: rest =>
    if isDigit a ∧ isDigit b then
      let n := digitValue a * 10 + digitValue b
      if low ≤ n ∧ n ≤ high then some (n, rest) else none
    else none
  | _ => none

/-- The text after one given character. -/
def afterChar? (c : Char) : List Char → Option (List Char)
  | x :: rest => if x = c then some rest else none
  | [] => none

def isLeapYear (year : Nat) : Bool := year % 4 = 0 && (year % 100 ≠ 0 || year % 400 = 0)

def daysInMonth (year month : Nat) : Nat :=
  if month = 2 then (if isLeapYear year then 29 else 28)
  else if month = 4 ∨ month = 6 ∨ month = 9 ∨ month = 11 then 30
  else 31

/-- The text after a date. -/
def afterDate? : List Char → Option (List Char)
  | a :: b :: c :: d :: rest => do
    guard (isDigit a && isDigit b && isDigit c && isDigit d)
    let rest ← afterChar? '-' rest
    let (month, rest) ← twoDigits? 1 12 rest
    let rest ← afterChar? '-' rest
    let (_, rest) ← twoDigits? 1 (daysInMonth (natOfDigits [a, b, c, d]) month) rest
    return rest
  | _ => none

/-- The text after a fraction of a second, if one is here. -/
def skipSecondFraction : List Char → List Char
  | '.' :: c :: rest => if isDigit c then rest.dropWhile isDigit else '.' :: c :: rest
  | cs => cs

/-- The text after a time. -/
def afterTime? (cs : List Char) : Option (List Char) := do
  let (_, cs) ← twoDigits? 0 23 cs
  let cs ← afterChar? ':' cs
  let (_, cs) ← twoDigits? 0 59 cs
  let cs ← afterChar? ':' cs
  let (_, cs) ← twoDigits? 0 60 cs
  return skipSecondFraction cs

/-- The text after an offset from universal time. -/
def afterOffset? : List Char → Option (List Char)
  | c :: rest =>
    if c = 'Z' ∨ c = 'z' then some rest
    else if c = '+' ∨ c = '-' then do
      let (_, rest) ← twoDigits? 0 23 rest
      let rest ← afterChar? ':' rest
      let (_, rest) ← twoDigits? 0 59 rest
      return rest
    else none
  | [] => none

/-- The time of day behind a date, with its offset, if one is here. -/
def skipTimeOfDay : List Char → List Char
  | c :: rest =>
    if c = 'T' ∨ c = 't' ∨ c = ' ' then
      match afterTime? rest with
      | some after => (afterOffset? after).getD after
      | none => c :: rest
    else c :: rest
  | [] => []

def readMoment? (cs : List Char) : Option (Value × List Char) :=
  match afterDate? cs with
  | some after => some (.moment, skipTimeOfDay after)
  | none => (afterTime? cs).map fun after => (.moment, after)

end Toml

end GlyphBook
