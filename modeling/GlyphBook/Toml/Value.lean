import GlyphBook.Mismatch

/-!
# TOML documents as trees

A document is a table: an ordered list of keys with their values. Every key and every value
remembers where it stands in the text, because an error about it points there. A table also
remembers how it came to be, because that decides what a later line may still add to it.
-/

namespace GlyphBook

namespace Toml

/-- Where a token stands. Both ends are counted in characters from the end of the text, so that a
reader which sees only what is left of the text can write them down. -/
structure Extent where
  start : Nat
  stop : Nat
  deriving Repr, DecidableEq

/-- A key with the place where it is written. -/
structure Key where
  name : String
  extent : Extent
  deriving Repr, DecidableEq

/-- How a table came to be. -/
inductive TableForm where
  /-- By its own header, or as the document itself. -/
  | header
  /-- As a table on the way to a header's table. -/
  | implied
  /-- As a table on the way to a dotted key. -/
  | dotted
  /-- In braces, complete as written. -/
  | inline
  deriving Repr, DecidableEq

/-- Dotted keys may only add to tables that no line has defined. -/
def TableForm.isOpen : TableForm → Bool
  | .implied => true
  | .dotted => true
  | .header => false
  | .inline => false

/-- How a list came to be: written in brackets, or grown by headers in double brackets. -/
inductive ListForm where
  | written
  | tables
  deriving Repr, DecidableEq

/-- A value of any kind. Dates and times are only told apart from the other kinds. -/
inductive Value where
  | text (value : String)
  | integer (value : Int)
  | double (value : Binary64)
  | boolean (value : Bool)
  | moment
  | list (form : ListForm) (items : List (Extent × Value))
  | table (form : TableForm) (members : List (Key × Extent × Value))
  deriving Repr

/-- A key of a table with its value and the place of the value. -/
abbrev Member := Key × Extent × Value

/-- How a value is named in an error; a date or time counts as a table. -/
def Value.seen : Value → Seen
  | .text value => .text value
  | .integer value => .integer value
  | .double value => .double value
  | .boolean value => .boolean value
  | .moment => .map
  | .list _ _ => .sequence
  | .table _ _ => .map

/-- Doubles in errors about TOML are never written with an exponent, and a tie goes up. -/
def numbers : NumberLayout := ⟨.up, fun _ => true⟩

end Toml

end GlyphBook
