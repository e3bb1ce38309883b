import GlyphBook.Decimal.Layout
import GlyphBook.Text.Quoted

/-!
# A value of the wrong kind

Both readers of structured text, for JSON and for TOML, meet values where another kind was asked
for, and both say what they saw in the same words. Only the spelling of doubles differs, so it is
a parameter.
-/

namespace GlyphBook

/-- What a reader saw. Of a list or a table only the kind is reported. -/
inductive Seen where
  | null
  | boolean (value : Bool)
  | integer (value : Int)
  | double (value : Binary64)
  | text (value : String)
  | sequence
  | map
  deriving Repr, DecidableEq

def Seen.description (layout : NumberLayout) : Seen → String
  | .null => "null"
  | .boolean value => "boolean `" ++ (if value then "true" else "false") ++ "`"
  | .integer value => "integer `" ++ toString value ++ "`"
  | .double value => "floating point `" ++ layout.write value ++ "`"
  | .text value => "string " ++ quoted value
  | .sequence => "sequence"
  | .map => "map"

/-- A value was seen where `expected` was asked for. -/
structure Mismatch where
  seen : Seen
  expected : String
  deriving Repr, DecidableEq

def Mismatch.message (layout : NumberLayout) (m : Mismatch) : String :=
  "invalid type: " ++ m.seen.description layout ++ ", expected " ++ m.expected

end GlyphBook
