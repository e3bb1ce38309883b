import GlyphBook.Picker.State

/-!
# What can happen to a picker

Between its start and any later moment a picker is given keys and is drawn, in any order and in
areas of any size.
-/

namespace GlyphBook

/-- Something that happens to a picker. -/
inductive Happening where
  | key (key : Key)
  | draw (area : Rect)
  deriving Repr, DecidableEq

namespace Picker

/-- The picker after something has happened. -/
def after (p : Picker) : Happening → Picker
  | .key k => (p.press k).2
  | .draw area => p.settled area

/-- The picker after a history. -/
def afterAll (p : Picker) (history : List Happening) : Picker := history.foldl after p

end Picker

end GlyphBook
