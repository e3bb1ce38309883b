/-!
# Printing on an output

What a command prints is sent to an output line by line. An output may refuse a line; what it has
taken before stays there, and nothing is sent after it.
-/

namespace GlyphBook

/-- An output, as it answers the next line when it has taken some text: with the fault that it
refuses the line for, or by taking it. -/
structure Outlet where
  fault? : (taken line : String) → Option String

namespace Outlet

/-- The output that takes every line. -/
def accepting : Outlet := ⟨fun _ _ => none⟩

/-- Sends lines to an output that has taken some text: the text it has taken in the end, and the
fault that it refused a line for. -/
def send (outlet : Outlet) (taken : String) : List String → String × Option String
  | [] => (taken, none)
  | line :: lines =>
    match outlet.fault? taken line with
    | some fault => (taken, some fault)
    | none => outlet.send (taken ++ line) lines

end Outlet

end GlyphBook
