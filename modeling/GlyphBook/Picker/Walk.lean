import GlyphBook.Picker.State

/-!
# Walks along a line

The picker seen from far: a place on a line of `n` places that starts at the first, moves by one
step without leaving the line, or jumps to either end, until it is chosen or given up. This is what
the keys mean, said without a list, a screen or a state.
-/

namespace GlyphBook

namespace Walk

/-- The place after an action on a line of `n` places. -/
def move (n place : Nat) : Action → Nat
  | .down => min (place + 1) (n - 1)
  | .up => place - 1
  | .top => 0
  | .bottom => n - 1
  | _ => place

/-- A move stays on the line. -/
theorem move_lt {n place : Nat} (h : place < n) (action : Action) : move n place action < n := by
  cases action <;> simp only [move] <;> omega

/-- Where a walk from `place` ends: at a place that is chosen, given up, or still under way. -/
inductive Stop where
  | chosen (place : Nat)
  | cancelled
  | underWay (place : Nat)
  deriving Repr, DecidableEq

/-- The walk that actions make. -/
def run (n : Nat) : Nat → List Action → Stop
  | place, [] => .underWay place
  | place, .select :: _ => .chosen place
  | _, .quit :: _ => .cancelled
  | place, action :: actions => run n (move n place action) actions

end Walk

end GlyphBook
