/-!
# How much is logged

The number of times that a user asks for more decides the level.
-/

namespace GlyphBook

inductive LogLevel where
  | warn
  | info
  | debug
  | trace
  deriving Repr, DecidableEq

namespace LogLevel

def name : LogLevel → String
  | .warn => "warn"
  | .info => "info"
  | .debug => "debug"
  | .trace => "trace"

/-- The level after asking for more `n` times; the last level is never left again. -/
def ofVerbosity : Nat → LogLevel
  | 0 => .warn
  | 1 => .info
  | 2 => .debug
  | _ => .trace

end LogLevel

end GlyphBook
