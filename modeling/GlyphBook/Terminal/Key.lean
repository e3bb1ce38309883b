/-!
# Keys and other terminal events

What a terminal reports: a key with the modifiers that are held and whether it goes down, repeats
or goes up, or something that is no key at all.
-/

namespace GlyphBook

/-- The keys that a terminal can tell apart. Those that only some keyboards have are told by their
number. -/
inductive KeyCode where
  | char (c : Char)
  | function (n : Nat)
  | up
  | down
  | left
  | right
  | home
  | endKey
  | pageUp
  | pageDown
  | enter
  | escape
  | tab
  | backTab
  | backspace
  | delete
  | insert
  | null
  | special (code : Nat)
  deriving Repr, DecidableEq

/-- The modifier keys that are held down. -/
structure Modifiers where
  shift : Bool := false
  control : Bool := false
  alt : Bool := false
  super : Bool := false
  hyper : Bool := false
  metaKey : Bool := false
  deriving Repr, DecidableEq

/-- Whether a key goes down, is held until it repeats, or goes up. -/
inductive KeyMotion where
  | press
  | repeated
  | release
  deriving Repr, DecidableEq

/-- A key as a terminal reports it. -/
structure Key where
  code : KeyCode
  modifiers : Modifiers := {}
  motion : KeyMotion := .press
  deriving Repr, DecidableEq

/-- Anything that a terminal reports. -/
inductive TerminalEvent where
  | key (key : Key)
  | resize (width height : Nat)
  | mouse
  | focus (gained : Bool)
  | paste
  deriving Repr, DecidableEq

namespace TerminalEvent

/-- The key of an event that is the press of one. -/
def pressed? : TerminalEvent → Option Key
  | .key k => if k.motion = .press then some k else none
  | _ => none

end TerminalEvent

end GlyphBook
