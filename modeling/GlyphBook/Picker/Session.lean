import GlyphBook.Picker.State

/-!
# A session at the terminal

While the picker is used the terminal is in raw mode and shows a screen of its own. Every step that
touches the terminal can fail. Once raw mode is on, whatever happens later, the terminal is put
back in two steps: both are taken, and what they report changes nothing. A session is described by
the steps it took, in order and each with its fault, and by how it finished.
-/

namespace GlyphBook

/-- What is done to the terminal. -/
inductive SessionStep where
  | enterRawMode
  | enterScreen
  | openTerminal
  | clear
  | draw
  | read
  | leaveRawMode
  | leaveScreen
  deriving Repr, DecidableEq

/-- A step that was taken, and its fault if it failed. -/
structure Taken where
  step : SessionStep
  fault? : Option String
  deriving Repr, DecidableEq

/-- How a session ends; one that waits has read every event and asks for another. -/
inductive Finish where
  | chosen (id : IconId)
  | cancelled
  | failed (fault : String)
  | waiting
  deriving Repr, DecidableEq

/-- A terminal, as it answers the steps of a session by their number: its size, and the fault with
which the step fails. -/
structure Console where
  size : Nat → Nat × Nat
  fault? : Nat → Option String

namespace Console

/-- A terminal of one size on which every step succeeds. -/
def reliable (width height : Nat) : Console := ⟨fun _ => (width, height), fun _ => none⟩

/-- The area of the terminal when step `n` is taken. -/
def area (console : Console) (n : Nat) : Rect := ⟨0, 0, (console.size n).1, (console.size n).2⟩

/-- Step number `n`. -/
def take (console : Console) (n : Nat) (step : SessionStep) : Taken := ⟨step, console.fault? n⟩

end Console

namespace Picker

/-- What an event does. Only the press of a key does anything. -/
def receive (p : Picker) (event : TerminalEvent) : Outcome × Picker :=
  match event.pressed? with
  | some key => p.press key
  | none => (.proceed, p)

/-- Draws and reads in turn, from step `n` on, until a key ends it or a step fails. -/
def loop (console : Console) : Nat → Picker → List TerminalEvent → List Taken × Finish
  | n, p, events =>
    let draw := console.take n .draw
    let read := console.take (n + 1) .read
    match draw.fault?, read.fault?, events with
    | some fault, _, _ => ([draw], .failed fault)
    | none, some fault, _ => ([draw, read], .failed fault)
    | none, none, [] => ([draw, read], .waiting)
    | none, none, event :: rest =>
      match (p.settled (console.area n)).receive event with
      | (.chosen id, _) => ([draw, read], .chosen id)
      | (.cancelled, _) => ([draw, read], .cancelled)
      | (.proceed, p) =>
        let (later, finish) := loop console (n + 2) p rest
        (draw :: read :: later, finish)

/-- Takes the steps that come before the first drawing, from step `n` on, and then goes on. -/
def prepare (console : Console) (p : Picker) (events : List TerminalEvent) :
    Nat → List SessionStep → List Taken × Finish
  | n, [] => loop console n p events
  | n, step :: steps =>
    let taken := console.take n step
    match taken.fault? with
    | some fault => ([taken], .failed fault)
    | none =>
      let (later, finish) := prepare console p events (n + 1) steps
      (taken :: later, finish)

/-- The steps that put the terminal back. -/
def restoration (console : Console) (n : Nat) : List Taken :=
  [console.take n .leaveRawMode, console.take (n + 1) .leaveScreen]

/-- A whole session. While it waits the terminal is not put back. -/
def session (console : Console) (p : Picker) (events : List TerminalEvent) :
    List Taken × Finish :=
  let raw := console.take 0 .enterRawMode
  match raw.fault? with
  | some fault => ([raw], .failed fault)
  | none =>
    let (inside, finish) := prepare console p events 1 [.enterScreen, .openTerminal, .clear]
    match finish with
    | .waiting => (raw :: inside, .waiting)
    | _ => (raw :: inside ++ restoration console (1 + inside.length), finish)

end Picker

end GlyphBook
