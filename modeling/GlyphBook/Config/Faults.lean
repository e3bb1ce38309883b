import GlyphBook.Config.Basic

/-!
# All that is wrong with a document

Checking a document stops at the first problem. Here every problem of its shape is listed, from top
to bottom, next to the choices that the document makes where nothing is wrong, and the unknown
names among choices are listed in the order of the slots.
-/

namespace GlyphBook

namespace Config

/-! ## Shape -/

/-- What is wrong with the value of a slot. -/
def valueFaults (extent : Toml.Extent) : Toml.Value → List Fault
  | .text _ => []
  | value => [⟨extent, .mismatch ⟨value.seen, "a string"⟩⟩]

def tableFaults (members : List Toml.Member) : List Fault :=
  members.flatMap fun (key, extent, value) =>
    if key.name ∈ slotNames then valueFaults extent value
    else [⟨key.extent, .unknownKey key.name slotNames⟩]

/-- Only as many items are looked at as there are slots. -/
def listFaults (items : List (Toml.Extent × Toml.Value)) : List Fault :=
  (items.take Slot.all.length).flatMap fun (extent, value) => valueFaults extent value

def iconsFaults (extent : Toml.Extent) : Toml.Value → List Fault
  | .table _ members => tableFaults members
  | .list _ items => listFaults items
  | .moment => [⟨extent, .unknownKey momentKey slotNames⟩]
  | value => [⟨extent, .mismatch ⟨value.seen, "struct RawIconTheme"⟩⟩]

/-- Every problem of a document's shape, from top to bottom. -/
def faults (members : List Toml.Member) : List Fault :=
  members.flatMap fun (key, extent, value) =>
    if key.name = "icons" then iconsFaults extent value
    else [⟨key.extent, .unknownKey key.name ["icons"]⟩]

/-! ## Choices -/

/-- The name in a value, if it is one. -/
def name? : Toml.Value → Option String
  | .text name => some name
  | _ => none

/-- The choices of the value of `icons`, as far as its parts have the right shape. -/
def iconsGiven : Toml.Value → Choices
  | .table _ members => members.filterMap fun (key, _, value) => do
    return (← Slot.ofName? key.name, ← name? value)
  | .list _ items => (Slot.all.zip items).filterMap fun (slot, _, value) => do
    return (slot, ← name? value)
  | _ => []

/-- The choices of a document, as far as its parts have the right shape. -/
def given (members : List Toml.Member) : Choices :=
  members.flatMap fun (key, _, value) => if key.name = "icons" then iconsGiven value else []

/-! ## Names -/

/-- The slots whose names are not declared, in the fixed order. -/
def unknownNames (choices : Choices) : List (Slot × UnknownIcon) :=
  Slot.all.filterMap fun slot => do
    let name ← nameFor? choices slot
    if icons.entries.any fun entry => entry.name == name then none else some (slot, ⟨name⟩)

end Config

end GlyphBook
