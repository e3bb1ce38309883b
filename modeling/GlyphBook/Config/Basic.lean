import GlyphBook.Theme
import GlyphBook.Toml.Highlight
import GlyphBook.Toml.Reader

/-!
# Configurations

A configuration is a TOML document whose only key is `icons`: a table that gives some slots the
name of an icon, or a list that gives names to the first slots in order. Reading one takes three
steps. The document is parsed; its shape is checked from top to bottom, and the first problem is
reported with its place; and the names are looked up in the fixed order of the slots, which is not
the order in which the document gives them. Slots that are not given keep their defaults.
-/

namespace GlyphBook

namespace Config

/-! ## Shape -/

/-- Why a document has the wrong shape. -/
inductive Problem where
  | unknownKey (name : String) (expected : List String)
  | mismatch (m : Mismatch)
  deriving Repr, DecidableEq

/-- A problem with the place it was found at. -/
structure Fault where
  extent : Toml.Extent
  problem : Problem
  deriving Repr, DecidableEq

/-- How the keys that would have been right are listed. -/
def expectation : List String → String
  | [name] => "expected `" ++ name ++ "`"
  | names => "expected one of "
      ++ String.intercalate ", " (names.map fun name => "`" ++ name ++ "`")

def Problem.message : Problem → String
  | .unknownKey name expected => "unknown field `" ++ name ++ "`, " ++ expectation expected
  | .mismatch m => m.message Toml.numbers

/-- The names that a document gives to slots, in the order of the document. -/
abbrev Choices := List (Slot × String)

/-- The name in a slot's value. -/
def nameOf (extent : Toml.Extent) : Toml.Value → Except Fault String
  | .text name => .ok name
  | value => .error ⟨extent, .mismatch ⟨value.seen, "a string"⟩⟩

/-- The slots as a configuration lists them: in this order a list fills them and messages name
them. -/
def fields : List Slot :=
  [.folder, .audio, .image, .video, .document, .binary, .play, .pause, .stop, .previous, .next,
    .placeholder]

theorem fields_eq : fields = Slot.all := rfl

def slotNames : List String := fields.map Slot.name

/-- The choices of a table: each key has to be a slot, and its value a string. -/
def choicesOfTable : List Toml.Member → Except Fault Choices
  | [] => .ok []
  | (key, extent, value) :: rest =>
    match Slot.ofName? key.name with
    | none => .error ⟨key.extent, .unknownKey key.name slotNames⟩
    | some slot => do
      let name ← nameOf extent value
      let choices ← choicesOfTable rest
      return (slot, name) :: choices

/-- The choices of a list: its items fill the slots in order. Items behind the last slot are not
looked at. -/
def choicesOfList : List Slot → List (Toml.Extent × Toml.Value) → Except Fault Choices
  | slot :: slots, (extent, value) :: items => do
    let name ← nameOf extent value
    let choices ← choicesOfList slots items
    return (slot, name) :: choices
  | _, _ => .ok []

/-- The key that a date would have as a table, which no slot is named for. -/
def momentKey : String := "$__toml_private_datetime"

/-- The choices of the value of `icons`. -/
def choicesOfIcons (extent : Toml.Extent) : Toml.Value → Except Fault Choices
  | .table _ members => choicesOfTable members
  | .list _ items => choicesOfList fields items
  | .moment => .error ⟨extent, .unknownKey momentKey slotNames⟩
  | value => .error ⟨extent, .mismatch ⟨value.seen, "struct RawIconTheme"⟩⟩

/-- The choices of a document. -/
def choices : List Toml.Member → Except Fault Choices
  | [] => .ok []
  | (key, extent, value) :: rest =>
    if key.name = "icons" then do
      let here ← choicesOfIcons extent value
      let later ← choices rest
      return here ++ later
    else .error ⟨key.extent, .unknownKey key.name ["icons"]⟩

/-! ## Names -/

/-- The name that was given to a slot. -/
def nameFor? (choices : Choices) (slot : Slot) : Option String :=
  (choices.find? fun (s, _) => s == slot).map Prod.snd

/-- Gives slots their icons one after the other; the first name that is not declared is
reported with its slot. -/
def resolveFrom (choices : Choices) : List Slot → Theme → Except (Slot × UnknownIcon) Theme
  | [], theme => .ok theme
  | slot :: slots, theme =>
    match nameFor? choices slot with
    | none => resolveFrom choices slots theme
    | some name =>
      match icons.lookup name with
      | .ok id => resolveFrom choices slots (theme.assign slot id)
      | .error e => .error (slot, e)

/-- The slots in the order in which their names are looked up. -/
def resolveOrder : List Slot :=
  [.folder, .audio, .image, .video, .document, .binary, .play, .pause, .stop, .previous, .next,
    .placeholder]

theorem resolveOrder_eq : resolveOrder = Slot.all := rfl

/-- The default theme with the chosen icons. -/
def resolve (choices : Choices) : Except (Slot × UnknownIcon) Theme :=
  resolveFrom choices resolveOrder Theme.default

/-! ## Documents -/

/-- Why a text is no configuration. -/
inductive Error where
  | notToml
  | badShape (sight : Toml.Sight) (problem : Problem)
  | unknownIcon (slot : Slot) (e : UnknownIcon)
  deriving Repr, DecidableEq

/-- What is wrong with the text as a document; an unknown icon is no fault of the document. -/
def Error.report? : Error → Option String
  | .notToml => some "TOML parse error"
  | .badShape sight problem => some (sight.report problem.message)
  | .unknownIcon _ _ => none

def Error.message : Error → String
  | .unknownIcon slot e => "icon slot '" ++ slot.name ++ "': " ++ e.message
  | .notToml => "invalid config: TOML parse error"
  | .badShape sight problem => "invalid config: " ++ sight.report problem.message

/-- What decoding a parsed document gives, before any place is looked up in the text. -/
def decode (members : List Toml.Member) : Except (Fault ⊕ (Slot × UnknownIcon)) Theme :=
  match choices members with
  | .error fault => .error (.inl fault)
  | .ok choices =>
    match resolve choices with
    | .error bad => .error (.inr bad)
    | .ok theme => .ok theme

/-- The theme that a text configures. -/
def parse (source : String) : Except Error Theme :=
  match Toml.parse? source with
  | none => .error .notToml
  | some members =>
    match decode members with
    | .ok theme => .ok theme
    | .error (.inl fault) =>
      .error (.badShape (Toml.sight source.toList fault.extent) fault.problem)
    | .error (.inr (slot, e)) => .error (.unknownIcon slot e)

end Config

end GlyphBook
