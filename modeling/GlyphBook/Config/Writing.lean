import GlyphBook.Config.Basic
import GlyphBook.Toml.Writing

/-!
# Writing configurations

The same choices can be written under a header, with dotted keys, or as a table in braces, and the
choices of the first slots also as a list. A theme is written as the choices of all its slots.
-/

namespace GlyphBook

namespace Config

/-- The three ways to write choices under their names. -/
inductive Form where
  | headed
  | dotted
  | braced
  deriving Repr, DecidableEq

/-- A slot with the name that it is given. -/
def writeChoice : Slot × String → List Char
  | (slot, name) => slot.name.toList ++ ' ' :: '=' :: ' ' :: Toml.writeText name

/-- Written parts with a comma and a blank between each two. -/
def commaSeparated : List (List Char) → List Char
  | [] => []
  | [part] => part
  | part :: next :: rest => part ++ ',' :: ' ' :: commaSeparated (next :: rest)

/-- A document with these choices. -/
def write (form : Form) (choices : Choices) : String :=
  String.ofList <| match form with
    | .headed =>
      "[icons]\n".toList ++ choices.flatMap fun choice => writeChoice choice ++ ['\n']
    | .dotted =>
      choices.flatMap fun choice => "icons.".toList ++ writeChoice choice ++ ['\n']
    | .braced =>
      "icons = \x7b ".toList ++ commaSeparated (choices.map writeChoice) ++ " \x7d\n".toList

/-- A document that gives names to the first slots. -/
def writeList (names : List String) : String :=
  String.ofList ("icons = [".toList ++ commaSeparated (names.map Toml.writeText) ++ "]\n".toList)

end Config

/-- The choices that make a theme, in an order of the slots. -/
def Theme.choices (theme : Theme) (order : List Slot) : Config.Choices :=
  order.map fun slot => (slot, icons.name (theme.icon slot))

end GlyphBook
