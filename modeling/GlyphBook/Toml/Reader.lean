import GlyphBook.Toml.Assembly
import GlyphBook.Toml.Blank
import GlyphBook.Toml.Moment
import GlyphBook.Toml.Text

/-!
# Reading TOML

The text is read into its lines of data, and the lines are put together into the tree of the
document. Readers take the text that is left and give what they read with the text behind it.
Where readers call each other on what is left, `fuel` bounds the calls; twice the length of the
text is always enough.
-/

namespace GlyphBook

namespace Toml

/-- How deep lists and tables in braces may be nested, and how long a dotted key may be, counting
from the first that is too much. -/
def nestingLimit : Nat := 80

/-! ## Keys -/

def isBareKeyChar (c : Char) : Bool :=
  ('A' ≤ c && c ≤ 'Z') || ('a' ≤ c && c ≤ 'z') || ('0' ≤ c && c ≤ '9') || c = '_' || c = '-'

/-- The name that a key spells. -/
def readKeyName? : List Char → Option (List Char × List Char)
  | '"' :: rest => readBasic? rest
  | '\x27' :: rest => readLiteral? rest
  | cs =>
    match cs.takeWhile isBareKeyChar with
    | [] => none
    | name => some (name, cs.dropWhile isBareKeyChar)

/-- One key of a path. -/
def readKey? (cs : List Char) : Option (Key × List Char) :=
  (readKeyName? cs).map fun (name, after) =>
    (⟨String.ofList name, ⟨cs.length, after.length⟩⟩, after)

/-- Keys with points between them; blanks may stand around each. -/
def readKeys? : Nat → List Char → Option (Path × List Char)
  | 0, _ => none
  | fuel + 1, cs =>
    match readKey? (skipBlanks cs) with
    | none => none
    | some (key, after) =>
      match skipBlanks after with
      | '.' :: rest => (readKeys? fuel rest).map fun (path, after) => (path.cons key, after)
      | after => some (⟨[], key⟩, after)

/-- A dotted key that is not too long. -/
def readPath? (cs : List Char) : Option (Path × List Char) :=
  match readKeys? cs.length cs with
  | none => none
  | some (path, after) => if path.size < nestingLimit then some (path, after) else none

/-! ## Values -/

/-- A value that contains no other. -/
def readScalar? (cs : List Char) : Option (Value × List Char) :=
  match cs with
  | [] => none
  | c :: _ =>
    if c = '"' ∨ c = '\x27' then (readText? cs).map fun (text, after) => (.text text, after)
    else if c = 't' ∨ c = 'f' then readBoolean? cs
    else if c = 'i' ∨ c = 'n' then readDoubleWord? cs
    else if c = '+' ∨ c = '-' ∨ isDigit c = true then
      readMoment? cs <|> readDecimal? cs <|> readDoubleWord? cs <|> readInteger? cs
    else none

mutual

/-- A value with its place. `depth` counts the brackets and braces around it. -/
def readValue? : Nat → Nat → List Char → Option ((Extent × Value) × List Char)
  | 0, _, _ => none
  | fuel + 1, depth, cs =>
    match cs with
    | '[' :: rest =>
      if depth + 1 < nestingLimit then
        (readItems? fuel (depth + 1) rest).map fun (items, after) =>
          ((⟨cs.length, after.length⟩, .list .written items), after)
      else none
    | '\x7b' :: rest =>
      if depth + 1 < nestingLimit then
        match readMembers? fuel (depth + 1) true rest with
        | none => none
        | some (entries, after) =>
          (assembleInline? entries).map fun members =>
            ((⟨cs.length, after.length⟩, .table .inline members), after)
      else none
    | cs =>
      (readScalar? cs).map fun (value, after) => ((⟨cs.length, after.length⟩, value), after)

/-- The items of a list up to its closing bracket. A bracket may close the list before any item
and behind a comma. -/
def readItems? : Nat → Nat → List Char → Option (List (Extent × Value) × List Char)
  | 0, _, _ => none
  | fuel + 1, depth, cs =>
    match skipVoid? false cs with
    | none => none
    | some (']' :: after) => some ([], after)
    | some front =>
      match readValue? fuel depth front with
      | none => none
      | some (item, after) =>
        match skipVoid? false after with
        | some (',' :: rest) =>
          (readItems? fuel depth rest).map fun (items, after) => (item :: items, after)
        | some (']' :: after) => some ([item], after)
        | _ => none

/-- The entries of a table in braces up to the closing brace, which may come at once but not
behind a comma. The table stands on one line. -/
def readMembers? : Nat → Nat → Bool → List Char → Option (List (Path × Extent × Value) × List Char)
  | 0, _, _, _ => none
  | fuel + 1, depth, first, cs =>
    match first, skipBlanks cs with
    | true, '\x7d' :: after => some ([], after)
    | _, front =>
      match readPath? front with
      | some (path, '=' :: rest) =>
        match readValue? fuel depth (skipBlanks rest) with
        | none => none
        | some ((extent, value), after) =>
          match skipBlanks after with
          | ',' :: rest =>
            (readMembers? fuel depth false rest).map fun (entries, after) =>
              ((path, extent, value) :: entries, after)
          | '\x7d' :: after => some ([(path, extent, value)], after)
          | _ => none
      | _ => none

end

/-! ## Lines -/

/-- A header with its brackets, up to the end of its line. -/
def readHeader? (double : Bool) (cs inner : List Char) : Option (Statement × List Char) :=
  match readPath? inner, double with
  | some (path, ']' :: ']' :: after), true =>
    (finishLine? after).map fun rest =>
      (.listHeader path ⟨cs.length, after.length⟩, rest)
  | some (path, ']' :: after), false =>
    (finishLine? after).map fun rest => (.header path ⟨cs.length, after.length⟩, rest)
  | _, _ => none

/-- A key with its value, to the end of the line. -/
def readEntry? (cs : List Char) : Option (Statement × List Char) :=
  match readPath? cs with
  | some (path, '=' :: rest) =>
    match readValue? (2 * rest.length + 2) 0 (skipBlanks rest) with
    | none => none
    | some ((extent, value), after) =>
      (finishLine? after).map fun rest => (.entry path extent value, rest)
  | _ => none

/-- The line of data at the front of the text. -/
def readStatement? : List Char → Option (Statement × List Char)
  | '[' :: '[' :: rest => readHeader? true ('[' :: '[' :: rest) rest
  | '[' :: rest => readHeader? false ('[' :: rest) rest
  | cs => readEntry? cs

/-- The lines of data up to the end of the text. -/
def readStatements? : Nat → List Char → Option (List Statement)
  | 0, _ => none
  | fuel + 1, cs =>
    match skipBlanks cs with
    | [] => some []
    | '#' :: rest =>
      match afterLine? (skipComment ('#' :: rest)) with
      | some rest => readStatements? fuel rest
      | none => none
    | front =>
      match afterNewline? front with
      | some rest => readStatements? fuel rest
      | none =>
        match readStatement? front with
        | some (statement, rest) => (readStatements? fuel rest).map (statement :: ·)
        | none => none

/-! ## Documents -/

/-- A byte order mark in front of the text is no part of it. -/
def dropMark : List Char → List Char
  | '\ufeff' :: rest => rest
  | cs => cs

/-- The lines of data of a document. -/
def statements? (source : List Char) : Option (List Statement) :=
  readStatements? (source.length + 1) (dropMark source)

/-- The members of a document, or `none` if the text is no TOML. -/
def parse? (source : String) : Option (List Member) :=
  (statements? source.toList).bind assemble?

end Toml

end GlyphBook
