import GlyphBook.Json.Number
import GlyphBook.Json.Text
import GlyphBook.Registry.Basic

/-!
# Reading JSON as a stream

A reader takes the text that is left and gives its value with the text after it. The first problem
met decides the failure, whatever stands behind it: text that is not JSON is a syntax error, a
value of the wrong shape or with the wrong content a data error. A list or a table in the place of
a string is refused at its bracket, unread.
-/

namespace GlyphBook

namespace Json

/-- Why a text does not read as the asked shape. -/
inductive Error where
  | notJson
  | mismatch (m : Mismatch)
  | unknownIcon (e : UnknownIcon)
  deriving Repr, DecidableEq

/-- A reader of one kind of value. -/
abbrev Reader (α : Type) := List Char → Except Error (α × List Char)

/-! ## Blanks and words -/

def isBlank (c : Char) : Bool := c = ' ' || c = '\t' || c = '\n' || c = '\r'

def skipBlanks (cs : List Char) : List Char := cs.dropWhile isBlank

/-- The text after `word`, if it starts with it. -/
def afterWord? (word : List Char) (cs : List Char) : Option (List Char) :=
  if word.isPrefixOf cs then some (cs.drop word.length) else none

/-! ## Values of the wrong kind -/

/-- The error for a complete value that is not `expected`; an incomplete one is no JSON. -/
def refuse (expected : String) (seen : Option Seen) : Error :=
  match seen with
  | some seen => .mismatch ⟨seen, expected⟩
  | none => .notJson

/-- What stands at the front of the text, as far as a refusal names it. Of a list or a table only
the bracket is looked at. -/
def seenAt? : List Char → Option Seen
  | [] => none
  | '[' :: _ => some .sequence
  | '{' :: _ => some .map
  | '"' :: rest => (readText? rest).map fun (text, _) => .text (String.ofList text)
  | 'n' :: rest => (afterWord? ['u', 'l', 'l'] rest).map fun _ => .null
  | 't' :: rest => (afterWord? ['r', 'u', 'e'] rest).map fun _ => .boolean true
  | 'f' :: rest => (afterWord? ['a', 'l', 's', 'e'] rest).map fun _ => .boolean false
  | '-' :: rest => (readNumeral? true rest).bind fun (n, _) => n.seen?
  | c :: rest => (readNumeral? false (c :: rest)).bind fun (n, _) => n.seen?

/-! ## Strings, lists and tables -/

/-- A string. -/
def readString : Reader String := fun cs =>
  match skipBlanks cs with
  | '"' :: rest =>
    match readText? rest with
    | some (text, after) => .ok (String.ofList text, after)
    | none => .error .notJson
  | front => .error (refuse "a string" (seenAt? front))

/-- A value, or `null` for none. -/
def readOptional (value : Reader α) : Reader (Option α) := fun cs =>
  match skipBlanks cs with
  | 'n' :: rest =>
    match afterWord? ['u', 'l', 'l'] rest with
    | some after => .ok (none, after)
    | none => .error .notJson
  | front => (value front).map fun (v, after) => (some v, after)

/-- The elements of a list after the first, up to the closing bracket. `fuel` bounds their number;
the length of the text is always enough. -/
def readElements (value : Reader α) : Nat → Reader (List α)
  | 0, _ => .error .notJson
  | fuel + 1, cs =>
    match skipBlanks cs with
    | ']' :: after => .ok ([], after)
    | ',' :: rest =>
      match skipBlanks rest with
      | [] => .error .notJson
      | ']' :: _ => .error .notJson
      | front => do
        let (v, after) ← value front
        let (vs, after) ← readElements value fuel after
        return (v :: vs, after)
    | _ => .error .notJson

/-- A list in brackets. -/
def readList (value : Reader α) : Reader (List α) := fun cs =>
  match skipBlanks cs with
  | '[' :: rest =>
    match skipBlanks rest with
    | [] => .error .notJson
    | ']' :: after => .ok ([], after)
    | front => do
      let (v, after) ← value front
      let (vs, after) ← readElements value (after.length + 1) after
      return (v :: vs, after)
  | front => .error (refuse "a sequence" (seenAt? front))

/-- A key, its colon and its value. -/
def readMember (value : Reader α) : Reader (String × α) := fun cs =>
  match cs with
  | '"' :: rest =>
    match readText? rest with
    | none => .error .notJson
    | some (key, after) =>
      match skipBlanks after with
      | ':' :: rest => (value rest).map fun (v, after) => ((String.ofList key, v), after)
      | _ => .error .notJson
  | _ => .error .notJson

/-- The members of a table after the first, up to the closing brace. -/
def readMembers (value : Reader α) : Nat → Reader (List (String × α))
  | 0, _ => .error .notJson
  | fuel + 1, cs =>
    match skipBlanks cs with
    | '}' :: after => .ok ([], after)
    | ',' :: rest => do
      let (m, after) ← readMember value (skipBlanks rest)
      let (ms, after) ← readMembers value fuel after
      return (m :: ms, after)
    | _ => .error .notJson

/-- A table in braces, its members as they were written. -/
def readTable (value : Reader α) : Reader (List (String × α)) := fun cs =>
  match skipBlanks cs with
  | '{' :: rest =>
    match skipBlanks rest with
    | '}' :: after => .ok ([], after)
    | front => do
      let (m, after) ← readMember value front
      let (ms, after) ← readMembers value (after.length + 1) after
      return (m :: ms, after)
  | front => .error (refuse "a map" (seenAt? front))

/-- A whole text: one value with nothing but blanks behind it. -/
def readAll (value : Reader α) (text : String) : Except Error α := do
  let (v, after) ← value text.toList
  match skipBlanks after with
  | [] => return v
  | _ => throw .notJson

end Json

end GlyphBook
