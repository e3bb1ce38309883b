import GlyphBook.Json.Reader

/-!
# Identifiers as JSON

An identifier is written as its name. Four shapes cross the boundary: one identifier, an optional
one, a list, and a table from text to identifiers. A table is held in the order of its keys with
each key once; when a key is written twice the later value counts.
-/

namespace GlyphBook

namespace Registry

variable (R : Registry)

/-! ## Writing -/

def writeId (id : R.Id) : List Char := Json.writeText (R.name id)

def writeOptional : Option R.Id → List Char
  | none => ['n', 'u', 'l', 'l']
  | some id => R.writeId id

/-- Written values with a comma between each two. -/
def joinValues : List (List Char) → List Char
  | [] => []
  | [v] => v
  | v :: w :: rest => v ++ ',' :: joinValues (w :: rest)

def writeList (ids : List R.Id) : List Char :=
  '[' :: joinValues (ids.map R.writeId) ++ [']']

def writeTable (members : List (String × R.Id)) : List Char :=
  '\x7b' :: joinValues (members.map fun (key, id) => Json.writeText key ++ ':' :: R.writeId id)
    ++ ['\x7d']

/-! ## Reading -/

/-- The name of a declared icon. -/
def readId : Json.Reader R.Id := fun cs => do
  let (name, after) ← Json.readString cs
  match R.lookup name with
  | .ok id => return (id, after)
  | .error e => throw (.unknownIcon e)

/-- Puts a key in its place among sorted keys; a key that is there already gets the new value. -/
def bind (key : String) (id : R.Id) : List (String × R.Id) → List (String × R.Id)
  | [] => [(key, id)]
  | (k, v) :: rest =>
    if key < k then (key, id) :: (k, v) :: rest
    else if key = k then (key, id) :: rest
    else (k, v) :: bind key id rest

/-- The table of a list of members, in the order of the keys. -/
def tableOf (members : List (String × R.Id)) : List (String × R.Id) :=
  members.foldl (fun table (key, id) => R.bind key id table) []

def parseId (text : String) : Except Json.Error R.Id := Json.readAll R.readId text

def parseOptional (text : String) : Except Json.Error (Option R.Id) :=
  Json.readAll (Json.readOptional R.readId) text

def parseList (text : String) : Except Json.Error (List R.Id) :=
  Json.readAll (Json.readList R.readId) text

def parseTable (text : String) : Except Json.Error (List (String × R.Id)) :=
  (Json.readAll (Json.readTable R.readId) text).map R.tableOf

end Registry

/-- The message of a data error; a text that is no JSON has none. -/
def Json.Error.message? : Json.Error → Option String
  | .notJson => none
  | .mismatch m => some (m.message Json.numbers)
  | .unknownIcon e => some e.message

end GlyphBook
