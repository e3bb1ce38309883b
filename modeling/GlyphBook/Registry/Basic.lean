import GlyphBook.Icon
import GlyphBook.Text.Quoted

/-!
# Icon registries

A registry is an ordered list of names with their icons, no name twice. Its identifiers are the
places in that list, so every identifier has an icon and identifiers compare as they were
declared. Names come from outside as plain strings; `Registry.lookup` is the one gate through
which a string becomes an identifier, and it compares whole strings, character by character.
-/

namespace GlyphBook

/-- A string that names no icon of the registry it was looked up in. -/
structure UnknownIcon where
  id : String
  deriving Repr, DecidableEq

def UnknownIcon.message (e : UnknownIcon) : String :=
  "unknown icon identifier '" ++ e.id ++ "'"

/-- A declared name with its icon. -/
structure Entry where
  name : String
  icon : Icon
  deriving Repr, DecidableEq

/-- An ordered icon set in which no name is declared twice. -/
structure Registry where
  entries : List Entry
  names_nodup : (entries.map Entry.name).Nodup

namespace Registry

variable (R : Registry)

/-- An identifier is a place in the list of declarations. -/
abbrev Id := Fin R.entries.length

/-! ## Reading an entry -/

def entry (id : R.Id) : Entry := R.entries[id]

def name (id : R.Id) : String := (R.entry id).name

def icon (id : R.Id) : Icon := (R.entry id).icon

/-- A name belongs to one identifier only. -/
theorem eq_of_name_eq {a b : R.Id} (h : R.name a = R.name b) : a = b := by
  have place (id : R.Id) : (R.entries.map Entry.name)[id.val]? = some (R.name id) := by
    rw [List.getElem?_map, List.getElem?_eq_getElem id.isLt]
    rfl
  have hlt : a.val < (R.entries.map Entry.name).length := by
    rw [List.length_map]
    exact a.isLt
  exact Fin.ext ((List.getElem?_inj hlt R.names_nodup).mp (by rw [place, place, h]))

/-! ## All entries, in the order of declaration -/

def keys : List R.Id := List.finRange R.entries.length

def size : Nat := R.entries.length

def isEmpty : Bool := R.entries.isEmpty

/-- Each identifier with its icon. -/
def toList : List (R.Id × Icon) := R.keys.map fun id => (id, R.icon id)

/-- The registry on one line: names and glyphs, both quoted, in braces. -/
def summary : String :=
  "\x7b" ++ String.intercalate ", " (R.toList.map fun (id, icon) =>
    quoted (R.name id) ++ ": " ++ quoted icon.glyph) ++ "\x7d"

/-! ## From strings to identifiers -/

def find? (name : String) : Option R.Id := R.keys.find? fun id => R.name id == name

/-- A name is found at the identifier that has it, and nowhere else. -/
theorem find?_eq_some_iff {name : String} {id : R.Id} :
    R.find? name = some id ↔ R.name id = name := by
  have found {b : R.Id} (h : R.find? name = some b) : R.name b = name := by
    have := List.find?_some (p := fun id => R.name id == name) h
    exact eq_of_beq this
  refine ⟨found, fun h => ?_⟩
  have hmem : (R.find? name).isSome := by
    rw [find?, List.find?_isSome]
    exact ⟨id, List.mem_finRange id, beq_iff_eq.mpr h⟩
  obtain ⟨b, hb⟩ := Option.isSome_iff_exists.mp hmem
  rw [hb, R.eq_of_name_eq ((found hb).trans h.symm)]

/-- The identifier declared with exactly this name. -/
def lookup (name : String) : Except UnknownIcon R.Id :=
  match R.find? name with
  | some id => .ok id
  | none => .error ⟨name⟩

theorem lookup_eq_ok_iff {name : String} {id : R.Id} :
    R.lookup name = .ok id ↔ R.name id = name := by
  rw [← R.find?_eq_some_iff, lookup]
  split
  · next found h => rw [h, Except.ok.injEq, Option.some.injEq]
  · next h => rw [h]; simp

/-- A string read as an identifier, the way values of other types are read from strings. -/
def ofString (s : String) : Except UnknownIcon R.Id := R.lookup s

/-- The icon declared under exactly this name. -/
def resolve (name : String) : Except UnknownIcon Icon :=
  (R.lookup name).map R.icon

/-! ## Order -/

/-- The identifiers of a list in the order of declaration. -/
def sorted (ids : List R.Id) : List R.Id := ids.mergeSort fun a b => decide (a ≤ b)

/-- The identifier of the list that was declared first. -/
def first? : List R.Id → Option R.Id
  | [] => none
  | id :: ids => some (ids.foldl (fun least b => if b < least then b else least) id)

/-- The identifier of the list that was declared last. -/
def last? : List R.Id → Option R.Id
  | [] => none
  | id :: ids => some (ids.foldl (fun greatest b => if greatest < b then b else greatest) id)

end Registry

end GlyphBook
