import GlyphBook.Toml.Value

/-!
# Putting a document together

A document is given line by line: a header names the table that the following keys belong to, and
a key may itself be a path of keys. Each line changes the tree in one place, and each may be
refused there: a key is given once, a table is defined once, and dotted keys only add to tables
that dotted keys or longer headers made.
-/

namespace GlyphBook

namespace Toml

/-- A dotted key: the tables on the way, and the key in the last of them. -/
structure Path where
  way : List Key
  last : Key
  deriving Repr, DecidableEq

namespace Path

def size (p : Path) : Nat := p.way.length + 1

def keys (p : Path) : List Key := p.way ++ [p.last]

/-- The path one table further from its key. -/
def cons (key : Key) (p : Path) : Path := ⟨key :: p.way, p.last⟩

end Path

/-- A line that carries data. -/
inductive Statement where
  | header (path : Path) (extent : Extent)
  | listHeader (path : Path) (extent : Extent)
  | entry (path : Path) (extent : Extent) (value : Value)
  deriving Repr

/-! ## Changing one member -/

/-- Changes the value of a key, or appends the key with a value. -/
def alter (key : Key) (change : Option (Extent × Value) → Option (Extent × Value)) :
    List Member → Option (List Member)
  | [] => (change none).map fun v => [(key, v)]
  | (k, v) :: rest =>
    if k.name = key.name then (change (some v)).map fun v => (k, v) :: rest
    else (alter key change rest).map ((k, v) :: ·)

def find? (name : String) (members : List Member) : Option (Extent × Value) :=
  (members.find? fun (k, _) => k.name == name).map Prod.snd

def erase (name : String) (members : List Member) : List Member :=
  members.filter fun (k, _) => k.name != name

/-! ## Walking down a path -/

/-- Changes the members of the last table of a list of tables. -/
def changeLast (change : TableForm → List Member → Option (List Member)) :
    List (Extent × Value) → Option (List (Extent × Value))
  | [] => none
  | [(extent, .table form members)] =>
    (change form members).map fun members => [(extent, .table form members)]
  | [_] => none
  | item :: next :: rest => (changeLast change (next :: rest)).map (item :: ·)

/-- Changes the table at the end of `way`. Tables that are missing on the way are made, open to
later lines and placed where the key is written. A header may pass through any table that is not
complete in itself; a dotted key only through open ones. Both pass through a list of tables into
its last. -/
def within (dotted : Bool) (change : TableForm → List Member → Option (List Member)) :
    List Key → TableForm → List Member → Option (List Member)
  | [], form, members => change form members
  | key :: way, _, members =>
    members |> alter key fun
      | none =>
        let form := if dotted then TableForm.dotted else TableForm.implied
        (within dotted change way form []).map fun sub => (key.extent, .table form sub)
      | some (extent, .table form sub) =>
        if form = .inline ∨ (dotted = true ∧ form.isOpen = false) then none
        else (within dotted change way form sub).map fun sub => (extent, .table form sub)
      | some (extent, .list .tables items) =>
        (changeLast (within dotted change way) items).map fun items => (extent, .list .tables items)
      | some _ => none

/-! ## The three kinds of line -/

/-- Appends a key that is not there yet. -/
def appendNew (key : Key) (extent : Extent) (value : Value) (members : List Member) :
    Option (List Member) :=
  match find? key.name members with
  | some _ => none
  | none => some (members ++ [(key, extent, value)])

/-- Gives a key its value. At the end of a dotted path the table has to be one that dotted keys
made. -/
def addEntry (path : Path) (extent : Extent) (value : Value) :
    TableForm → List Member → Option (List Member) :=
  within true (fun form members =>
    if (form == .dotted) == path.way.isEmpty then none
    else appendNew path.last extent value members) path.way

/-- Starts a table. One that longer headers have already made is taken up again, and stands from
now on where its own header does. -/
def startTable (path : Path) (extent : Extent) : TableForm → List Member → Option (List Member) :=
  within false (fun _ members =>
    match find? path.last.name members with
    | none => some (members ++ [(path.last, extent, .table .header [])])
    | some (_, .table .implied sub) =>
      some (erase path.last.name members ++ [(path.last, extent, .table .header sub)])
    | some _ => none) path.way

/-- Starts the next table of a list of tables; the list reaches from the start of its first table
to the end of its last. -/
def startListTable (path : Path) (extent : Extent) :
    TableForm → List Member → Option (List Member) :=
  within false (fun _ members =>
    members |> alter path.last fun
      | none => some (extent, .list .tables [(extent, .table .header [])])
      | some (whole, .list .tables items) =>
        some (⟨whole.start, extent.stop⟩, .list .tables (items ++ [(extent, .table .header [])]))
      | some _ => none) path.way

/-! ## The whole document -/

/-- A document in the making: its members, and the path of the table that keys now go into. -/
structure Draft where
  members : List Member := []
  current : List Key := []

/-- The draft after one more line, or `none` if the line may not stand here. -/
def Draft.add? (draft : Draft) : Statement → Option Draft
  | .header path extent =>
    (startTable path extent .header draft.members).map fun members => ⟨members, path.keys⟩
  | .listHeader path extent =>
    (startListTable path extent .header draft.members).map fun members => ⟨members, path.keys⟩
  | .entry path extent value =>
    (within false (addEntry path extent value) draft.current .header draft.members).map
      fun members => { draft with members := members }

/-- The end of the last value in front of the next header. -/
def lastValueStop? : List Statement → Option Nat
  | .entry _ extent _ :: lines => some ((lastValueStop? lines).getD extent.stop)
  | _ => none

/-- A table that a header made reaches from the header to the last value below it. -/
def reachValues : List Statement → List Statement
  | [] => []
  | .header path extent :: lines =>
    .header path ⟨extent.start, (lastValueStop? lines).getD extent.stop⟩ :: reachValues lines
  | .listHeader path extent :: lines =>
    .listHeader path ⟨extent.start, (lastValueStop? lines).getD extent.stop⟩ :: reachValues lines
  | line :: lines => line :: reachValues lines

/-- The members of the document with these lines. -/
def assemble? (lines : List Statement) : Option (List Member) :=
  ((reachValues lines).foldlM Draft.add? {}).map Draft.members

/-- The members of a table in braces with these entries. -/
def assembleInline? (entries : List (Path × Extent × Value)) : Option (List Member) :=
  entries.foldlM (fun members (path, extent, value) =>
    addEntry path extent value .inline members) []

end Toml

end GlyphBook
