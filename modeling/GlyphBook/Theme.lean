import GlyphBook.Media.Category
import GlyphBook.Registry.Builtin

/-!
# Themes

A theme says which icon is drawn in each of twelve places, the slots. Slots have a fixed order,
the one in which themes are printed and in which a configuration is checked.
-/

namespace GlyphBook

/-! ## Slots -/

/-- A place in which the program draws an icon. -/
inductive Slot where
  | folder
  | audio
  | image
  | video
  | document
  | binary
  | play
  | pause
  | stop
  | previous
  | next
  | placeholder
  deriving Repr, DecidableEq

namespace Slot

/-- Every slot, in the fixed order. -/
def all : List Slot :=
  [.folder, .audio, .image, .video, .document, .binary, .play, .pause, .stop, .previous, .next,
    .placeholder]

def name : Slot → String
  | .folder => "folder"
  | .audio => "audio"
  | .image => "image"
  | .video => "video"
  | .document => "document"
  | .binary => "binary"
  | .play => "play"
  | .pause => "pause"
  | .stop => "stop"
  | .previous => "previous"
  | .next => "next"
  | .placeholder => "placeholder"

theorem mem_all (slot : Slot) : slot ∈ all := by cases slot <;> decide

theorem nodup_all : all.Nodup := by decide

/-- The slot of exactly this name. -/
def ofName? (name : String) : Option Slot := all.find? fun slot => slot.name == name

@[simp]
theorem ofName?_name (slot : Slot) : ofName? slot.name = some slot := by
  cases slot <;> rfl

theorem eq_of_name_eq {a b : Slot} (h : a.name = b.name) : a = b := by
  have hname := ofName?_name a
  rw [h, ofName?_name] at hname
  exact (Option.some.inj hname).symm

/-- The slot that shows files of a category. -/
def ofCategory : Category → Slot
  | .image => .image
  | .audio => .audio
  | .video => .video
  | .document => .document
  | .binary => .binary

end Slot

/-! ## Themes -/

/-- The icon of every slot. -/
@[ext]
structure Theme where
  icon : Slot → IconId

namespace Theme

/-- What is drawn where nothing else was asked for. -/
def default : Theme where
  icon
    | .folder => .folder
    | .audio => .fileAudio
    | .image => .fileImage
    | .video => .fileVideo
    | .document => .fileText
    | .binary => .fileBinary
    | .play => .play
    | .pause => .pause
    | .stop => .stop
    | .previous => .previous
    | .next => .next
    | .placeholder => .question

instance : Inhabited Theme := ⟨default⟩

/-- Themes are compared slot by slot. -/
instance : DecidableEq Theme := fun a b =>
  decidable_of_iff (∀ slot ∈ Slot.all, a.icon slot = b.icon slot)
    ⟨fun h => Theme.ext (funext fun slot => h slot slot.mem_all), fun h _ _ => h ▸ rfl⟩

/-- The theme with one slot reassigned. -/
def assign (theme : Theme) (slot : Slot) (id : IconId) : Theme where
  icon s := if s = slot then id else theme.icon s

@[simp]
theorem icon_assign_self (theme : Theme) (slot : Slot) (id : IconId) :
    (theme.assign slot id).icon slot = id := if_pos rfl

theorem icon_assign_of_ne (theme : Theme) {slot other : Slot} (id : IconId) (h : other ≠ slot) :
    (theme.assign slot id).icon other = theme.icon other := if_neg h

/-- Every slot with its icon, in the fixed order. -/
def slots (theme : Theme) : List (Slot × IconId) :=
  [(.folder, theme.icon .folder),
    (.audio, theme.icon .audio),
    (.image, theme.icon .image),
    (.video, theme.icon .video),
    (.document, theme.icon .document),
    (.binary, theme.icon .binary),
    (.play, theme.icon .play),
    (.pause, theme.icon .pause),
    (.stop, theme.icon .stop),
    (.previous, theme.icon .previous),
    (.next, theme.icon .next),
    (.placeholder, theme.icon .placeholder)]

theorem slots_eq (theme : Theme) :
    theme.slots = Slot.all.map fun slot => (slot, theme.icon slot) := rfl

/-- The slots that show `id`, in the fixed order. -/
def slotsUsing (theme : Theme) (id : IconId) : List Slot :=
  (theme.slots.filter fun (_, shown) => shown == id).map Prod.fst

theorem slotsUsing_eq (theme : Theme) (id : IconId) :
    theme.slotsUsing id = Slot.all.filter fun slot => theme.icon slot == id := by
  rw [slotsUsing, slots_eq, List.filter_map, List.map_map]
  exact List.map_id _

theorem slotsUsing_sublist (theme : Theme) (id : IconId) :
    (theme.slotsUsing id).Sublist Slot.all := by
  rw [slotsUsing_eq]
  exact List.filter_sublist

theorem mem_slotsUsing {theme : Theme} {id : IconId} {slot : Slot} :
    slot ∈ theme.slotsUsing id ↔ theme.icon slot = id := by
  simp [slotsUsing_eq, Slot.mem_all]

/-! ## What is drawn for a directory entry -/

/-- An entry of a directory, as far as its icon goes. -/
inductive EntryKind where
  | directory
  | file (category : Category)
  deriving Repr, DecidableEq

def EntryKind.slot : EntryKind → Slot
  | .directory => .folder
  | .file category => Slot.ofCategory category

/-- The icon drawn in a slot. -/
def drawn (theme : Theme) (slot : Slot) : Icon := icons.icon (theme.icon slot)

/-- The icon drawn for files of a category. -/
def categoryIcon (theme : Theme) (category : Category) : Icon :=
  theme.drawn (Slot.ofCategory category)

/-- The icon drawn for a directory entry. -/
def entryIcon (theme : Theme) (kind : EntryKind) : Icon := theme.drawn kind.slot

/-! ## Printing -/

/-- A line per slot: its name, the name of its icon and the glyph, set apart by tabs. -/
def lines (theme : Theme) : List String :=
  theme.slots.map fun (slot, id) =>
    slot.name ++ "\t" ++ icons.name id ++ "\t" ++ (icons.icon id).glyph ++ "\n"

def listing (theme : Theme) : String := String.join theme.lines

end Theme

end GlyphBook
