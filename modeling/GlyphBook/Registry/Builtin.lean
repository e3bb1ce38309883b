import GlyphBook.Registry.Basic

/-!
# The icon sets of the program

`icons` is the set that themes, configuration files and the picker use. `transport` holds only the
two playback icons and is the smallest set on which the registry operations can be watched. The
glyphs are private-use characters of a patched terminal font.
-/

namespace GlyphBook

/-- Every icon the program can refer to. -/
def icons : Registry where
  entries :=
    [⟨"Play", ⟨"\uf04b"⟩⟩, ⟨"Pause", ⟨"\uf04c"⟩⟩, ⟨"Stop", ⟨"\uf04d"⟩⟩,
      ⟨"Previous", ⟨"\uf048"⟩⟩, ⟨"Next", ⟨"\uf051"⟩⟩, ⟨"Shuffle", ⟨"\uf074"⟩⟩,
      ⟨"Repeat", ⟨"\uf01e"⟩⟩, ⟨"VolumeUp", ⟨"\uf028"⟩⟩, ⟨"VolumeMute", ⟨"\uf026"⟩⟩,
      ⟨"Folder", ⟨"\uf07b"⟩⟩, ⟨"FolderOpen", ⟨"\uf07c"⟩⟩, ⟨"FileAudio", ⟨"\uf1c7"⟩⟩,
      ⟨"FileImage", ⟨"\uf1c5"⟩⟩, ⟨"FileVideo", ⟨"\uf1c8"⟩⟩, ⟨"FileText", ⟨"\uf15c"⟩⟩,
      ⟨"FileBinary", ⟨"\uf1c6"⟩⟩, ⟨"Music", ⟨"\uf001"⟩⟩, ⟨"Search", ⟨"\uf002"⟩⟩,
      ⟨"Heart", ⟨"\uf004"⟩⟩, ⟨"Star", ⟨"\uf005"⟩⟩, ⟨"List", ⟨"\uf03a"⟩⟩,
      ⟨"Question", ⟨"\uf059"⟩⟩]
  names_nodup := by decide

/-- The two playback icons. -/
def transport : Registry where
  entries := [⟨"Play", ⟨"\uf04b"⟩⟩, ⟨"Pause", ⟨"\uf04c"⟩⟩]
  names_nodup := by decide

/-- An identifier of the program's own icon set. -/
abbrev IconId := icons.Id

namespace IconId

def play : IconId := ⟨0, by decide⟩
def pause : IconId := ⟨1, by decide⟩
def stop : IconId := ⟨2, by decide⟩
def previous : IconId := ⟨3, by decide⟩
def next : IconId := ⟨4, by decide⟩
def folder : IconId := ⟨9, by decide⟩
def fileAudio : IconId := ⟨11, by decide⟩
def fileImage : IconId := ⟨12, by decide⟩
def fileVideo : IconId := ⟨13, by decide⟩
def fileText : IconId := ⟨14, by decide⟩
def fileBinary : IconId := ⟨15, by decide⟩
def question : IconId := ⟨21, by decide⟩

end IconId

/-- Every glyph is a single character. -/
theorem length_glyph : ∀ id : IconId, (icons.icon id).glyph.toList.length = 1 := by decide

/-- A line per icon: its name, its code point and its glyph, set apart by tabs. -/
def listing : String :=
  String.join (icons.toList.map fun (id, icon) =>
    icons.name id ++ "\t" ++ icon.codepointLabel ++ "\t" ++ icon.glyph ++ "\n")

end GlyphBook
