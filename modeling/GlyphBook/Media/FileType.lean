import GlyphBook.Files.Basic
import GlyphBook.Media.Extension
import GlyphBook.Media.Signature

/-!
# The type of a file

A file is of the type that the signature in its first bytes names; the name of the file and the
rest of its bytes then play no part. Where no signature fits, its extension is looked up in a table,
and where that is not known either the file is plain bytes.
-/

namespace GlyphBook

/-- A media type with the category it is shown as. -/
structure FileType where
  mime : String
  category : Category
  deriving Repr, DecidableEq

namespace FileType

/-- How many of the first bytes are looked at. -/
def sniffLength : Nat := 8192

/-- The type of a file about which nothing is known. -/
def plain : FileType := ⟨"application/octet-stream", .binary⟩

/-- A subtype without the suffix behind its last plus sign, which names an encoding. -/
def withoutSuffix (subtype : List Char) : List Char :=
  match (subtype.reverse.dropWhile (· ≠ '+')).drop 1 with
  | [] => subtype
  | front => front.reverse

/-- A media type in its two halves. -/
def halves (mime : String) : String × String :=
  (String.ofList (mime.toList.takeWhile (· ≠ '/')),
    String.ofList (withoutSuffix ((mime.toList.dropWhile (· ≠ '/')).drop 1)))

/-- The type that a name suggests. -/
def ofExtension (table : Extension.Table) (extension? : Option String) : FileType :=
  match extension?.bind table.mime? with
  | some mime => ⟨mime, Category.ofMediaType (halves mime).1 (halves mime).2⟩
  | none => plain

/-- The type that the first bytes show. -/
def sniff? (content : Bytes) : Option FileType :=
  (Signature.match? (content.take sniffLength)).map fun s => ⟨s.mime, s.family.category⟩

/-- The type of a file with this path and these bytes. -/
def ofContent (table : Extension.Table) (path : String) (content : Bytes) : FileType :=
  (sniff? content).getD (ofExtension table (Extension.ofPath? path))

/-- The type of the file at a path, or why it cannot be read. -/
def detect (table : Extension.Table) (files : Files) (path : String) : Except FileError FileType :=
  (files.read path).map (ofContent table path)

/-- What is said of a path that cannot be read, and why. -/
def failureChain (path : String) (e : FileError) : List String :=
  ["failed to read " ++ path, e.message]

end FileType

end GlyphBook
