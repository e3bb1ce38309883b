import GlyphBook.Bytes

/-!
# Signatures inside containers

Some formats show themselves only behind other bytes: office documents in the first entries of a
zip archive, picture formats in the brands of a media file, compressed streams behind frames that
may be skipped, and marked-up text behind blanks.
-/

namespace GlyphBook

namespace Container

open Bytes

/-! ## Zip archives -/

def zipEntry : Bytes := [0x50, 0x4B, 0x03, 0x04]

/-- The office applications, told by the folder that holds their parts. -/
inductive Office where
  | word
  | slides
  | sheet
  deriving Repr, DecidableEq

def officeAt? (offset : Nat) (bytes : Bytes) : Option Office :=
  if hasAt offset (ascii "word/") bytes then some .word
  else if hasAt offset (ascii "ppt/") bytes then some .slides
  else if hasAt offset (ascii "xl/") bytes then some .sheet
  else none

/-- How far ahead of `start` the next entry of the archive begins, among the next 6000 bytes. -/
def nextEntry? (start : Nat) (bytes : Bytes) : Option Nat :=
  let window := (bytes.drop start).take 6000
  (List.range window.length).find? fun i => hasAt i zipEntry window

/-- The application of an office document. Its folder is named by the first entry, or else the
archive opens with one of three known entries and the fourth names the folder, while the third
has to name one too. -/
def office? (bytes : Bytes) : Option Office := do
  guard (startsWith zipEntry bytes)
  match officeAt? 30 bytes with
  | some office => return office
  | none =>
    guard (hasAt 30 (ascii "[Content_Types].xml") bytes || hasAt 30 (ascii "_rels/.rels") bytes
      || hasAt 30 (ascii "docProps") bytes)
    let size ← slice? 18 4 bytes
    let first := littleEndian size + 49
    let second := first + (← nextEntry? first bytes) + 30
    let third := second + (← nextEntry? second bytes) + 30
    let _ ← officeAt? third bytes
    let behind := third + 26
    let fourth := behind + (← nextEntry? behind bytes) + 30
    officeAt? fourth bytes

/-- Whether the archive opens with the media type of a document in the open format. -/
def isOpenDocument (kind : String) (bytes : Bytes) : Bool :=
  startsWith zipEntry bytes && hasAt 30 (ascii "mimetype") bytes
    && hasAt 50 (ascii ("vnd.oasis.opendocument." ++ kind)) bytes

/-! ## Brands of media files -/

/-- The brands that the first box of a media file names: its own, and those it is compatible
with. -/
structure Brands where
  major : Bytes
  compatible : List Bytes

/-- Cuts bytes into `n` groups of four. -/
def groups : Nat → Bytes → List Bytes
  | 0, _ => []
  | n + 1, bytes => bytes.take 4 :: groups n (bytes.drop 4)

def brands? (bytes : Bytes) : Option Brands := do
  guard (16 ≤ bytes.length && hasAt 4 (ascii "ftyp") bytes)
  let boxLength := bigEndian (bytes.take 4)
  guard (boxLength ≤ bytes.length)
  return ⟨(bytes.drop 8).take 4, groups (boxLength / 4 - 4) (bytes.drop 16)⟩

def isHeif (bytes : Bytes) : Bool :=
  (brands? bytes).any fun b =>
    [ascii "heic", ascii "heix"].contains b.major
      || ([ascii "mif1", ascii "msf1"].contains b.major && b.compatible.contains (ascii "heic"))

def isAvif (bytes : Bytes) : Bool :=
  (brands? bytes).any fun b =>
    [ascii "avif", ascii "avis"].contains b.major
      || b.compatible.any fun c => [ascii "avif", ascii "avis"].contains c

/-! ## Compressed streams -/

/-- Whether a stream starts with `magic` behind any number of frames that readers skip. Such a
frame gives its own length and has to be there whole. -/
def startsStream (magic : Bytes) : Nat → Bytes → Bool
  | 0, _ => false
  | fuel + 1, bytes =>
    if startsWith magic bytes then true
    else
      let kind := littleEndian (bytes.take 4)
      let frame := 8 + littleEndian ((bytes.drop 4).take 4)
      8 ≤ bytes.length && 0x184D2A50 ≤ kind && kind ≤ 0x184D2A5F && frame ≤ bytes.length
        && startsStream magic fuel (bytes.drop frame)

def isStream (magic : Bytes) (bytes : Bytes) : Bool :=
  startsStream magic (bytes.length + 1) bytes

/-! ## Marked-up text -/

def skipBlanks (bytes : Bytes) : Bytes :=
  bytes.dropWhile fun b => b = 0x09 || b = 0x0A || b = 0x0C || b = 0x0D || b = 0x20

/-- The openings that tell a page; a blank or the end of the tag has to follow. -/
def pageOpenings : List String :=
  ["<!doctype html", "<html", "<head", "<script", "<iframe", "<h1", "<div", "<font", "<table", "<a",
    "<style", "<title", "<b", "<body", "<br", "<p", "<!--"]

def isPage (bytes : Bytes) : Bool :=
  let text := (skipBlanks bytes).map toLower
  pageOpenings.any fun opening =>
    startsWith (ascii opening) text
      && (hasAt opening.length [0x20] text || hasAt opening.length [0x3E] text)

/-- Drops byte order marks, as long as three bytes are left. -/
def dropMarks : Bytes → Bytes
  | a :: b :: c :: rest =>
    if a = 0xEF ∧ b = 0xBB ∧ c = 0xBF then dropMarks rest
    else if (a = 0xFE ∧ b = 0xFF) ∨ (a = 0xFF ∧ b = 0xFE) then dropMarks (c :: rest)
    else a :: b :: c :: rest
  | bytes => bytes

def isMarkup (bytes : Bytes) : Bool :=
  startsWith (ascii "<?xml") ((dropMarks (skipBlanks bytes)).map toLower)

end Container

end GlyphBook
