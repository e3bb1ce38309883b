import GlyphBook.Media.Category
import GlyphBook.Media.CompoundFile
import GlyphBook.Media.Container

/-!
# Signatures of file formats

A format is told by bytes at the start of a file. The signatures stand in one fixed order and the
first that fits decides, so a format whose first bytes are also those of a wider one stands before
it. Each signature belongs to a family of formats, and the family decides the category.
-/

namespace GlyphBook

open Bytes

/-- Families of formats. -/
inductive Family where
  | program
  | book
  | image
  | video
  | audio
  | font
  | document
  | archive
  | text
  deriving Repr, DecidableEq

/-- Programs, archives and fonts have no slot of their own. -/
def Family.category : Family → Category
  | .image => .image
  | .audio => .audio
  | .video => .video
  | .document => .document
  | .text => .document
  | .book => .document
  | .program => .binary
  | .font => .binary
  | .archive => .binary

/-- A media type with the question whether bytes are of it. -/
structure Signature where
  family : Family
  mime : String
  found : Bytes → Bool

namespace Signature

/-- Any one of some patterns at the start. -/
def oneOf (patterns : List Bytes) (bytes : Bytes) : Bool :=
  patterns.any fun p => startsWith p bytes

/-! ## Programs -/

def word (offset : Nat) (bytes : Bytes) : Nat := bigEndian ((bytes.drop offset).take 4)

def halfWord (offset : Nat) (bytes : Bytes) : Nat := bigEndian ((bytes.drop offset).take 2)

/-- Compiled classes and bundles of programs share their first bytes; the next word is a version
from 45 on for the former and a small count for the latter. -/
def isClassFile (bytes : Bytes) : Bool :=
  startsWith [0xCA, 0xFE, 0xBA, 0xBE] bytes && 8 ≤ bytes.length
    && 45 ≤ word 4 bytes && 45 ≤ halfWord 6 bytes

def isMachProgram (bytes : Bytes) : Bool :=
  oneOf [[0xCF, 0xFA, 0xED, 0xFE], [0xCE, 0xFA, 0xED, 0xFE], [0xFE, 0xED, 0xFA, 0xCF],
      [0xFE, 0xED, 0xFA, 0xCE]] bytes
    || (startsWith [0xCA, 0xFE, 0xBA, 0xBE] bytes && 8 ≤ bytes.length && word 4 bytes < 45)

def isDalvik (bytes : Bytes) : Bool :=
  startsWith (ascii "dex\n") bytes && longerThan 36 bytes && byteAt 36 bytes = 0x70

/-- The optimised form holds the plain one. -/
def isOptimisedDalvik (bytes : Bytes) : Bool :=
  startsWith (ascii "dey\n") bytes && longerThan 100 bytes
    && isDalvik ((bytes.drop 40).take 60)

def programs : List Signature :=
  [⟨.program, "application/wasm", startsWith [0x00, 0x61, 0x73, 0x6D, 0x01, 0x00, 0x00, 0x00]⟩,
    ⟨.program, "application/x-executable",
      fun b => startsWith [0x7F, 0x45, 0x4C, 0x46] b && longerThan 52 b⟩,
    ⟨.program, "application/vnd.microsoft.portable-executable", startsWith (ascii "MZ")⟩,
    ⟨.program, "application/java", isClassFile⟩,
    ⟨.program, "application/x-llvm", startsWith (ascii "BC")⟩,
    ⟨.program, "application/x-mach-binary", isMachProgram⟩,
    ⟨.program, "application/vnd.android.dex", isDalvik⟩,
    ⟨.program, "application/vnd.android.dey", isOptimisedDalvik⟩,
    ⟨.program, "application/x-x509-ca-cert", fun b => startsWith [0x30, 0x82] b && longerThan 2 b⟩,
    ⟨.program, "application/x-executable",
      fun b => oneOf [[0x64, 0x86], [0x4C, 0x01], [0x00, 0x02]] b && longerThan 2 b⟩,
    ⟨.program, "application/x-x509-ca-cert",
      fun b => startsWith (ascii "-----BEGIN ") b && longerThan 11 b⟩]

/-! ## Books -/

def isElectronicBook (bytes : Bytes) : Bool :=
  startsWith Container.zipEntry bytes && hasAt 30 (ascii "mimetypeapplication/epub+zip") bytes

def books : List Signature :=
  [⟨.book, "application/epub+zip", isElectronicBook⟩,
    ⟨.book, "application/x-mobipocket-ebook", hasAt 60 (ascii "BOOKMOBI")⟩]

/-! ## Images -/

/-- The two byte orders of tagged images. -/
def isTagged : Bytes → Bool := oneOf [[0x49, 0x49, 0x2A, 0x00], [0x4D, 0x4D, 0x00, 0x2A]]

def images : List Signature :=
  [⟨.image, "image/jpeg", startsWith [0xFF, 0xD8, 0xFF]⟩,
    ⟨.image, "image/jp2",
      startsWith [0x00, 0x00, 0x00, 0x0C, 0x6A, 0x50, 0x20, 0x20, 0x0D, 0x0A, 0x87, 0x0A, 0x00]⟩,
    ⟨.image, "image/png", startsWith [0x89, 0x50, 0x4E, 0x47]⟩,
    ⟨.image, "image/gif", startsWith (ascii "GIF")⟩,
    ⟨.image, "image/webp", hasAt 8 (ascii "WEBP")⟩,
    ⟨.image, "image/x-canon-cr2", fun b => isTagged b && hasAt 8 [0x43, 0x52, 0x02] b⟩,
    ⟨.image, "image/tiff",
      fun b => isTagged b && longerThan 9 b && byteAt 8 b ≠ 0x43 && byteAt 9 b ≠ 0x52⟩,
    ⟨.image, "image/bmp", startsWith (ascii "BM")⟩,
    ⟨.image, "image/vnd.ms-photo", startsWith [0x49, 0x49, 0xBC]⟩,
    ⟨.image, "image/vnd.adobe.photoshop", startsWith (ascii "8BPS")⟩,
    ⟨.image, "image/vnd.microsoft.icon", startsWith [0x00, 0x00, 0x01, 0x00]⟩,
    ⟨.image, "image/heif", Container.isHeif⟩,
    ⟨.image, "image/avif", Container.isAvif⟩,
    ⟨.image, "image/jxl", fun b =>
      (startsWith [0xFF, 0x0A] b && longerThan 2 b)
        || (startsWith [0x00, 0x00, 0x00, 0x0C, 0x4A, 0x58, 0x4C, 0x20, 0x0D, 0x0A, 0x87, 0x0A] b
          && longerThan 12 b)⟩,
    ⟨.image, "image/openraster", fun b =>
      startsWith Container.zipEntry b && hasAt 30 (ascii "mimetypeimage/openraster") b
        && longerThan 57 b⟩,
    ⟨.image, "image/vnd.djvu", fun b =>
      startsWith (ascii "AT&TFORM") b && hasAt 12 (ascii "DJV") b⟩]

/-! ## Video -/

/-- The brands of the common video container. -/
def videoBrands : List String :=
  ["avc1", "dash", "iso2", "iso3", "iso4", "iso5", "iso6", "isom", "mmp4", "mp41", "mp42", "mp4v",
    "mp71", "MSNV", "NDAS", "NDSC", "NSDC", "NDSH", "NDSM", "NDSP", "NDSS", "NDXC", "NDXH", "NDXM",
    "NDXP", "NDXS", "F4V ", "F4P "]

def isBrandedVideo (bytes : Bytes) : Bool :=
  hasAt 4 (ascii "ftyp") bytes && videoBrands.any fun brand => hasAt 8 (ascii brand) bytes

def isMovie (bytes : Bytes) : Bool :=
  longerThan 15 bytes
    && (hasAt 4 (ascii "ftypqt  ") bytes || hasAt 4 (ascii "moov") bytes
      || hasAt 4 (ascii "mdat") bytes || hasAt 12 (ascii "mdat") bytes)

def videos : List Signature :=
  [⟨.video, "video/mp4", isBrandedVideo⟩,
    ⟨.video, "video/x-m4v", hasAt 4 (ascii "ftypM4V")⟩,
    ⟨.video, "video/x-matroska", fun b =>
      startsWith ([0x1A, 0x45, 0xDF, 0xA3, 0x93, 0x42, 0x82, 0x88] ++ ascii "matroska") b
        || hasAt 31 (ascii "matroska") b⟩,
    ⟨.video, "video/webm", startsWith [0x1A, 0x45, 0xDF, 0xA3]⟩,
    ⟨.video, "video/quicktime", isMovie⟩,
    ⟨.video, "video/x-msvideo", fun b => startsWith (ascii "RIFF") b && hasAt 8 (ascii "AVI") b⟩,
    ⟨.video, "video/x-ms-wmv",
      startsWith [0x30, 0x26, 0xB2, 0x75, 0x8E, 0x66, 0xCF, 0x11, 0xA6, 0xD9]⟩,
    ⟨.video, "video/mpeg", fun b =>
      startsWith [0x00, 0x00, 0x01] b && 0xB0 ≤ byteAt 3 b && byteAt 3 b ≤ 0xBF⟩,
    ⟨.video, "video/x-flv", startsWith [0x46, 0x4C, 0x56, 0x01]⟩]

/-! ## Audio -/

def audios : List Signature :=
  [⟨.audio, "audio/midi", startsWith (ascii "MThd")⟩,
    ⟨.audio, "audio/mpeg", fun b => oneOf [ascii "ID3", [0xFF, 0xFB]] b && longerThan 2 b⟩,
    ⟨.audio, "audio/m4a", fun b =>
      (hasAt 4 (ascii "ftypM4A") b || startsWith (ascii "M4A ") b) && longerThan 10 b⟩,
    ⟨.audio, "audio/opus", fun b =>
      startsWith (ascii "OggS") b && hasAt 28 (ascii "OpusHead") b⟩,
    ⟨.audio, "audio/ogg", startsWith (ascii "OggS")⟩,
    ⟨.audio, "audio/x-flac", startsWith (ascii "fLaC")⟩,
    ⟨.audio, "audio/x-wav", fun b => startsWith (ascii "RIFF") b && hasAt 8 (ascii "WAVE") b⟩,
    ⟨.audio, "audio/amr", fun b => startsWith (ascii "#!AMR\n") b && longerThan 11 b⟩,
    ⟨.audio, "audio/aac", oneOf [[0xFF, 0xF1], [0xFF, 0xF9]]⟩,
    ⟨.audio, "audio/x-aiff", fun b => startsWith (ascii "FORM") b && hasAt 8 (ascii "AIFF") b⟩,
    ⟨.audio, "audio/x-dsf", fun b => startsWith (ascii "DSD ") b && longerThan 4 b⟩,
    ⟨.audio, "audio/x-ape", fun b => startsWith (ascii "MAC ") b && longerThan 4 b⟩]

/-! ## Fonts -/

def fonts : List Signature :=
  [⟨.font, "application/font-woff", fun b =>
      oneOf [ascii "wOFF", ascii "wOF2"] b && hasAt 4 [0x00, 0x01, 0x00, 0x00] b⟩,
    ⟨.font, "application/font-sfnt",
      oneOf [[0x00, 0x01, 0x00, 0x00, 0x00], ascii "OTTO" ++ [0x00]]⟩]

/-! ## Documents -/

/-- The class of an older office document: the first word differs, the rest is shared. -/
def officeClass (low high : UInt8) : Bytes :=
  [low, high, 0x02, 0x00, 0x00, 0x00, 0x00, 0x00, 0xC0, 0x00, 0x00, 0x00, 0x00, 0x00, 0x00, 0x46]

def slidesClass : Bytes :=
  [0x10, 0x8D, 0x81, 0x64, 0x9B, 0x4F, 0xCF, 0x11, 0x86, 0xEA, 0x00, 0xAA, 0x00, 0xB9, 0x29, 0xE8]

def hasClass (classes : List Bytes) (bytes : Bytes) : Bool :=
  (CompoundFile.rootClass? bytes).any fun c => classes.contains c

def officeType (part : String) : String :=
  "application/vnd.openxmlformats-officedocument." ++ part

def documents : List Signature :=
  [⟨.document, "application/msword", hasClass [officeClass 0x06 0x09]⟩,
    ⟨.document, officeType "wordprocessingml.document",
      fun b => Container.office? b == some .word⟩,
    ⟨.document, "application/vnd.ms-excel",
      hasClass [officeClass 0x10 0x08, officeClass 0x20 0x08]⟩,
    ⟨.document, officeType "spreadsheetml.sheet", fun b => Container.office? b == some .sheet⟩,
    ⟨.document, "application/vnd.ms-powerpoint", hasClass [slidesClass]⟩,
    ⟨.document, officeType "presentationml.presentation",
      fun b => Container.office? b == some .slides⟩,
    ⟨.document, "application/vnd.oasis.opendocument.text", Container.isOpenDocument "text"⟩,
    ⟨.document, "application/vnd.oasis.opendocument.spreadsheet",
      Container.isOpenDocument "spreadsheet"⟩,
    ⟨.document, "application/vnd.oasis.opendocument.presentation",
      Container.isOpenDocument "presentation"⟩]

/-! ## Archives -/

def isZip : Bytes → Bool :=
  oneOf [Container.zipEntry, ascii "PK" ++ [0x05, 0x06], ascii "PK" ++ [0x07, 0x08],
    ascii "PK00PK" ++ [0x03, 0x04]]

def isEmbeddedFont (bytes : Bytes) : Bool :=
  hasAt 34 (ascii "LP") bytes
    && (hasAt 8 [0x02, 0x00, 0x01] bytes || hasAt 8 [0x01, 0x00, 0x00] bytes
      || hasAt 8 [0x02, 0x00, 0x02] bytes)

def archives : List Signature :=
  [⟨.archive, "application/epub+zip", isElectronicBook⟩,
    ⟨.archive, "application/zip", isZip⟩,
    ⟨.archive, "application/x-tar", hasAt 257 (ascii "ustar")⟩,
    ⟨.archive, "application/x-par2", fun b =>
      startsWith (ascii "PAR2" ++ [0x00] ++ ascii "PKT") b && longerThan 8 b⟩,
    ⟨.archive, "application/vnd.rar",
      oneOf [ascii "Rar!" ++ [0x1A, 0x07, 0x00], ascii "Rar!" ++ [0x1A, 0x07, 0x01]]⟩,
    ⟨.archive, "application/gzip", startsWith [0x1F, 0x8B, 0x08]⟩,
    ⟨.archive, "application/x-bzip2", startsWith (ascii "BZh")⟩,
    ⟨.archive, "application/vnd.bzip3", startsWith (ascii "BZ3v1")⟩,
    ⟨.archive, "application/x-7z-compressed", startsWith [0x37, 0x7A, 0xBC, 0xAF, 0x27, 0x1C]⟩,
    ⟨.archive, "application/x-xz", startsWith [0xFD, 0x37, 0x7A, 0x58, 0x5A, 0x00]⟩,
    ⟨.archive, "application/pdf", startsWith (ascii "%PDF")⟩,
    ⟨.archive, "application/x-shockwave-flash", oneOf [ascii "CWS", ascii "FWS"]⟩,
    ⟨.archive, "application/rtf", startsWith (ascii "\x7b\\rtf")⟩,
    ⟨.archive, "application/octet-stream", isEmbeddedFont⟩,
    ⟨.archive, "application/postscript", startsWith (ascii "%!")⟩,
    ⟨.archive, "application/vnd.sqlite3", startsWith (ascii "SQLi")⟩,
    ⟨.archive, "application/x-nintendo-nes-rom", startsWith (ascii "NES" ++ [0x1A])⟩,
    ⟨.archive, "application/x-google-chrome-extension", startsWith (ascii "Cr24")⟩,
    ⟨.archive, "application/vnd.ms-cab-compressed", oneOf [ascii "MSCF", ascii "ISc("]⟩,
    ⟨.archive, "application/vnd.debian.binary-package",
      startsWith (ascii "!<arch>\ndebian-binary")⟩,
    ⟨.archive, "application/x-unix-archive", startsWith (ascii "!<arch>")⟩,
    ⟨.archive, "application/x-compress", oneOf [[0x1F, 0xA0], [0x1F, 0x9D]]⟩,
    ⟨.archive, "application/x-lzip", startsWith (ascii "LZIP")⟩,
    ⟨.archive, "application/x-rpm", fun b =>
      startsWith [0xED, 0xAB, 0xEE, 0xDB] b && longerThan 96 b⟩,
    ⟨.archive, "application/dicom", hasAt 128 (ascii "DICM")⟩,
    ⟨.archive, "application/zstd", Container.isStream [0x28, 0xB5, 0x2F, 0xFD]⟩,
    ⟨.archive, "application/x-lz4", Container.isStream [0x04, 0x22, 0x4D, 0x18]⟩,
    ⟨.archive, "application/x-ole-storage", startsWith CompoundFile.magic⟩,
    ⟨.archive, "application/x-cpio", fun b =>
      oneOf [[0xC7, 0x71], [0x71, 0xC7]] b || (startsWith (ascii "070701") b && longerThan 6 b)⟩]

/-! ## Text -/

def texts : List Signature :=
  [⟨.text, "text/html", Container.isPage⟩,
    ⟨.text, "text/xml", Container.isMarkup⟩,
    ⟨.text, "text/x-shellscript", fun b => startsWith (ascii "#!") b && longerThan 2 b⟩]

/-! ## All of them -/

/-- Every signature, in the order in which they are tried. -/
def all : List Signature :=
  programs ++ books ++ images ++ videos ++ audios ++ fonts ++ documents ++ archives ++ texts

/-- The signature that the first bytes of a file fit. -/
def match? (bytes : Bytes) : Option Signature := all.find? fun s => s.found bytes

end Signature

end GlyphBook
