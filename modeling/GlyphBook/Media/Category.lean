/-!
# File categories

The five kinds of file that a theme can tell apart, and the rule that reads the category off a
media type that was guessed from a file name.
-/

namespace GlyphBook

/-- The kinds of file that have an icon slot of their own. -/
inductive Category where
  | image
  | audio
  | video
  | document
  | binary
  deriving Repr, DecidableEq

namespace Category

def all : List Category := [.image, .audio, .video, .document, .binary]

theorem mem_all (category : Category) : category ∈ all := by cases category <;> decide

def name : Category → String
  | .image => "Image"
  | .audio => "Audio"
  | .video => "Video"
  | .document => "Document"
  | .binary => "Binary"

/-- The subtypes of `application` that are documents: a few whole names and two families. -/
def isDocumentSubtype (subtype : String) : Bool :=
  ["pdf", "json", "xml", "rtf", "msword"].contains subtype
    || subtype.startsWith "vnd.openxmlformats-"
    || subtype.startsWith "vnd.oasis.opendocument."

/-- The category of a media type given in its two halves. -/
def ofMediaType (type subtype : String) : Category :=
  if type = "image" then .image
  else if type = "audio" then .audio
  else if type = "video" then .video
  else if type = "text" then .document
  else if type = "application" ∧ isDocumentSubtype subtype = true then .document
  else .binary

end Category

end GlyphBook
