/-!
# Plain text

A terminal takes some characters as orders: those below the space, and the sequences that an
escape character opens. The plain text of a text is what is left to read when these are taken out.
Blanks and line ends are kept, and also end a sequence that has not come to its own end. Every
character outside ASCII is taken out together with the sequence that it stands in.
-/

namespace GlyphBook

namespace PlainText

/-! ## Sequences -/

/-- What has been opened in front of a character. -/
inductive Opened where
  | nothing
  /-- An escape character. -/
  | escape
  /-- An escape character with marks that want one more character. -/
  | intermediate
  /-- A sequence of parameters, up to a letter. -/
  | parameters
  /-- A command to the system, up to a bell. -/
  | command
  /-- A text for a device, in front of its parameters. -/
  | device
  /-- A text for a device, among its parameters. -/
  | deviceParameters
  /-- A text for a device, behind marks that want one more character. -/
  | deviceMarks
  /-- A text that is not shown, up to the byte that closes it. -/
  | message
  deriving Repr, DecidableEq

/-- The blanks and line ends that are kept everywhere but in commands and messages. -/
def isSpacing (c : Char) : Bool :=
  c = ' ' || c = '\t' || c = '\n' || c = '\x0c' || c = '\r'

def isControl (c : Char) : Bool := c < ' ' || c = '\x7f'

/-- What an escape character and the character behind it open. -/
def openedBy (c : Char) : Opened :=
  if c < '0' then .intermediate
  else if c = '[' then .parameters
  else if c = ']' then .command
  else if c = 'P' then .device
  else if c = 'X' ∨ c = '^' ∨ c = '_' then .message
  else .nothing

/-- What a printable character makes of a text for a device whose parameters are not at their end;
`more` tells whether it can still be a parameter. -/
def deviceAfter (more : Bool) (c : Char) : Opened :=
  if c < '0' then .deviceMarks else if more then .deviceParameters else .message

/-- The byte that closes a message, as any byte of a character. -/
def closing : UInt8 := 0x9C

/-- What is open behind a character outside ASCII, of which only the closing byte counts. -/
def openPast (before : Opened) (c : Char) : Opened :=
  if before = .message ∧ closing ∈ String.utf8EncodeChar c then .nothing else before

/-- Whether a character is read, and what is open behind it. An escape character always opens
anew, and cancelling ends whatever is open. -/
def step (before : Opened) (c : Char) : Bool × Opened :=
  if c = '\x1b' then (false, .escape)
  else if c = '\x18' ∨ c = '\x1a' then (false, .nothing)
  else if '\x7f' < c then
    if before = .nothing then (true, .nothing) else (false, openPast before c)
  else
    match before with
    | .nothing => (isSpacing c || !isControl c, .nothing)
    | .escape =>
      if isControl c then if isSpacing c then (true, .nothing) else (false, .escape)
      else (false, openedBy c)
    | .intermediate =>
      if isControl c then if isSpacing c then (true, .nothing) else (false, .intermediate)
      else (false, if c < '0' then .intermediate else .nothing)
    | .parameters =>
      if isControl c then if isSpacing c then (true, .nothing) else (false, .parameters)
      else (false, if c < '@' then .parameters else .nothing)
    | .command => (false, if c = '\x07' then .nothing else .command)
    | .device =>
      if isControl c then (false, .device) else (false, deviceAfter (c < '@' && c != ':') c)
    | .deviceParameters =>
      if isControl c then (false, .deviceParameters)
      else (false, deviceAfter (c < '<' && c != ':') c)
    | .deviceMarks =>
      if isControl c then (false, .deviceMarks) else (false, deviceAfter false c)
    | .message => (false, .message)

/-- The characters that are read. -/
def readFrom : Opened → List Char → List Char
  | _, [] => []
  | before, c :: cs =>
    let (isRead, after) := step before c
    if isRead then c :: readFrom after cs else readFrom after cs

/-- The plain text of a text. -/
def ofText (text : String) : String := String.ofList (readFrom .nothing text.toList)

/-! ## Lines -/

/-- The characters up to the first line end, which is a line feed, perhaps behind a carriage
return. -/
def upToLineEnd : List Char → List Char
  | [] => []
  | '\n' :: _ => []
  | '\r' :: '\n' :: _ => []
  | c :: cs => c :: upToLineEnd cs

/-- The first line of a text. -/
def firstLine (text : String) : String := String.ofList (upToLineEnd text.toList)

end PlainText

end GlyphBook
