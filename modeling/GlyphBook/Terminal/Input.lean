import GlyphBook.Bytes
import GlyphBook.Terminal.Key

/-!
# Terminal input

A terminal in raw mode sends bytes. A plain character is sent in UTF-8, a control character stands
for a letter held with the control key, and the escape character opens a sequence for every other
key. Bytes are collected until they make an event or can no longer make one; then the collection
starts anew. An escape character with nothing behind it is the escape key.
-/

namespace GlyphBook

namespace Input

/-! ## Readings -/

/-- What the bytes collected so far are. -/
inductive Reading where
  /-- The beginning of something. -/
  | unfinished
  /-- Nothing that is reported. -/
  | ignored
  | event (e : TerminalEvent)
  deriving Repr, DecidableEq

def Reading.ofKey (key : Key) : Reading := .event (.key key)

def Reading.ofCode (code : KeyCode) : Reading := .ofKey ⟨code, {}, .press⟩

/-- The reading with the alt key held. -/
def Reading.withAlt : Reading → Reading
  | .event (.key key) => .ofKey { key with modifiers := { key.modifiers with alt := true } }
  | reading => reading

/-! ## Parameters -/

/-- The largest parameter for modifiers and numbered keys. -/
def byteLimit : Nat := 255

/-- The largest parameter for a code point. -/
def wordLimit : Nat := 0xFFFFFFFF

/-- A number of one or more decimal digits, perhaps behind a plus sign. It may not be above
`limit`. -/
def number? (limit : Nat) (text : List Char) : Option Nat :=
  let digits := match text with
    | '+' :: rest => rest
    | _ => text
  if digits.isEmpty ∨ ¬ digits.all Char.isDigit then none
  else
    let n := digits.foldl (fun n c => n * 10 + (c.toNat - '0'.toNat)) 0
    if n ≤ limit then some n else none

/-- A text cut at each occurrence of a character. -/
def cut (separator : Char) : List Char → List (List Char)
  | [] => [[]]
  | c :: cs =>
    if c = separator then [] :: cut separator cs
    else match cut separator cs with
      | [] => [[c]]
      | piece :: pieces => (c :: piece) :: pieces

/-- Modifiers are sent as one more than a sum of powers of two. -/
def modifiersOf (parameter : Nat) : Modifiers :=
  let mask := parameter - 1
  { shift := mask.testBit 0, alt := mask.testBit 1, control := mask.testBit 2,
    super := mask.testBit 3, hyper := mask.testBit 4, metaKey := mask.testBit 5 }

def motionOf : Nat → KeyMotion
  | 2 => .repeated
  | 3 => .release
  | _ => .press

/-- The modifiers and the motion in a parameter of one or two numbers set apart by a colon. -/
def held? (parameter? : Option (List Char)) : Option (Modifiers × KeyMotion) := do
  let numbers := cut ':' (← parameter?)
  let modifiers ← number? byteLimit (← numbers[0]?)
  let motion := ((numbers[1]?).bind (number? byteLimit)).getD 1
  return (modifiersOf modifiers, motionOf motion)

/-! ## Sequences with parameters -/

/-- The keys of sequences that end in a letter. -/
def letterKey? (final : UInt8) : Option KeyCode :=
  match Char.ofNat final.toNat with
  | 'A' => some .up
  | 'B' => some .down
  | 'C' => some .right
  | 'D' => some .left
  | 'F' => some .endKey
  | 'H' => some .home
  | 'P' => some (.function 1)
  | 'Q' => some (.function 2)
  | 'R' => some (.function 3)
  | 'S' => some (.function 4)
  | _ => none

/-- A sequence that ends in a letter. Modifiers may be its second parameter, or else a digit just
before the letter. -/
def readLetter (text : List Char) (final : UInt8) : Reading :=
  let held : Option (Modifiers × KeyMotion) :=
    match held? (cut ';' text)[1]? with
    | some held => some held
    | none =>
      match text.getLast? with
      | none => some ({}, .press)
      | some c =>
        if c.isDigit then some (modifiersOf (c.toNat - '0'.toNat), .press) else none
  match held, letterKey? final with
  | some (modifiers, motion), some code => .ofKey ⟨code, modifiers, motion⟩
  | _, _ => .ignored

/-- The keys of sequences that end in a tilde. -/
def numberedKey? (n : Nat) : Option KeyCode :=
  if n = 1 ∨ n = 7 then some .home
  else if n = 2 then some .insert
  else if n = 3 then some .delete
  else if n = 4 ∨ n = 8 then some .endKey
  else if n = 5 then some .pageUp
  else if n = 6 then some .pageDown
  else if 11 ≤ n ∧ n ≤ 15 then some (.function (n - 10))
  else if 17 ≤ n ∧ n ≤ 21 then some (.function (n - 11))
  else if 23 ≤ n ∧ n ≤ 26 then some (.function (n - 12))
  else if 28 ≤ n ∧ n ≤ 29 then some (.function (n - 15))
  else if 31 ≤ n ∧ n ≤ 34 then some (.function (n - 17))
  else none

/-- A sequence that ends in a tilde. -/
def readNumbered (text : List Char) : Reading :=
  let parameters := cut ';' text
  match ((parameters[0]?).bind (number? byteLimit)).bind numberedKey? with
  | none => .ignored
  | some code =>
    let (modifiers, motion) := (held? parameters[1]?).getD ({}, .press)
    .ofKey ⟨code, modifiers, motion⟩

/-! ## Keys by code point -/

/-- The keys of the number block, from the first of their code points on. -/
def numberBlock : List KeyCode :=
  [.char '0', .char '1', .char '2', .char '3', .char '4', .char '5', .char '6', .char '7',
    .char '8', .char '9', .char '.', .char '/', .char '*', .char '-', .char '+', .enter,
    .char '=', .char ',', .left, .right, .up, .down, .pageUp, .pageDown, .home, .endKey, .insert,
    .delete, .special 57427]

/-- Whether a code point stands for a key that has no character: a lock or menu key, a function key
from the thirteenth on, a key for media, or a modifier. -/
def isSpecial (n : Nat) : Bool :=
  (57358 ≤ n && n ≤ 57363) || (57376 ≤ n && n ≤ 57398) || (57428 ≤ n && n ≤ 57454)

/-- The key of a code point. -/
def pointKey? (modifiers : Modifiers) (n : Nat) : Option KeyCode :=
  if 57399 ≤ n ∧ n ≤ 57427 then numberBlock[n - 57399]?
  else if isSpecial n then some (.special n)
  else if n = 0x1B then some .escape
  else if n = 0x0D then some .enter
  else if n = 0x09 then some (if modifiers.shift then .backTab else .tab)
  else if n = 0x7F then some .backspace
  else if n.isValidChar then some (.char (Char.ofNat n))
  else none

/-- A modifier key counts as held while it is itself reported. -/
def holding (n : Nat) (m : Modifiers) : Modifiers :=
  if n = 57441 ∨ n = 57447 then { m with shift := true }
  else if n = 57442 ∨ n = 57448 then { m with control := true }
  else if n = 57443 ∨ n = 57449 then { m with alt := true }
  else if n = 57444 ∨ n = 57450 then { m with super := true }
  else if n = 57445 ∨ n = 57451 then { m with hyper := true }
  else if n = 57446 ∨ n = 57452 then { m with metaKey := true }
  else m

/-- The character in a parameter that gives a code point. -/
def shifted? (parameter? : Option (List Char)) : Option Char := do
  let n ← number? wordLimit (← parameter?)
  if n.isValidChar then some (Char.ofNat n) else none

/-- A sequence that gives a key by its code point. Behind the code point may stand the one that the
key has with shift; while shift is held that one counts, and shift does not count again. -/
def readPoint (text : List Char) : Reading :=
  let parameters := cut ';' text
  let points := cut ':' (parameters.headD [])
  match (points[0]?).bind (number? wordLimit) with
  | none => .ignored
  | some n =>
    let (modifiers, motion) := (held? parameters[1]?).getD ({}, .press)
    match pointKey? modifiers n with
    | none => .ignored
    | some code =>
      let modifiers := holding n modifiers
      match modifiers.shift, shifted? points[1]? with
      | true, some c => .ofKey ⟨.char c, { modifiers with shift := false }, motion⟩
      | _, _ => .ofKey ⟨code, modifiers, motion⟩

/-! ## Escape sequences -/

/-- What opens and what closes pasted text. -/
def pasteOpening : Bytes := 0x1B :: Bytes.ascii "[200~"

def pasteClosing : Bytes := 0x1B :: Bytes.ascii "[201~"

/-- A byte as the character it stands for in ASCII. -/
def asciiChar (b : UInt8) : Char := Char.ofNat b.toNat

/-- A sequence that opens with a digit and lasts until a byte that can end one. Its parameters are
text in UTF-8. -/
def readNumeric (collected : Bytes) (body : Bytes) : Reading :=
  match body.getLast? with
  | none => .unfinished
  | some final =>
    if body.length = 1 ∨ final < 64 ∨ 126 < final then .unfinished
    else if pasteOpening.isPrefixOf collected then
      if pasteClosing.isSuffixOf collected then .event .paste else .unfinished
    else
      match String.fromUTF8? ⟨body.dropLast.toArray⟩ with
      | none => .ignored
      | some parameters =>
        match asciiChar final with
        | 'M' => .event .mouse
        | '~' => readNumbered parameters.toList
        | 'u' => readPoint parameters.toList
        | 'R' => .ignored
        | _ => readLetter parameters.toList final

/-- A report of the terminal on itself, which is no event. -/
def readReport (body : Bytes) : Reading :=
  match body.getLast?.map asciiChar with
  | some 'u' => if 3 ≤ body.length then .ignored else .unfinished
  | some 'c' => .ignored
  | _ => .unfinished

/-- What stands behind an escape character and an opening bracket. -/
def readBracket (collected : Bytes) : Bytes → Reading
  | [] => .unfinished
  | first :: rest =>
    match asciiChar first with
    | '[' =>
      match rest with
      | [] => .unfinished
      | b :: _ =>
        if 'A' ≤ asciiChar b ∧ asciiChar b ≤ 'E' then
          .ofCode (.function (b.toNat - 'A'.toNat + 1))
        else .ignored
    | 'A' => .ofCode .up
    | 'B' => .ofCode .down
    | 'C' => .ofCode .right
    | 'D' => .ofCode .left
    | 'H' => .ofCode .home
    | 'F' => .ofCode .endKey
    | 'P' => .ofCode (.function 1)
    | 'Q' => .ofCode (.function 2)
    | 'S' => .ofCode (.function 4)
    | 'Z' => .ofKey ⟨.backTab, { shift := true }, .press⟩
    | 'I' => .event (.focus true)
    | 'O' => .event (.focus false)
    | 'M' => if rest.length < 3 then .unfinished else .event .mouse
    | '<' =>
      match (first :: rest).getLast?.map asciiChar with
      | some 'm' => .event .mouse
      | some 'M' => .event .mouse
      | _ => .unfinished
    | '?' => readReport (first :: rest)
    | c => if c.isDigit then readNumeric collected (first :: rest) else .ignored

/-- What stands behind an escape character and a capital O. -/
def readApplication : Bytes → Reading
  | [] => .unfinished
  | b :: _ =>
    match asciiChar b with
    | 'A' => .ofCode .up
    | 'B' => .ofCode .down
    | 'C' => .ofCode .right
    | 'D' => .ofCode .left
    | 'H' => .ofCode .home
    | 'F' => .ofCode .endKey
    | c =>
      if 'P' ≤ c ∧ c ≤ 'S' then .ofCode (.function (b.toNat - 'P'.toNat + 1)) else .ignored

/-! ## Characters -/

/-- The bytes that a character takes, by the first of them. -/
def charLength? (first : UInt8) : Option Nat :=
  if first < 0x80 then some 1
  else if 0xC0 ≤ first ∧ first < 0xE0 then some 2
  else if 0xE0 ≤ first ∧ first < 0xF0 then some 3
  else if 0xF0 ≤ first ∧ first < 0xF8 then some 4
  else none

/-- Whether a byte can only stand inside a character. -/
def isContinuation (b : UInt8) : Bool := 0x80 ≤ b && b < 0xC0

/-- A character in UTF-8. -/
def readChar (first : UInt8) (rest : Bytes) : Reading :=
  match String.fromUTF8? ⟨(first :: rest).toArray⟩ with
  | some text =>
    match text.toList with
    | c :: _ => .ofCode (.char c)
    | [] => .ignored
  | none =>
    match charLength? first with
    | none => .ignored
    | some length =>
      if rest.all isContinuation && rest.length + 1 < length then .unfinished else .ignored

/-- A letter or digit held with the control key. -/
def controlled (c : Char) : Reading := .ofKey ⟨.char c, { control := true }, .press⟩

/-- Anything that does not open with an escape character. -/
def readPlain (first : UInt8) (rest : Bytes) : Reading :=
  if first = 0x0D then .ofCode .enter
  else if first = 0x09 then .ofCode .tab
  else if first = 0x7F then .ofCode .backspace
  else if first = 0x00 then controlled ' '
  else if first ≤ 0x1A then controlled (Char.ofNat (first.toNat - 1 + 'a'.toNat))
  else if 0x1C ≤ first ∧ first ≤ 0x1F then
    controlled (Char.ofNat (first.toNat - 0x1C + '4'.toNat))
  else readChar first rest

/-! ## Events -/

/-- What the collected bytes are, given whether more have already been sent. -/
def read (more : Bool) : Bytes → Reading
  | [] => .unfinished
  | first :: rest =>
    if first = 0x1B then
      match rest with
      | [] => if more then .unfinished else .ofCode .escape
      | second :: behind =>
        match asciiChar second with
        | 'O' => readApplication behind
        | '[' => readBracket (first :: rest) behind
        | '\x1b' => .ofCode .escape
        | _ => (readPlain second behind).withAlt
    else readPlain first rest

/-- The events of the bytes that follow the collected ones. -/
def eventsFrom (collected : Bytes) : Bytes → List TerminalEvent
  | [] => []
  | b :: rest =>
    match read (!rest.isEmpty) (collected ++ [b]) with
    | .unfinished => eventsFrom (collected ++ [b]) rest
    | .ignored => eventsFrom [] rest
    | .event e => e :: eventsFrom [] rest

/-- The events that a terminal reports by sending these bytes. -/
def events (sent : Bytes) : List TerminalEvent := eventsFrom [] sent

end Input

end GlyphBook
