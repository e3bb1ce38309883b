/-!
# Looking into bytes

The first bytes of a file, and the few questions that signatures ask of them. Every question has
an answer for every length: a pattern that does not fit is not there.
-/

namespace GlyphBook

abbrev Bytes := List UInt8

namespace Bytes

/-- The bytes of an ASCII text. -/
def ascii (text : String) : Bytes := text.toList.map fun c => UInt8.ofNat c.toNat

/-- Whether `pattern` stands, whole, at an offset. -/
def hasAt (offset : Nat) (pattern : Bytes) (bytes : Bytes) : Bool :=
  pattern.isPrefixOf (bytes.drop offset)

def startsWith (pattern : Bytes) (bytes : Bytes) : Bool := hasAt 0 pattern bytes

/-- Whether there are more than `n` bytes. -/
def longerThan (n : Nat) (bytes : Bytes) : Bool := n < bytes.length

/-- The byte at an offset, as a number; zero past the end. -/
def byteAt (offset : Nat) (bytes : Bytes) : Nat := ((bytes[offset]?).getD 0).toNat

/-- Bytes as a number, the first byte least. -/
def littleEndian : Bytes → Nat
  | [] => 0
  | b :: bytes => b.toNat + 256 * littleEndian bytes

/-- Bytes as a number, the first byte most. -/
def bigEndian (bytes : Bytes) : Nat := bytes.foldl (fun n b => n * 256 + b.toNat) 0

/-- The `width` bytes at an offset, if they are all there. -/
def slice? (offset width : Nat) (bytes : Bytes) : Option Bytes :=
  let part := (bytes.drop offset).take width
  if part.length = width then some part else none

/-- An ASCII letter as a small letter; other bytes as they are. -/
def toLower (b : UInt8) : UInt8 :=
  if 0x41 ≤ b ∧ b ≤ 0x5A then b + 0x20 else b

end Bytes

end GlyphBook
