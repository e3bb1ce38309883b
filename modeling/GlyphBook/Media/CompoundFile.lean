import GlyphBook.Bytes
import GlyphBook.Text.Capital

/-!
# Compound files

A compound file is a small file system inside a file: sectors chained by an allocation table, and
a directory whose root entry names the class of the document. The class is read only when the
whole structure holds together: the header is of a known version and counts its sectors right,
every chain of sectors stays inside the file and never meets itself or another chain, and the tree
of directory entries is a tree with its names in order.
-/

namespace GlyphBook

namespace CompoundFile

open Bytes

/-! ## Sector numbers with a meaning -/

/-- The last number that names a sector. -/
def lastSector : Nat := 0xFFFFFFFA

/-- The number that names no sector. -/
def invalidSector : Nat := 0xFFFFFFFB

/-- What the allocation table says of a sector that lists sectors of the table. -/
def indexMark : Nat := 0xFFFFFFFC

/-- What the allocation table says of a sector of its own. -/
def tableMark : Nat := 0xFFFFFFFD

def endOfChain : Nat := 0xFFFFFFFE

def freeSector : Nat := 0xFFFFFFFF

/-- The number that names no directory entry. -/
def noEntry : Nat := 0xFFFFFFFF

/-! ## Header -/

def magic : Bytes := [0xD0, 0xCF, 0x11, 0xE0, 0xA1, 0xB1, 0x1A, 0xE1]

/-- What the header says. `tables` lists the first sectors of the allocation table and is filled up
with the number of no sector. -/
structure Header where
  version : Nat
  tableCount : Nat
  firstDirectory : Nat
  firstSmallTable : Nat
  smallTableCount : Nat
  firstIndex : Nat
  indexCount : Nat
  tables : List Nat
  deriving Repr

/-- The length of a sector in bytes. -/
def Header.sectorLength (h : Header) : Nat := if h.version = 3 then 512 else 4096

/-- The words of four bytes in `bytes`. -/
def words : Nat → Bytes → List Nat
  | 0, _ => []
  | n + 1, bytes => littleEndian (bytes.take 4) :: words n (bytes.drop 4)

/-- A list of sector numbers may be filled up with the number of no sector. -/
def dropFree (sectors : List Nat) : List Nat :=
  (sectors.reverse.dropWhile (· = freeSector)).reverse

/-- How many sectors of the allocation table the header has room for. -/
def headerRoom : Nat := 109

/-- The length from which on a stream is kept in large sectors. -/
def largeLength : Nat := 4096

/-- The list of sectors in the header ends at the first that is none; what is behind is not read. -/
def headerTables? (listed : List Nat) : Option (List Nat) :=
  let tables := listed.takeWhile (· ≠ freeSector)
  if tables.all (· ≤ lastSector) then
    some (tables ++ List.replicate (headerRoom - tables.length) freeSector)
  else none

def header? (bytes : Bytes) : Option Header := do
  guard (512 ≤ bytes.length)
  guard (startsWith magic bytes)
  let half (offset : Nat) : Nat := littleEndian ((bytes.drop offset).take 2)
  let word (offset : Nat) : Nat := littleEndian ((bytes.drop offset).take 4)
  let version := half 26
  guard (half 28 = 0xFFFE)
  guard ((version = 3 ∧ half 30 = 9) ∨ (version = 4 ∧ half 30 = 12))
  guard (half 32 = 6)
  guard (word 56 = largeLength)
  let tables ← headerTables? (words headerRoom (bytes.drop 76))
  return ⟨version, word 44, word 48, word 60, word 64, word 68, word 72, tables⟩

/-! ## Sectors -/

/-- The sectors behind the header. The last one may be cut short. -/
def sectorCount (h : Header) (bytes : Bytes) : Nat :=
  (bytes.length - 1) / h.sectorLength

def sector (h : Header) (bytes : Bytes) (n : Nat) : Bytes :=
  (bytes.drop ((n + 1) * h.sectorLength)).take h.sectorLength

/-- A sector as words, if it is all there. -/
def sectorWords? (h : Header) (bytes : Bytes) (n : Nat) : Option (List Nat) :=
  let s := sector h bytes n
  if s.length = h.sectorLength then some (words (h.sectorLength / 4) s) else none

/-- The sectors of a chain. Each has to be inside the file and new to the chain, so a chain is no
longer than the file has sectors. -/
def chain? (count : Nat) (next : Nat → Option Nat) : Nat → List Nat → Nat → Option (List Nat)
  | 0, seen, current => if current = endOfChain then some seen.reverse else none
  | fuel + 1, seen, current =>
    if current = endOfChain then some seen.reverse
    else if count ≤ current ∨ seen.contains current then none
    else (next current).bind fun following => chain? count next fuel (current :: seen) following

/-- The sectors that hold the allocation table: those the header lists, and those listed in a
chain of index sectors, each of which ends with the number of the next. -/
def tableSectors? (h : Header) (bytes : Bytes) : Option (List Nat × List Nat) := do
  let count := sectorCount h bytes
  let last (n : Nat) : Option Nat := do (← sectorWords? h bytes n).getLast?
  let first := if h.firstIndex = freeSector then endOfChain else h.firstIndex
  let indexes ← chain? count last (count + 1) [] first
  guard (indexes.length = h.indexCount)
  let listed ← indexes.mapM fun n => sectorWords? h bytes n
  let tables := dropFree (h.tables ++ listed.flatMap List.dropLast)
  guard (tables.length = h.tableCount)
  guard (tables.all fun s => s < count)
  guard (tables.length ≤ count)
  return (indexes, tables)

/-- No sector is the successor of two sectors, and none has a successor outside the table. -/
def wellLinked (table : List Nat) : Bool :=
  let targets := table.filter (· ≤ lastSector)
  targets.all (· < table.length) && targets.eraseDups == targets

/-- The allocation table: for each sector the one after it. Entries for sectors that the file does
not have are dropped from its end. The sectors of the table and of its index are marked in it. -/
def allocation? (h : Header) (bytes : Bytes) : Option (List Nat) := do
  let (indexes, tables) ← tableSectors? h bytes
  let entries ← tables.mapM fun n => sectorWords? h bytes n
  let count := sectorCount h bytes
  let all := entries.flatten
  let spare := ((all.drop count).reverse.dropWhile (· = 0)).reverse
  let table := dropFree (all.take count ++ spare)
  guard (table.length ≤ count)
  guard (indexes.all (table[·]? = some indexMark) && tables.all (table[·]? = some tableMark))
  guard (table.all (· ≠ invalidSector))
  guard (wellLinked table)
  return table

/-! ## Directory -/

/-- The kinds of directory entry. -/
inductive EntryKind where
  | unused
  | storage
  | stream
  | root
  deriving Repr, DecidableEq

def entryKind? : Nat → Option EntryKind
  | 0 => some .unused
  | 1 => some .storage
  | 2 => some .stream
  | 5 => some .root
  | _ => none

/-- An entry: its name, its two neighbours and its child in the tree of names, and its class. -/
structure DirectoryEntry where
  name : List Char
  kind : EntryKind
  left : Nat
  right : Nat
  child : Nat
  classId : Bytes
  length : Nat
  deriving Repr

/-- The characters of 16-bit units. A unit of a pair has to stand in one. -/
def characters? : List Nat → Option (List Char)
  | [] => some []
  | u :: rest =>
    if u < 0xD800 ∨ 0xDFFF < u then (characters? rest).map (Char.ofNat u :: ·)
    else
      match rest with
      | v :: rest =>
        if u ≤ 0xDBFF ∧ 0xDC00 ≤ v ∧ v ≤ 0xDFFF then
          (characters? rest).map
            (Char.ofNat (0x10000 + (u - 0xD800) * 0x400 + (v - 0xDC00)) :: ·)
        else none
      | [] => none

def units : Bytes → List Nat
  | a :: b :: rest => (a.toNat + 256 * b.toNat) :: units rest
  | _ => []

/-- The name that the root goes by, whatever its entry says. -/
def rootName : List Char := "Root Entry".toList

/-- Characters that separate names in a path, and others that no name may have. -/
def isNameChar (c : Char) : Bool := c ≠ '/' && c ≠ '\\' && c ≠ ':' && c ≠ '!'

/-- The name by which an entry is sorted. -/
def entryName? (kind : EntryKind) (name : List Char) : Option (List Char) :=
  if kind = .root then some rootName
  else if name.all isNameChar then some name
  else none

/-- A link names an entry or none. -/
def isLink (n : Nat) : Bool := n = noEntry || n ≤ lastSector

def directoryEntry? (version : Nat) (bytes : Bytes) : Option DirectoryEntry := do
  guard (bytes.length = 128)
  let word (offset : Nat) : Nat := littleEndian ((bytes.drop offset).take 4)
  let nameLength := littleEndian ((bytes.drop 64).take 2)
  guard (nameLength ≤ 64 ∧ nameLength % 2 = 0)
  let spelled ← characters? (units (bytes.take (nameLength - 2)))
  let kind ← entryKind? (byteAt 66 bytes)
  let name ← entryName? kind spelled
  guard (byteAt 67 bytes ≤ 1)
  guard (isLink (word 68) && isLink (word 72) && isLink (word 76))
  guard (kind ≠ .stream ∨ word 76 = noEntry)
  let length := littleEndian ((bytes.drop 120).take (if version = 3 then 4 else 8))
  return ⟨name, kind, word 68, word 72, word 76, (bytes.drop 80).take 16, length⟩

/-- How many 16-bit units a text takes. -/
def unitCount (text : List Char) : Nat :=
  text.foldl (fun n c => n + if c.toNat < 0x10000 then 1 else 2) 0

/-- Names are ordered by length first, then character by character in capitals. -/
def nameBefore (a b : List Char) : Bool :=
  unitCount a < unitCount b
    || (unitCount a = unitCount b && decide (Capital.ofText a < Capital.ofText b))

/-- Walks the tree of entries from the entries that are due. Every entry is met once, the first is
the root and no other is, and neighbours stand on their side of the name. -/
def wellFormedTree (entries : List DirectoryEntry) : Nat → List Nat → List Nat → Bool
  | _, _, [] => true
  | 0, _, _ :: _ => false
  | fuel + 1, seen, id :: due =>
    match entries[id]? with
    | none => false
    | some e =>
      let kindFits := if id = 0 then e.kind = .root else e.kind = .storage || e.kind = .stream
      let sideFits (n : Nat) (before : List Char → List Char → Bool) : Bool :=
        n = noEntry || (entries[n]?).any fun o => before o.name e.name
      !seen.contains id && kindFits
        && sideFits e.left nameBefore
        && sideFits e.right (fun a b => nameBefore b a)
        && wellFormedTree entries fuel (id :: seen)
          (([e.child, e.right, e.left].filter (· ≠ noEntry)) ++ due)

/-- The directory: its entries sector by sector. -/
def directory? (h : Header) (bytes : Bytes) (table : List Nat) : Option (List DirectoryEntry) := do
  let count := sectorCount h bytes
  let sectors ← chain? count (fun n => table[n]?) (count + 1) [] h.firstDirectory
  let perSector := h.sectorLength / 128
  let entries ← sectors.mapM fun n =>
    let s := sector h bytes n
    (List.range perSector).mapM fun i => directoryEntry? h.version ((s.drop (i * 128)).take 128)
  return entries.flatten

/-- The table of small sectors is as long as the header says, is linked as well as the large one,
and names no more sectors than the root entry's stream has room for. -/
def smallTable? (h : Header) (bytes : Bytes) (table : List Nat) (room : Nat) :
    Option (List Nat) := do
  let count := sectorCount h bytes
  let sectors ← chain? count (fun n => table[n]?) (count + 1) [] h.firstSmallTable
  guard (sectors.length = h.smallTableCount)
  let entries ← sectors.mapM fun n => sectorWords? h bytes n
  let small := dropFree entries.flatten
  guard (small.length ≤ room)
  guard (wellLinked small)
  return small

/-! ## The class of a document -/

/-- The class of the root entry of a sound compound file. -/
def rootClass? (bytes : Bytes) : Option Bytes := do
  let h ← header? bytes
  guard (h.sectorLength ≤ bytes.length)
  let table ← allocation? h bytes
  let entries ← directory? h bytes table
  let root ← entries.head?
  guard (root.length % 64 = 0)
  guard (wellFormedTree entries (entries.length + 1) [] [0])
  let _ ← smallTable? h bytes table (root.length / 64)
  return root.classId

end CompoundFile

end GlyphBook
