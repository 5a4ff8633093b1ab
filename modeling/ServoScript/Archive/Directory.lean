import ServoScript.Text.Basic
import ServoScript.Text.Quoted
import ServoScript.Text.Utf8

/-!
# The directory of an archive

An archive ends with a record that tells where its directory lies. The record is searched from the
end of the file on, since a remark may follow it. A large archive has a second record before the
first one. The directory lists the files of the archive, with their names, sizes and places.
-/

namespace ServoScript.Archive

inductive Directory.Flaw where
  | noEnd
  | manyVolumes
  | offset
  | truncated
  | mark
  /-- A file needs a reader of this version, in tenths. -/
  | version (tenths : Nat)
  /-- A file's name is no text. -/
  | name (flaw : Utf8.Flaw)
  /-- An extra field is longer than what is left of its file's entry. -/
  | extra (kind length : Nat)
  /-- A number of a large file is not in its extra field. -/
  | missing (field : Text)
  | pointer
  | noLargeRecord
  | largeRecord

def Directory.Flaw.message : Directory.Flaw → Text
  | .noEnd => "File is not a zip file"
  | .manyVolumes => "zipfiles that span multiple disks are not supported"
  | .offset => "Bad offset for central directory"
  | .truncated => "Truncated central directory"
  | .mark => "Bad magic number for central directory"
  | .version tenths =>
    "zip file version " ++ Text.ofNat (tenths / 10) ++ "." ++ Text.ofNat (tenths % 10)
  | .name flaw => flaw.message
  | .extra kind length =>
    "Corrupt extra field " ++ Text.hex 4 kind ++ " (size=" ++ Text.ofNat length ++ ")"
  | .missing field => "Corrupt zip64 extra field. " ++ field ++ " not found."
  | .pointer => "Corrupt zip64 end of central directory locator"
  | .noLargeRecord => "Zip64 end of central directory record not found"
  | .largeRecord => "Corrupt zip64 end of central directory record"

structure Entry where
  /-- The name with all that follows a null character. -/
  fullName : Text
  flags : Nat
  /-- How the content is packed. -/
  method : Nat
  checksum : Nat
  packedSize : Nat
  size : Nat
  /-- The place of the file, counted from the start of all octets. -/
  place : Int
  /-- The place behind which the file cannot reach. -/
  bound : Int := 0

/-- The name of a file. It ends before a null character. -/
def Entry.name (e : Entry) : Text :=
  e.fullName.takeWhile (· != CodePoint.char '\x00')

namespace Directory

def fileMark : List UInt8 := [0x50, 0x4B, 0x03, 0x04]

def endMark : List UInt8 := [0x50, 0x4B, 0x05, 0x06]

def entryMark : List UInt8 := [0x50, 0x4B, 0x01, 0x02]

def pointerMark : List UInt8 := [0x50, 0x4B, 0x06, 0x07]

def largeMark : List UInt8 := [0x50, 0x4B, 0x06, 0x06]

def endSize : Nat := 22

def pointerSize : Nat := 20

def largeSize : Nat := 56

def entrySize : Nat := 46

/-- How far before the end of the file the last record is searched for. -/
def remarkBound : Nat := 65536

def maxVersion : Nat := 63

open Octets (numberAt)

/-- The last place of a mark, counted from `place` on. -/
def lastPlace? (mark : List UInt8) (place : Nat) : List UInt8 → Option Nat
  | [] => none
  | octet :: rest =>
    match lastPlace? mark (place + 1) rest with
    | some found => some found
    | none => if mark.isPrefixOf (octet :: rest) then some place else none

def endPlace? (octets : List UInt8) : Option Nat :=
  let size := octets.length
  if size < endSize then none
  else
    let last := octets.drop (size - endSize)
    if endMark.isPrefixOf last && numberAt last 20 2 = 0 then some (size - endSize)
    else
      let start := size - (remarkBound + endSize)
      match lastPlace? endMark start (octets.drop start) with
      | some place => if place + endSize ≤ size then some place else none
      | none => none

/-- Where the directory lies: its length, its place as told, and the place of its end. -/
structure Span where
  size : Nat
  told : Nat
  stop : Nat

/-- The span of the directory, by the record of a large archive behind a pointer. The record lies
where the pointer tells, or else right before the pointer. -/
def largeSpan (octets : List UInt8) (place : Nat) : Except Flaw Span :=
  let pointer := octets.drop (place - pointerSize)
  if numberAt pointer 4 4 ≠ 0 || 1 < numberAt pointer 16 4 then .error .manyVolumes
  else
    let told := numberAt pointer 8 8
    if place < pointerSize + largeSize + told then .error .pointer
    else
      let last := place - pointerSize - largeSize
      let isThere := largeMark.isPrefixOf (octets.drop told)
      let start := if isThere then told else last
      if !largeMark.isPrefixOf (octets.drop start) then .error .noLargeRecord
      else
        let record := octets.drop start
        let size := numberAt record 40 8
        let directory := numberAt record 48 8
        if directory + size ≠ told || numberAt record 4 8 + 12 ≠ largeSize + (last - start) then
          .error .largeRecord
        else .ok ⟨size, directory, start⟩

def span (octets : List UInt8) : Except Flaw Span :=
  match endPlace? octets with
  | none => .error .noEnd
  | some place =>
    if place < pointerSize || !pointerMark.isPrefixOf (octets.drop (place - pointerSize)) then
      .ok ⟨numberAt octets (place + 12) 4, numberAt octets (place + 16) 4, place⟩
    else largeSpan octets place

def largeKind : Nat := 1

/-- The number that stands for one in the extra field. -/
def elsewhere : Nat := 0xFFFFFFFF

def numberOrField (isElsewhere : Bool) (field : Text) (n : Nat) (data : List UInt8) :
    Except Flaw (Nat × List UInt8) :=
  if !isElsewhere then .ok (n, data)
  else if data.length < 8 then .error (.missing field)
  else .ok (numberAt data 0 8, data.drop 8)

def withField (e : Entry) (data : List UInt8) : Except Flaw Entry := do
  let isLarge := e.size = elsewhere || e.size = Nat.pow 2 64 - 1
  let (size, data) ← numberOrField isLarge "File size" e.size data
  let (packedSize, data) ←
    numberOrField (e.packedSize = elsewhere) "Compress size" e.packedSize data
  let (place, _) ← numberOrField (e.place = elsewhere) "Header offset" e.place.toNat data
  .ok { e with size, packedSize, place }

def withExtra : (fuel : Nat) → List UInt8 → Entry → Except Flaw Entry
  | 0, _, e => .ok e
  | fuel + 1, extra, e =>
    if extra.length < 4 then .ok e
    else do
      let kind := numberAt extra 0 2
      let length := numberAt extra 2 2
      if extra.length < length + 4 then .error (.extra kind length)
      let e ← if kind = largeKind then withField e ((extra.drop 4).take length) else .ok e
      withExtra fuel (extra.drop (length + 4)) e

def oldNumbers : String := "
    C7 FC E9 E2 E4 E0 E5 E7 EA EB E8 EF EE EC C4 C5
    C9 E6 C6 F4 F6 F2 FB F9 FF D6 DC A2 A3 A5 20A7 192
    E1 ED F3 FA F1 D1 AA BA BF 2310 AC BD BC A1 AB BB
    2591 2592 2593 2502 2524 2561 2562 2556 2555 2563 2551 2557 255D 255C 255B 2510
    2514 2534 252C 251C 2500 253C 255E 255F 255A 2554 2569 2566 2560 2550 256C 2567
    2568 2564 2565 2559 2558 2552 2553 256B 256A 2518 250C 2588 2584 258C 2590 2580
    3B1 DF 393 3C0 3A3 3C3 B5 3C4 3A6 398 3A9 3B4 221E 3C6 3B5 2229
    2261 B1 2265 2264 2320 2321 F7 2248 B0 2219 B7 221A 207F B2 25A0 A0"

def oldCharacters : List CodePoint :=
  (Text.words oldNumbers).map fun digits => CodePoint.ofNat (Text.natOfHex digits)

def oldName (octets : List UInt8) : Text :=
  octets.map fun octet =>
    if octet.toNat < 0x80 then CodePoint.ofNat octet.toNat
    else oldCharacters.getD (octet.toNat - 0x80) Utf8.replacement

def nameOf (flags : Nat) (octets : List UInt8) : Except Utf8.Flaw Text :=
  if flags / 0x800 % 2 = 1 then Utf8.decode octets else .ok (oldName octets)

def readEntry (octets : List UInt8) : Except Flaw (Entry × Nat) := do
  if octets.length < entrySize then .error .truncated
  if !entryMark.isPrefixOf octets then .error .mark
  let flags := numberAt octets 8 2
  let nameLength := numberAt octets 28 2
  let extraLength := numberAt octets 30 2
  let name ← match nameOf flags ((octets.drop entrySize).take nameLength) with
    | .ok t => .ok t
    | .error flaw => .error (.name flaw)
  if maxVersion < numberAt octets 6 1 then .error (.version (numberAt octets 6 1))
  let extra := (octets.drop (entrySize + nameLength)).take extraLength
  let e ← withExtra extra.length extra
    { fullName := name, flags, method := numberAt octets 10 2, checksum := numberAt octets 16 4,
      packedSize := numberAt octets 20 4, size := numberAt octets 24 4,
      place := numberAt octets 42 4 }
  .ok (e, entrySize + nameLength + extraLength + numberAt octets 32 2)

/-- The entries in `size` octets. -/
def entriesIn : (fuel size : Nat) → List UInt8 → Except Flaw (List Entry)
  | 0, _, _ => .ok []
  | fuel + 1, size, octets =>
    if size = 0 then .ok []
    else do
      let (e, length) ← readEntry octets
      .ok (e :: (← entriesIn fuel (size - length) (octets.drop length)))

/-- The entry with its bound: the next place of another file, or the start of the directory. Of files
at one place, all but the first have that place as their bound. -/
def withBound (start : Int) (entries : List Entry) (index : Nat) (e : Entry) : Entry :=
  let later := entries.zipIdx.filter fun (other, n) =>
    e.place < other.place || (e.place = other.place && n < index)
  { e with bound := later.foldl (fun bound (other, _) => min bound other.place) start }

/-- The files in an archive. Places are told from the start of the archive, which may lie behind other
octets. -/
def entries (octets : List UInt8) : Except Flaw (List Entry) := do
  let s ← span octets
  if s.stop < s.size then .error .offset
  let start := s.stop - s.size
  let found ← entriesIn (s.size + 1) s.size ((octets.drop start).take s.size)
  let moved := found.map fun e => { e with place := e.place + ((start : Int) - s.told) }
  .ok (moved.zipIdx.map fun (e, n) => withBound start moved n e)

end Directory

end ServoScript.Archive
