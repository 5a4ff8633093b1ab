import ServoScript.Archive.Directory
import ServoScript.Archive.Inflate

/-!
# Files in an archive

The content of a file in an archive. The file has a head of its own, which has to agree with the
directory, and its content is checked by a checksum.
-/

namespace ServoScript.Archive

/-! ## Checksums

The checksum of a file is the remainder of its bits, taken as a polynomial over two elements, by a
fixed polynomial. -/

namespace Checksum

def polynomial : UInt32 := 0xEDB88320

/-- The remainder behind one more bit of zero. -/
def shift (remainder : UInt32) : UInt32 :=
  if remainder &&& 1 = 1 then (remainder >>> 1) ^^^ polynomial else remainder >>> 1

def addOctet (remainder : UInt32) (octet : UInt8) : UInt32 :=
  Nat.repeat shift 8 (remainder ^^^ octet.toUInt32)

def ofOctets (octets : List UInt8) : Nat :=
  (octets.foldl addOctet 0xFFFFFFFF ^^^ 0xFFFFFFFF).toNat

end Checksum

/-! ## Files -/

inductive Member.Flaw where
  | place
  | head
  | mark
  | patched
  | strong
  | name (flaw : Utf8.Flaw)
  | otherName (told : Text) (found : List UInt8)
  | overlap (file : Text)
  | encrypted (file : Text)
  | method
  | packing (flaw : Inflate.Flaw)
  | checksum (file : Text)
  /-- There are fewer octets than the directory tells. -/
  | ended

def Member.Flaw.message : Member.Flaw → Text
  | .place => "[Errno 22] Invalid argument"
  | .head => "Truncated file header"
  | .mark => "Bad magic number for file header"
  | .patched => "compressed patched data (flag bit 5)"
  | .strong => "strong encryption (flag bit 6)"
  | .name flaw => flaw.message
  | .otherName told found =>
    "File name in directory " ++ Text.quoted told ++ " and header " ++ Octets.shown found ++
      " differ."
  | .overlap file => "Overlapped entries: " ++ Text.quoted file ++ " (possible zip bomb)"
  | .encrypted file =>
    "File " ++ Text.quoted file ++ " is encrypted, password required for extraction"
  | .method => "That compression method is not supported"
  | .packing flaw => flaw.message
  | .checksum file => "Bad CRC-32 for file " ++ Text.quoted file
  | .ended => []

namespace Member

open Octets (numberAt)

def headSize : Nat := 30

def hasFlag (flags bit : Nat) : Bool :=
  flags.testBit bit

/-- The packed content of a file, which is behind its head. -/
def packed (octets : List UInt8) (e : Entry) : Except Flaw (List UInt8) := do
  if e.place < 0 then .error .place
  let file := octets.drop e.place.toNat
  if file.length < headSize then .error .head
  if !Directory.fileMark.isPrefixOf file then .error .mark
  let nameLength := numberAt file 26 2
  let found := (file.drop headSize).take nameLength
  if hasFlag e.flags 5 then .error .patched
  if hasFlag e.flags 6 then .error .strong
  let name ← match Directory.nameOf (numberAt file 6 2) found with
    | .ok t => .ok t
    | .error flaw => .error (.name flaw)
  if name ≠ e.fullName then .error (.otherName e.fullName found)
  let start := headSize + nameLength + numberAt file 28 2
  if e.bound < e.place + start + e.packedSize then .error (.overlap e.fullName)
  if hasFlag e.flags 0 then .error (.encrypted e.name)
  .ok ((file.drop start).take e.packedSize)

/-- The content of a file, of the length that the directory tells, if it has so many octets. -/
def content (octets : List UInt8) (e : Entry) : Except Flaw (List UInt8) := do
  let packed ← packed octets e
  let plain ← match e.method with
    | 0 => .ok packed
    | 8 =>
      match Inflate.unpack packed with
      | .ok plain => .ok plain
      | .error flaw => .error (.packing flaw)
    | _ => .error .method
  if packed.isEmpty && 0 < e.packedSize then .error .ended
  let plain := plain.take e.size
  if Checksum.ofOctets plain ≠ e.checksum then .error (.checksum e.name)
  .ok plain

end Member

end ServoScript.Archive
