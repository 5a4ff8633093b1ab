import ServoScript.Text.Utf8

/-!
# Encodings of documents

A document from outside comes as octets in one of five encodings. A mark of the order of octets tells
which one it is. Without a mark the zeros among the first octets do, since a document starts with two
basic characters. Halves of surrogate pairs are passed on in every encoding.
-/

namespace ServoScript

/-- The encodings of a document: UTF-8, or units of two or four octets, the highest first or last. -/
inductive Encoding where
  | utf8
  | utf16 (highFirst : Bool)
  | utf32 (highFirst : Bool)
  deriving DecidableEq

namespace Encoding

def ofZeros : List UInt8 → Encoding
  | [a, b] => if a = 0 then .utf16 true else if b = 0 then .utf16 false else .utf8
  | a :: b :: c :: d :: _ =>
    if a = 0 then (if b = 0 then .utf32 true else .utf16 true)
    else if b = 0 then (if c = 0 && d = 0 then .utf32 false else .utf16 false)
    else .utf8
  | _ => .utf8

def detect : List UInt8 → Encoding × List UInt8
  | 0x00 :: 0x00 :: 0xFE :: 0xFF :: rest => (.utf32 true, rest)
  | 0xFF :: 0xFE :: 0x00 :: 0x00 :: rest => (.utf32 false, rest)
  | 0xFE :: 0xFF :: rest => (.utf16 true, rest)
  | 0xFF :: 0xFE :: rest => (.utf16 false, rest)
  | 0xEF :: 0xBB :: 0xBF :: rest => (.utf8, rest)
  | octets => (ofZeros octets, octets)

def unitOf (highFirst : Bool) (octets : List UInt8) : Nat :=
  (if highFirst then octets else octets.reverse).foldl (fun n octet => 256 * n + octet.toNat) 0

/-- The units of two octets, if none is left over. -/
def pairs (highFirst : Bool) : List UInt8 → Option (List Nat)
  | [] => some []
  | a :: b :: rest => (pairs highFirst rest).map (unitOf highFirst [a, b] :: ·)
  | _ => none

/-- The units of four octets, if none is left over. -/
def quads (highFirst : Bool) : List UInt8 → Option (List Nat)
  | [] => some []
  | a :: b :: c :: d :: rest => (quads highFirst rest).map (unitOf highFirst [a, b, c, d] :: ·)
  | _ => none

def joinPairs : List Nat → Text
  | high :: low :: rest =>
    if CodePoint.isHigh high && CodePoint.isLow low then CodePoint.join high low :: joinPairs rest
    else CodePoint.ofNat high :: joinPairs (low :: rest)
  | [n] => [CodePoint.ofNat n]
  | [] => []

/-- The text in UTF-8 with halves of surrogate pairs among its characters. `plain` is the reverse of
the octets behind the last half so far. -/
def decodePassing (plain : List UInt8) : List UInt8 → Option Text
  | [] => (Utf8.decode plain.reverse).toOption
  | 0xED :: b :: c :: rest => do
    if 0xA0 ≤ b && b ≤ 0xBF && 0x80 ≤ c && c ≤ 0xBF then
      let before ← (Utf8.decode plain.reverse).toOption
      let after ← decodePassing [] rest
      some (before ++ CodePoint.ofNat (0xD000 + 64 * (b.toNat - 0x80) + (c.toNat - 0x80)) :: after)
    else decodePassing (0xED :: plain) (b :: c :: rest)
  | octet :: rest => decodePassing (octet :: plain) rest

def decode (octets : List UInt8) : Option Text :=
  match detect octets with
  | (.utf8, octets) => decodePassing [] octets
  | (.utf16 highFirst, octets) => (pairs highFirst octets).map joinPairs
  | (.utf32 highFirst, octets) =>
    (quads highFirst octets).bind fun units =>
      if units.all (· ≤ 0x10FFFF) then some (units.map CodePoint.ofNat) else none

end Encoding

end ServoScript
