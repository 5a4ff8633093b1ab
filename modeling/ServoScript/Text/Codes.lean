import ServoScript.Text.Quoted

/-!
# Texts by numbers

A text by the numbers of its characters. Unlike a text it may have halves of characters beyond the
first plane, which are no characters of their own.
-/

namespace ServoScript

abbrev Codes := List Nat

namespace Codes

def ofText (t : Text) : Codes :=
  t.map CodePoint.toNat

def isCharacter (n : Nat) : Bool :=
  n < 0xD800 || (0xDFFF < n && n ≤ 0x10FFFF)

/-- The text with the numbers, if all of them are characters. -/
def toText? (codes : Codes) : Option Text :=
  if codes.all isCharacter then some (codes.map CodePoint.ofNat) else none

def isBasic (codes : Codes) : Bool :=
  codes.all (· < 0x80)

/-- One number of a text between quotes. Halves of characters are written by their numbers. -/
def escape (quote : CodePoint) (n : Nat) : Text :=
  if isCharacter n then Text.escape quote (CodePoint.ofNat n) else "\\u" ++ Text.hex 4 n

def quoted (codes : Codes) : Text :=
  let quote := if codes.contains '\''.toNat && !codes.contains '"'.toNat then CodePoint.char '"' else '\''
  quote :: codes.flatMap (escape quote) ++ [quote]

end Codes

end ServoScript
