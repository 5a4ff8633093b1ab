import ServoScript.Text.Basic

/-!
# Numerals

Numbers as text: decimal numerals of naturals and integers, numerals filled up with zeros to a
width, and the values of runs of ASCII digits, decimal and hexadecimal.
-/

namespace ServoScript.Text

def ofNat (n : Nat) : Text :=
  (Nat.toDigits 10 n).map CodePoint.char

def ofInt : Int → Text
  | .ofNat n => ofNat n
  | .negSucc n => '-' :: ofNat (n + 1)

/-- The text with zeros in front up to `width` characters. A longer text stays as it is. -/
def zeroFill (width : Nat) (t : Text) : Text :=
  List.replicate (width - t.length) (CodePoint.char '0') ++ t

def padded (width n : Nat) : Text :=
  zeroFill width (ofNat n)

/-- The numeral of `n` in lower-case hexadecimal with at least `width` digits. -/
def hex (width n : Nat) : Text :=
  zeroFill width ((Nat.toDigits 16 n).map CodePoint.char)

def isDigit (c : CodePoint) : Bool :=
  '0' ≤ c && c ≤ '9'

def natOfDigits (digits : Text) : Nat :=
  digits.foldl (fun n c => 10 * n + (c.toNat - '0'.toNat)) 0

def hexValue? (c : CodePoint) : Option Nat :=
  if isDigit c then some (c.toNat - '0'.toNat)
  else if 'a' ≤ c && c ≤ 'f' then some (c.toNat - 'a'.toNat + 10)
  else if 'A' ≤ c && c ≤ 'F' then some (c.toNat - 'A'.toNat + 10)
  else none

def natOfHex (digits : Text) : Nat :=
  digits.foldl (fun n c => 16 * n + (hexValue? c).getD 0) 0

end ServoScript.Text
