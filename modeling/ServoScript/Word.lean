import ServoScript.Json.Coercion

/-!
# 16-bit words

Durations and targets are words: natural numbers up to 65535. A word is read strictly, from ASCII
digits with an optional plus sign and blanks around, or leniently, with a fallback for anything else.
-/

namespace ServoScript.Word

def max : Nat := 65535

def isWord (n : Int) : Bool :=
  0 ≤ n && n ≤ max

def digitsOf : Text → Text
  | '+' :: rest => rest
  | token => token

/-- The word that a text stands for. -/
def parse (t : Text) : Except Fault Nat :=
  let token := Text.trim t
  let digits := digitsOf token
  if digits.isEmpty || !digits.all Text.isDigit then .error (.notUnsigned token)
  else if Numeral.maxDigits < digits.length then .error (.tooManyDigits digits.length)
  else if max < Text.natOfDigits digits then .error (.aboveWord (Text.natOfDigits digits))
  else .ok (Text.natOfDigits digits)

def parseD (t : Text) (fallback : Nat) : Nat :=
  match parse t with
  | .ok n => n
  | .error _ => fallback

/-- The word that the text of a value stands for, or the integer that the fallback stands for, which
need not be a word. -/
def coerce (v fallback : Json) : Except Fault Int :=
  match parse v.toText with
  | .ok n => .ok n
  | .error _ => fallback.toInt

/-- The integer of `low..high` nearest to `n`; `low` if there is none. -/
def clamp (low high n : Int) : Int :=
  Max.max low (Min.min high n)

end ServoScript.Word
