import ServoScript.Number.Binary64
import ServoScript.Text.Decimal

/-!
# The shortest decimal of a floating-point number

The decimal with the fewest digits that is read back as the number, the nearest one if there are
several, and its layout as text.
-/

namespace ServoScript.Binary64

/-- How many of `10, 100, …`, at most `fuel`, do not lift `num` up to `den`. -/
def leadingZeros (den : Nat) : (fuel num : Nat) → Nat
  | 0, _ => 0
  | fuel + 1, num => if den ≤ 10 * num then 0 else leadingZeros den fuel (10 * num) + 1

/-- The exponent `p` with `10 ^ (p - 1) ≤ num / den < 10 ^ p`. -/
def magnitude (num den : Nat) : Int :=
  if den ≤ num then digitCount (num / den) else -(leadingZeros den 330 num : Int)

/-- `num / den` in units of `10 ^ exponent`, rounded down, and whether the next unit is nearer; a
tie goes to the even one. -/
def inUnits (num den : Nat) (exponent : Int) : Nat × Bool :=
  let scaled : Nat × Nat :=
    match exponent with
    | .ofNat e => (num, den * Nat.pow 10 e)
    | .negSucc e => (num * Nat.pow 10 (e + 1), den)
  (scaled.1 / scaled.2, scaled.1 / scaled.2 < roundDiv scaled.1 scaled.2)

/-- The decimals next to `num / den` in units of `10 ^ exponent`, the nearer first. -/
def neighbours (num den : Nat) (exponent : Int) : List Nat :=
  match inUnits num den exponent with
  | (low, false) => [low, low + 1]
  | (low, true) => [low + 1, low]

def withoutZeros : (fuel digits : Nat) → (exponent : Int) → Nat × Int
  | 0, digits, exponent => (digits, exponent)
  | fuel + 1, digits, exponent =>
    if digits % 10 = 0 then withoutZeros fuel (digits / 10) (exponent + 1) else (digits, exponent)

/-- The first of the decimals with `17 - fuel` and more digits that is read back as the number. With
17 digits there always is one. -/
def shortestFrom (significand scale : Nat) (top : Int) : (fuel : Nat) → Nat × Int
  | 0 => ((neighbours (significand * Nat.pow 2 scale) unit (top - 17)).headD 0, top - 17)
  | fuel + 1 =>
    let exponent := top - (17 - fuel : Nat)
    match (neighbours (significand * Nat.pow 2 scale) unit exponent).find? fun digits =>
        ofDecimal false digits exponent = .finite false significand scale with
    | some digits => withoutZeros 17 digits exponent
    | none => shortestFrom significand scale top fuel

def shortest (significand scale : Nat) : Nat × Int :=
  shortestFrom significand scale (magnitude (significand * Nat.pow 2 scale) unit) 17

/-- The choices in the layout of a decimal: exponents from `least` on and below `bound` are written
by the place of the point, others after the mark `e` with a sign and at least `width` digits. -/
structure Layout where
  least : Int
  bound : Int
  width : Nat

/-- Numbers from `0.0001` up to `10 ^ 16` are written by the place of the point. -/
def Layout.plain : Layout := ⟨-4, 16, 2⟩

/-- Digits with a point behind the first `whole` of them, and a digit on both sides of it. -/
def pointed (digits : Text) (whole : Int) : Text :=
  match whole with
  | .ofNat 0 => "0." ++ digits
  | .ofNat n =>
    let filled := digits ++ List.replicate (n - digits.length) (CodePoint.char '0')
    let rest := filled.drop n
    filled.take n ++ CodePoint.char '.' :: (if rest.isEmpty then ['0'] else rest)
  | .negSucc n => "0." ++ List.replicate (n + 1) (CodePoint.char '0') ++ digits

def Layout.power (layout : Layout) (exponent : Int) : Text :=
  "e" ++ (if exponent < 0 then "-" else "+") ++ Text.padded layout.width exponent.natAbs

def Layout.decimal (layout : Layout) (digits : Text) (exponent : Int) : Text :=
  let top := exponent + digits.length - 1
  if layout.least ≤ top && top < layout.bound then pointed digits (top + 1)
  else match digits with
    | [digit] => digit :: layout.power top
    | first :: rest => first :: CodePoint.char '.' :: rest ++ layout.power top
    | [] => layout.power top

/-- The text of a number. A whole number keeps the point and a zero behind it. -/
def text (x : Binary64) : Text :=
  let sign (negative : Bool) : Text := if negative then "-" else ""
  match x with
  | .finite negative 0 _ => sign negative ++ "0.0"
  | .finite negative significand scale =>
    let (digits, exponent) := shortest significand scale
    sign negative ++ Layout.plain.decimal (Text.ofNat digits) exponent
  | .infinite negative => sign negative ++ "inf"
  | .undefined => "nan"

end ServoScript.Binary64
