/-!
# Floating-point numbers

Binary floating-point numbers of 64 bits, exactly: a finite one is a sign, a significand and a
scale, and its value is a multiple of the least positive number `2 ^ -1074`. Decimals are read by
rounding to the nearest number, ties to the even significand.
-/

namespace ServoScript

/-- A floating-point number. The value of `finite negative m s` is `m * 2 ^ s / 2 ^ 1074` with the
sign that `negative` says, so that both zeros have their own form. -/
inductive Binary64 where
  | finite (negative : Bool) (significand scale : Nat)
  | infinite (negative : Bool)
  | undefined
  deriving DecidableEq, Inhabited

namespace Binary64

def unit : Nat := Nat.pow 2 1074

/-- The natural number nearest to `num / den`; a tie goes to the even one. -/
def roundDiv (num den : Nat) : Nat :=
  let low := num / den
  let rest := 2 * (num % den)
  if rest < den then low
  else if den < rest then low + 1
  else low + low % 2

/-- The number nearest to `num / den`. The scale is the least one that leaves at most 53 bits for
the significand; a significand that is rounded up to 54 bits moves to the next scale. -/
def ofRatio (negative : Bool) (num den : Nat) : Binary64 :=
  let low := num * unit / den
  let scale := if low < Nat.pow 2 53 then 0 else Nat.log2 low - 52
  let significand := roundDiv (num * unit) (den * Nat.pow 2 scale)
  let carried := significand = Nat.pow 2 53
  let scale := if carried then scale + 1 else scale
  let significand := if carried then Nat.pow 2 52 else significand
  if 2045 < scale then .infinite negative else .finite negative significand scale

/-- The number of decimal digits of `n`. -/
def digitCount (n : Nat) : Nat :=
  (Nat.toDigits 10 n).length

/-- The number nearest to `digits * 10 ^ exponent`. Decimals beyond the range of all numbers are
told by their order of magnitude alone. -/
def ofDecimal (negative : Bool) (digits : Nat) (exponent : Int) : Binary64 :=
  let order := digitCount digits + exponent
  if digits = 0 || order < -330 then .finite negative 0 0
  else if 310 < order then .infinite negative
  else match exponent with
    | .ofNat e => ofRatio negative (digits * Nat.pow 10 e) 1
    | .negSucc e => ofRatio negative digits (Nat.pow 10 (e + 1))

def wholePart (significand scale : Nat) : Nat × Bool :=
  (significand * Nat.pow 2 scale / unit, significand * Nat.pow 2 scale % unit ≠ 0)

def signed (negative : Bool) (magnitude : Nat) : Int :=
  if negative then -magnitude else magnitude

def isZero : Binary64 → Bool
  | .finite _ significand _ => significand = 0
  | _ => false

/-- The number as an integer, if it is one. -/
def toInt? : Binary64 → Option Int
  | .finite negative significand scale =>
    match wholePart significand scale with
    | (whole, false) => some (signed negative whole)
    | (_, true) => none
  | _ => none

/-- The number nearest to `n / unit`. -/
def ofUnits (n : Int) : Binary64 :=
  if n = 0 then .finite false 0 0 else ofRatio (n < 0) n.natAbs unit

def successor : Binary64 → Binary64
  | .finite negative significand scale =>
    ofUnits (signed negative (significand * Nat.pow 2 scale) + unit)
  | x => x

end Binary64

end ServoScript
