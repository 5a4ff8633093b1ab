import ServoScript.Text.Codes

/-!
# Names of hosts in basic characters

A label with other than basic characters is written as its basic characters, a hyphen, and digits that
tell which other characters stand where. The others come in ascending order; for each of them a number
tells how many places further, and how many characters higher, it goes than the one before. The number
of digits of a number depends on the size of the last one.
-/

namespace ServoScript.Punycode

inductive Flaw where
  /-- A number breaks off. -/
  | cut
  /-- A character is no digit. -/
  | digit (c : CodePoint)
  /-- There are no such characters. -/
  | beyond (n : Nat)

def Flaw.message : Flaw → Text
  | .cut => "incomplete punicode string"
  | .digit c => "Invalid extended code point '" ++ [c] ++ "'"
  | .beyond n => "Invalid character U+" ++ Text.hex 0 n

def base : Nat := 36

def firstBias : Nat := 72

def firstCode : Nat := 0x80

/-- The threshold of the `j`-th digit. A digit below it is the last one of a number. -/
def threshold (j bias : Nat) : Nat :=
  max 1 (min 26 (base * (j + 1) - bias))

def reduce : (fuel distance : Nat) → Nat × Nat
  | 0, distance => (distance, 0)
  | fuel + 1, distance =>
    if 455 < distance then
      let (distance, steps) := reduce fuel (distance / 35)
      (distance, steps + base)
    else (distance, 0)

def adapt (distance : Nat) (isFirst : Bool) (length : Nat) : Nat :=
  let distance := distance / (if isFirst then 700 else 2)
  let distance := distance + distance / length
  let (distance, steps) := reduce distance distance
  steps + base * distance / (distance + 38)

def digitOf (n : Nat) : Nat :=
  if n < 26 then 'a'.toNat + n else '0'.toNat + (n - 26)

def valueOf? (c : CodePoint) : Option Nat :=
  if 'A' ≤ c && c ≤ 'Z' then some (c.toNat - 'A'.toNat)
  else if Text.isDigit c then some (c.toNat - '0'.toNat + 26)
  else none

def encodeNumber (bias : Nat) : (fuel j n : Nat) → Codes
  | 0, _, _ => []
  | fuel + 1, j, n =>
    let t := threshold j bias
    if n < t then [digitOf n]
    else
      digitOf (t + (n - t) % (base - t)) :: encodeNumber bias fuel (j + 1) ((n - t) / (base - t))

def extended (label : Codes) : Codes :=
  (label.filter (firstCode ≤ ·)).eraseDups.mergeSort (· ≤ ·)

/-- The distances at the occurrences of a character, when the distance from the one before is
`distance` at the start of the label. Lower characters make the distance grow. -/
def distancesOf (n distance : Nat) : Codes → List Nat × Nat
  | [] => ([], distance)
  | c :: rest =>
    if c = n then
      let (distances, last) := distancesOf n 0 rest
      (distance :: distances, last)
    else distancesOf n (if c < n then distance + 1 else distance) rest

/-- The distances of all characters of a label from `next` on. -/
def distances (label : Codes) (next distance : Nat) : Codes → List Nat
  | [] => []
  | n :: rest =>
    let below := (label.filter (· < n)).length
    let (found, last) := distancesOf n (distance + (n - next) * (below + 1)) label
    found ++ distances label (n + 1) (last + 1) rest

/-- The digits of distances, when `done` characters stand already. -/
def encodeDistances (basic : Nat) : (done bias : Nat) → List Nat → Codes
  | _, _, [] => []
  | done, bias, distance :: rest =>
    encodeNumber bias (distance + 1) 0 distance ++
      encodeDistances basic (done + 1) (adapt distance (done = 0) (basic + done + 1)) rest

def encode (label : Codes) : Codes :=
  let basic := label.filter (· < firstCode)
  let digits := encodeDistances basic.length 0 firstBias
    (distances label firstCode 0 (extended label))
  if basic.isEmpty then digits else basic ++ '-'.toNat :: digits

/-- Reads a number from its `j`-th digit on, and tells what follows it. -/
def decodeNumber (bias j weight n : Nat) : Text → Except Flaw (Nat × Text)
  | [] => .error .cut
  | c :: rest =>
    match valueOf? c with
    | none => .error (.digit c)
    | some value =>
      let t := threshold j bias
      let n := n + value * weight
      if value < t then .ok (n, rest)
      else decodeNumber bias (j + 1) (weight * (base - t)) n rest

/-- Puts the characters that numbers tell into a label. The next one goes to `place` at the earliest
and is `code` at least. -/
def decodeFrom : (fuel : Nat) → (label : Codes) → (code place bias : Nat) → (isFirst : Bool) → Text →
    Except Flaw Codes
  | 0, label, _, _, _, _, _ => .ok label
  | _, label, _, _, _, _, [] => .ok label
  | fuel + 1, label, code, place, bias, isFirst, digits => do
    let (distance, rest) ← decodeNumber bias 0 1 0 digits
    let place := place + distance
    let code := code + place / (label.length + 1)
    if 0x10FFFF < code then .error (.beyond code)
    let place := place % (label.length + 1)
    let label := label.take place ++ code :: label.drop place
    decodeFrom fuel label code (place + 1) (adapt distance isFirst label.length) false rest

def decode (t : Text) : Except Flaw Codes :=
  let reversed := t.reverse
  let digits := ((reversed.takeWhile (· != CodePoint.char '-')).reverse).map CodePoint.toUpper
  let basic := ((reversed.dropWhile (· != CodePoint.char '-')).drop 1).reverse
  decodeFrom digits.length (Codes.ofText basic) firstCode 0 firstBias true digits

end ServoScript.Punycode
