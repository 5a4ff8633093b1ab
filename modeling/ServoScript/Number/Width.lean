import ServoScript.Number.Shortest

/-!
# Narrow floating-point numbers

Numbers with fewer bits than usual. Each of them is a usual number too, but its shortest decimal has
fewer digits, since fewer numbers lie around it.
-/

namespace ServoScript

/-- The widths of floating-point numbers: the bits of the significand, the power of two in the
denominator that all finite numbers share, and the bits of the exponent. -/
structure Width where
  bits : Nat
  depth : Nat
  exponentBits : Nat
  deriving DecidableEq

namespace Width

def half : Width := ⟨11, 24, 5⟩

def single : Width := ⟨24, 149, 8⟩

def double : Width := ⟨53, 1074, 11⟩

/-- The number with a pattern of bits: the sign, the exponent and the fraction. -/
def ofBits (w : Width) (n : Nat) : Binary64 :=
  let fractionBits := w.bits - 1
  let fraction := n % Nat.pow 2 fractionBits
  let exponent := n / Nat.pow 2 fractionBits % Nat.pow 2 w.exponentBits
  let negative := n / Nat.pow 2 (fractionBits + w.exponentBits) % 2 = 1
  if exponent = Nat.pow 2 w.exponentBits - 1 then
    if fraction = 0 then .infinite negative else .undefined
  else if exponent = 0 then Binary64.ofRatio negative fraction (Nat.pow 2 w.depth)
  else
    Binary64.ofRatio negative ((Nat.pow 2 fractionBits + fraction) * Nat.pow 2 (exponent - 1))
      (Nat.pow 2 w.depth)

/-- The number of a width nearest to `num / den`, as a multiple of the least one. -/
def nearest (w : Width) (num den : Nat) : Nat :=
  let low := num * Nat.pow 2 w.depth / den
  let scale := if low < Nat.pow 2 w.bits then 0 else Nat.log2 low - (w.bits - 1)
  Binary64.roundDiv (num * Nat.pow 2 w.depth) (den * Nat.pow 2 scale) * Nat.pow 2 scale

/-- Whether a decimal is read back as the number `significand * 2 ^ scale` in usual units. -/
def readsBack (w : Width) (significand scale digits : Nat) (exponent : Int) : Bool :=
  let units := significand * Nat.pow 2 scale / Nat.pow 2 (1074 - w.depth)
  match exponent with
  | .ofNat e => w.nearest (digits * Nat.pow 10 e) 1 = units
  | .negSucc e => w.nearest digits (Nat.pow 10 (e + 1)) = units

/-- The first of the decimals with `17 - fuel` and more digits that is read back as the number. -/
def shortestFrom (w : Width) (significand scale : Nat) (top : Int) : (fuel : Nat) → Nat × Int
  | 0 => Binary64.shortest significand scale
  | fuel + 1 =>
    let exponent := top - (17 - fuel : Nat)
    let digits := Binary64.neighbours (significand * Nat.pow 2 scale) Binary64.unit exponent
    match digits.find? fun digits => w.readsBack significand scale digits exponent with
    | some digits => Binary64.withoutZeros 17 digits exponent
    | none => shortestFrom w significand scale top fuel

def shortest (w : Width) (significand scale : Nat) : Nat × Int :=
  if w = double then Binary64.shortest significand scale
  else w.shortestFrom significand scale
    (Binary64.magnitude (significand * Nat.pow 2 scale) Binary64.unit) 17

def text (w : Width) : Binary64 → Text
  | .finite negative significand scale =>
    if significand = 0 then (Binary64.finite negative significand scale).text
    else
      let (digits, exponent) := w.shortest significand scale
      (if negative then ("-" : Text) else []) ++
        Binary64.Layout.plain.decimal (Text.ofNat digits) exponent
  | x => x.text

def bareText (w : Width) (x : Binary64) : Text :=
  let t := w.text x
  if (".0" : Text).isSuffixOf t then t.take (t.length - 2) else t

/-- The text of a complex number. A real part that is the positive zero is left out. -/
def complexText (w : Width) (re im : Binary64) : Text :=
  let isNegative : Binary64 → Bool
    | .finite negative _ _ => negative
    | .infinite negative => negative
    | .undefined => false
  if re.isZero && !isNegative re then w.bareText im ++ [CodePoint.char 'j']
  else
    "(" ++ w.bareText re ++ (if isNegative im then "" else "+") ++ w.bareText im ++ "j)"

end Width

end ServoScript
