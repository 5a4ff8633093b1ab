import ServoScript.Literal.Basic

/-!
# Numbers in literals

Integers in four bases, floating-point numbers and imaginary ones. Between two digits there may be an
underscore.
-/

namespace ServoScript.Literal

def isNameChar (c : CodePoint) : Bool :=
  c.isAlpha || Text.isDigit c || c == '_' || 0x80 ≤ c.toNat

/-- A run of digits without its underscores, behind the reverse of `done`, and what follows it. -/
def digitRun (isDigit : CodePoint → Bool) (done : Text) : Text → Text × Text
  | [] => (done.reverse, [])
  | c :: rest =>
    if isDigit c then digitRun isDigit (c :: done) rest
    else if c == '_' && !done.isEmpty && rest.head?.any isDigit then digitRun isDigit done rest
    else (done.reverse, c :: rest)

/-- What a number is followed by, if it may be. -/
def endNumber (v : Literal) (rest : Text) : Option (Literal × Text) :=
  if rest.head?.any isNameChar then Option.none else some (v, rest)

def base? (c : CodePoint) : Option Nat :=
  if c == 'x' || c == 'X' then some 16
  else if c == 'o' || c == 'O' then some 8
  else if c == 'b' || c == 'B' then some 2
  else Option.none

def isDigitIn (base : Nat) (c : CodePoint) : Bool :=
  (Text.hexValue? c).any (· < base)

def readInBase (base : Nat) (t : Text) : Option (Literal × Text) :=
  let t := match t with
    | '_' :: rest => rest
    | t => t
  let (digits, rest) := digitRun (isDigitIn base) [] t
  if digits.isEmpty then Option.none
  else
    let n := digits.foldl (fun n c => base * n + (Text.hexValue? c).getD 0) 0
    endNumber (.int n) rest

def readFraction : Text → Text × Bool × Text
  | '.' :: rest =>
    let (digits, rest) := digitRun Text.isDigit [] rest
    (digits, true, rest)
  | t => ([], false, t)

/-- Reads an exponent, if there is one. -/
def readExponent (t : Text) : Option Int × Text :=
  match t with
  | e :: rest =>
    if e == 'e' || e == 'E' then
      let negative := rest.head? = some (CodePoint.char '-')
      let start := if negative || rest.head? = some (CodePoint.char '+') then rest.drop 1 else rest
      let (digits, after) := digitRun Text.isDigit [] start
      if digits.isEmpty then (Option.none, t)
      else (some (Binary64.signed negative (Text.natOfDigits digits)), after)
    else (Option.none, t)
  | [] => (Option.none, t)

/-- Reads a number in base ten. An integer does not start with a zero, unless it is zero, and has not
too many digits. -/
def readDecimal (t : Text) : Option (Literal × Text) :=
  let (whole, t) := digitRun Text.isDigit [] t
  let (fraction, hasPoint, t) := readFraction t
  let (exponent, t) := readExponent t
  if whole.isEmpty && fraction.isEmpty then Option.none
  else
    let x := Binary64.ofDecimal false (Text.natOfDigits (whole ++ fraction))
      (exponent.getD 0 - fraction.length)
    match t with
    | c :: rest =>
      if c == 'j' || c == 'J' then endNumber (.complex (.finite false 0 0) x) rest
      else finish whole x (hasPoint || exponent.isSome) t
    | [] => finish whole x (hasPoint || exponent.isSome) t
where
  finish (whole : Text) (x : Binary64) (isFloat : Bool) (t : Text) : Option (Literal × Text) :=
    let n := Text.natOfDigits whole
    if isFloat then endNumber (.float x) t
    else if n ≠ 0 &&
        (whole.head? = some (CodePoint.char '0') || Numeral.maxDigits < whole.length) then Option.none
    else endNumber (.int n) t

def readNumber (t : Text) : Option (Literal × Text) :=
  match t with
  | '0' :: c :: rest =>
    match base? c with
    | some base => readInBase base rest
    | Option.none => readDecimal t
  | _ => readDecimal t

def startsNumber : Text → Bool
  | '.' :: c :: _ => Text.isDigit c
  | c :: _ => Text.isDigit c
  | [] => false

end ServoScript.Literal
