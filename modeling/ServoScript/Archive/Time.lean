import ServoScript.Number.Binary64
import ServoScript.Text.Decimal

/-!
# Times

Spans of time, and moments as spans from the start of 1970, in a unit and with a factor.
-/

namespace ServoScript.Archive

inductive TimeUnit where
  | year | month | week | day | hour | minute | second
  /-- A power of a thousandth of a second. -/
  | part (power : Nat)
  /-- A span in no fixed unit. -/
  | generic
  deriving DecidableEq

namespace TimeUnit

def signs : List (String × TimeUnit) :=
  [("Y", .year), ("M", .month), ("W", .week), ("D", .day), ("h", .hour), ("m", .minute),
    ("s", .second), ("ms", .part 1), ("us", .part 2), ("ns", .part 3), ("ps", .part 4),
    ("fs", .part 5), ("as", .part 6)]

def name : TimeUnit → Text
  | .year => "years"
  | .month => "months"
  | .week => "weeks"
  | .day => "days"
  | .hour => "hours"
  | .minute => "minutes"
  | .second => "seconds"
  | .part 1 => "milliseconds"
  | .part 2 => "microseconds"
  | .part 3 => "nanoseconds"
  | .part 4 => "picoseconds"
  | .part 5 => "femtoseconds"
  | .part _ => "attoseconds"
  | .generic => "generic"

/-- How many units a day has, for those that are no longer than a day. -/
def perDay : TimeUnit → Nat
  | .hour => 24
  | .minute => 1440
  | .second => 86400
  | .part power => 86400 * Nat.pow 1000 power
  | _ => 1

end TimeUnit

namespace Time

/-- The number that stands for no time. -/
def none : Int := -(Nat.pow 2 63)

def noneText : Text := "NaT"

def padded (width : Nat) (n : Int) : Text :=
  if n < 0 then '-' :: Text.padded (width - 1) n.natAbs else Text.padded width n.natAbs

/-- The year, month and day of a day, counted from the start of 1970. Years are taken to start in
March, and 400 of them have 146097 days. -/
def date (day : Int) : Int × Nat × Nat :=
  let shifted := day + 719468
  let era := shifted.fdiv 146097
  let inEra := (shifted.fmod 146097).toNat
  let yearInEra := (inEra - inEra / 1460 + inEra / 36524 - inEra / 146096) / 365
  let inYear := inEra - (365 * yearInEra + yearInEra / 4 - yearInEra / 100)
  let fromMarch := (5 * inYear + 2) / 153
  let dayOfMonth := inYear - (153 * fromMarch + 2) / 5 + 1
  let month := if fromMarch < 10 then fromMarch + 3 else fromMarch - 9
  let year := (yearInEra : Int) + era * 400 + (if month ≤ 2 then 1 else 0)
  (year, month, dayOfMonth)

def dateText (day : Int) : Text :=
  let (year, month, day) := date day
  padded 4 year ++ CodePoint.char '-' :: Text.padded 2 month ++ CodePoint.char '-' :: Text.padded 2 day

def clockText (unit : TimeUnit) (n : Nat) : Text :=
  let perSecond := unit.perDay / 86400
  let colon (n : Nat) : Text := ':' :: Text.padded 2 n
  match unit with
  | .hour => 'T' :: Text.padded 2 n
  | .minute => CodePoint.char 'T' :: Text.padded 2 (n / 60) ++ colon (n % 60)
  | _ =>
    let seconds := n / perSecond
    let clock := CodePoint.char 'T' :: Text.padded 2 (seconds / 3600) ++ colon (seconds / 60 % 60) ++
      colon (seconds % 60)
    match unit with
    | .part power => clock ++ CodePoint.char '.' :: Text.padded (3 * power) (n % perSecond)
    | _ => clock

def momentText (unit : TimeUnit) (factor : Nat) (n : Int) : Text :=
  if n = none then noneText
  else
    let n := n * factor
    match unit with
    | .year => padded 4 (1970 + n)
    | .month => padded 4 (1970 + n.fdiv 12) ++ CodePoint.char '-' :: Text.padded 2 (n.fmod 12 + 1).toNat
    | .week => dateText (7 * n)
    | .day => dateText n
    | unit => dateText (n.fdiv unit.perDay) ++ clockText unit (n.fmod unit.perDay).toNat

def spanText (unit : TimeUnit) (factor : Nat) (n : Int) : Text :=
  if n = none then noneText else Text.ofInt (n * factor) ++ CodePoint.char ' ' :: unit.name

end Time

end ServoScript.Archive
