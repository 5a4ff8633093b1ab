import ServoScript.Text.Decimal

/-!
# Integer numerals

Integers as people write them: blanks around, a sign, decimal digits of any script, and a single
low line between two digits. A numeral has a limited number of digits.
-/

/-! ## Digits

Every script's decimal digits are ten consecutive code points, so a script is known by its zero. -/

namespace ServoScript.Text

/-- The zeros of the scripts that have decimal digits, in ascending order. -/
def digitZeros : List Nat := [
  0x30, 0x660, 0x6F0, 0x7C0, 0x966, 0x9E6, 0xA66, 0xAE6, 0xB66, 0xBE6, 0xC66, 0xCE6, 0xD66, 0xDE6,
  0xE50, 0xED0, 0xF20, 0x1040, 0x1090, 0x17E0, 0x1810, 0x1946, 0x19D0, 0x1A80, 0x1A90, 0x1B50,
  0x1BB0, 0x1C40, 0x1C50, 0xA620, 0xA8D0, 0xA900, 0xA9D0, 0xA9F0, 0xAA50, 0xABF0, 0xFF10, 0x104A0,
  0x10D30, 0x11066, 0x110F0, 0x11136, 0x111D0, 0x112F0, 0x11450, 0x114D0, 0x11650, 0x116C0,
  0x11730, 0x118E0, 0x11950, 0x11C50, 0x11D50, 0x11DA0, 0x16A60, 0x16AC0, 0x16B50, 0x1D7CE,
  0x1D7D8, 0x1D7E2, 0x1D7EC, 0x1D7F6, 0x1E140, 0x1E2F0, 0x1E950, 0x1FBF0
]

def digitValue? (c : CodePoint) : Option Nat :=
  (digitZeros.find? fun base => base ≤ c.toNat && c.toNat < base + 10).map (c.toNat - ·)

end ServoScript.Text

/-! ## Numerals -/

namespace ServoScript.Numeral

inductive Flaw where
  | malformed
  | tooLong (digits : Nat)

def maxDigits : Nat := 4300

def isShort (n : Int) : Bool :=
  n.natAbs < Nat.pow 10 maxDigits

theorem isShort_word {n : Int} (h : 0 ≤ n ∧ n ≤ 65535) : isShort n = true := by
  have hsmall : n.natAbs < Nat.pow 10 5 := by
    simp only [Nat.pow_eq]
    omega
  have hpow (k : Nat) (hk : 5 ≤ k) : n.natAbs < Nat.pow 10 k :=
    Nat.lt_of_lt_of_le hsmall (Nat.pow_le_pow_right (by decide) hk)
  exact decide_eq_true (hpow maxDigits (by decide))

theorem isShort_bound : isShort (Nat.pow 10 maxDigits : Nat) = false := by
  have hnot : ∀ bound : Nat, ¬ (bound : Int).natAbs < bound := by
    intro bound
    omega
  exact decide_eq_false (hnot _)

def tooLongMessage (digits : Nat) : Text :=
  "Exceeds the limit (" ++ Text.ofNat maxDigits ++
    " digits) for integer string conversion: value has " ++ Text.ofNat digits ++
    " digits; use sys.set_int_max_str_digits() to increase the limit"

/-- The blanks that may stand around a numeral: all but the four information separators. -/
def isMargin (c : CodePoint) : Bool :=
  Text.isBlank c && !(0x1C ≤ c.toNat && c.toNat ≤ 0x1F)

def isRunChar (c : CodePoint) : Bool :=
  (Text.digitValue? c).isSome || c == '_'

def valueOf (digits : Text) : Nat :=
  digits.foldl (fun value c => 10 * value + (Text.digitValue? c).getD 0) 0

/-- Reads a numeral without sign. Misplaced low lines are found first, then the length of the run
of digits counts, then what follows it. -/
def readUnsigned (t : Text) : Except Flaw Nat :=
  let run := t.takeWhile isRunChar
  let groups := Text.split '_' run
  let digits := groups.flatten
  if groups.any List.isEmpty then .error .malformed
  else if maxDigits < digits.length then .error (.tooLong digits.length)
  else if (t.dropWhile isRunChar).isEmpty then .ok (valueOf digits)
  else .error .malformed

def read (t : Text) : Except Flaw Int :=
  match Text.trimWhere isMargin t with
  | '-' :: rest => (readUnsigned rest).map fun n => -(n : Int)
  | '+' :: rest => (readUnsigned rest).map Int.ofNat
  | rest => (readUnsigned rest).map Int.ofNat

end ServoScript.Numeral
