/-!
# Texts

A text is the list of its code points, so that lengths, cuts and positions count code points and
recursion follows the text. A string literal stands for the list of its characters. A text from a
document may also have halves of surrogate pairs that stand alone, which no string has.
-/

namespace ServoScript

/-- A character, or a half of a surrogate pair, by its distance from U+D800. -/
inductive CodePoint where
  | char (c : Char)
  | half (n : Fin 0x800)
  deriving DecidableEq, Inhabited

namespace CodePoint

instance : Coe Char CodePoint := ⟨char⟩

def toNat : CodePoint → Nat
  | .char c => c.toNat
  | .half n => 0xD800 + n

/-- The code point with a number; the null character, if there is none. -/
def ofNat (n : Nat) : CodePoint :=
  if h : n - 0xD800 < 0x800 ∧ 0xD800 ≤ n then .half ⟨n - 0xD800, h.1⟩ else .char (Char.ofNat n)

theorem toNat_lt (c : CodePoint) : c.toNat < 0x110000 := by
  cases c with
  | char c =>
    have hvalid : c.toNat < 0xD800 ∨ 0xDFFF < c.toNat ∧ c.toNat < 0x110000 := c.valid
    change c.toNat < 0x110000
    omega
  | half n =>
    change 0xD800 + n.val < 0x110000
    omega

@[simp] theorem ofNat_toNat (c : CodePoint) : ofNat c.toNat = c := by
  cases c with
  | char c =>
    have hvalid : c.toNat < 0xD800 ∨ 0xDFFF < c.toNat ∧ c.toNat < 0x110000 := c.valid
    have hplain : ¬ (c.toNat - 0xD800 < 0x800 ∧ 0xD800 ≤ c.toNat) := by omega
    simp [ofNat, toNat, hplain]
  | half n =>
    have hhalf : 0xD800 + n.val - 0xD800 < 0x800 ∧ 0xD800 ≤ 0xD800 + n.val := by omega
    simp [ofNat, toNat, hhalf]

theorem toNat_ofNat {n : Nat} (h : n < 0x110000) : (ofNat n).toNat = n := by
  rw [ofNat]
  split
  · next hhalf =>
    change 0xD800 + (n - 0xD800) = n
    omega
  · next hplain =>
    have hvalid : n.isValidChar := by
      rw [Nat.isValidChar]
      omega
    change (Char.ofNat n).toNat = n
    rw [Char.ofNat, dif_pos hvalid]
    rfl

instance : LE CodePoint := ⟨fun c d => c.toNat ≤ d.toNat⟩

theorem le_def {c d : CodePoint} : c ≤ d ↔ c.toNat ≤ d.toNat :=
  Iff.rfl

@[simp] theorem char_le_char {c d : Char} : char c ≤ char d ↔ c ≤ d :=
  Iff.rfl

instance (c d : CodePoint) : Decidable (c ≤ d) :=
  inferInstanceAs (Decidable (c.toNat ≤ d.toNat))

def isAlpha : CodePoint → Bool
  | .char c => c.isAlpha
  | .half _ => false

def toUpper : CodePoint → CodePoint
  | .char c => .char c.toUpper
  | c => c

def toLower : CodePoint → CodePoint
  | .char c => .char c.toLower
  | c => c

/-- The character of a code point; the replacement character, if it is a half. -/
def toChar : CodePoint → Char
  | .char c => c
  | .half _ => '\ufffd'

def isHigh (n : Nat) : Bool :=
  0xD800 ≤ n && n < 0xDC00

def isLow (n : Nat) : Bool :=
  0xDC00 ≤ n && n < 0xE000

def join (high low : Nat) : CodePoint :=
  ofNat (0x10000 + (high - 0xD800) * 0x400 + (low - 0xDC00))

end CodePoint

/-- A text, as the list of its code points. -/
abbrev Text := List CodePoint

namespace Text

@[simp] def ofString (s : String) : Text :=
  s.toList.map CodePoint.char

def toString (t : Text) : String :=
  String.ofList (t.map CodePoint.toChar)

end Text

instance : Coe String Text := ⟨Text.ofString⟩

namespace Text

/-- The pieces of a text between the code points that satisfy `p`. There is always one piece more
than there are such code points. -/
def splitWhere (p : CodePoint → Bool) : Text → List Text
  | [] => [[]]
  | c :: rest =>
    if p c then [] :: splitWhere p rest
    else match splitWhere p rest with
      | [] => [[c]]
      | piece :: pieces => (c :: piece) :: pieces

def split (mark : CodePoint) (t : Text) : List Text :=
  splitWhere (· == mark) t

def replace (old new : CodePoint) (t : Text) : Text :=
  t.map fun c => if c == old then new else c

/-- The text without its last code point, if that is `mark`. -/
def dropFinal (mark : CodePoint) (t : Text) : Text :=
  if t.getLast? = some mark then t.dropLast else t

/-! ## Blanks -/

/-- The characters that separate words: tab to carriage return, the four information separators,
the space, next line, the no-break space and the spaces and separators of the general block. -/
def isBlank (c : CodePoint) : Bool :=
  let n := c.toNat
  (0x09 ≤ n && n ≤ 0x0D) || (0x1C ≤ n && n ≤ 0x20) || n == 0x85 || n == 0xA0 || n == 0x1680 ||
    (0x2000 ≤ n && n ≤ 0x200A) || n == 0x2028 || n == 0x2029 || n == 0x202F || n == 0x205F ||
    n == 0x3000

/-- The text without the code points of `p` at its two ends. -/
def trimWhere (p : CodePoint → Bool) (t : Text) : Text :=
  ((t.dropWhile p).reverse.dropWhile p).reverse

def trim (t : Text) : Text :=
  trimWhere isBlank t

/-- The maximal runs of code points that are not blank, in order. -/
def words (t : Text) : List Text :=
  (splitWhere isBlank t).filter (!·.isEmpty)

/-! ## Lines

More characters end a line than the line feed; a carriage return and the line feed after it end one
line together. -/

def isLineBreak (c : CodePoint) : Bool :=
  let n := c.toNat
  (0x0A ≤ n && n ≤ 0x0D) || (0x1C ≤ n && n ≤ 0x1E) || n == 0x85 || n == 0x2028 || n == 0x2029

/-- The lines of a text whose first line starts with the reverse of `line`. -/
def linesFrom (line : Text) : Text → List Text
  | [] => if line.isEmpty then [] else [line.reverse]
  | '\r' :: '\n' :: rest => line.reverse :: linesFrom [] rest
  | c :: rest =>
    if isLineBreak c then line.reverse :: linesFrom [] rest else linesFrom (c :: line) rest

/-- The lines of a text, without their ends. A break at the very end starts no further line. -/
def lines (t : Text) : List Text :=
  linesFrom [] t

def unixLines : Text → Text
  | [] => []
  | '\r' :: '\n' :: rest => '\n' :: unixLines rest
  | c :: rest => (if c == '\r' then '\n' else c) :: unixLines rest

end Text

end ServoScript
