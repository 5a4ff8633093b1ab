import ServoScript.Archive.Table

/-!
# Arrays as text

An array is written between brackets, one pair for each direction, with all its entries in one format
so that they stand in columns. Long rows are broken, and of a large array only the borders are
written. Floating-point numbers are written with few digits, by the place of the point or, where
their sizes differ too much, by powers of ten.
-/

namespace ServoScript.Archive

def fullSize : Nat := 1000

def borderSize : Nat := 3

def lineWidth : Nat := 75

def maxPlaces : Nat := 8

/-- A text with blanks in front up to `width` characters. -/
def padLeft (width : Nat) (t : Text) : Text :=
  List.replicate (width - t.length) (CodePoint.char ' ') ++ t

def padRight (fill : CodePoint) (width : Nat) (t : Text) : Text :=
  t ++ List.replicate (width - t.length) fill

def widest (ts : List Text) : Nat :=
  ts.foldl (fun width t => max width t.length) 0

/-! ## Decimals of few digits -/

/-- A decimal `digits * 10 ^ exponent` without zeros at its end. -/
structure Decimal where
  digits : Nat
  exponent : Int

/-- The shortest decimal of a positive number, or, where it has digits below `10 ^ least`, the one
without such digits that is nearest; a tie goes to the even one. -/
def Decimal.near (w : Width) (significand scale : Nat) (least : Int) : Decimal :=
  let (digits, exponent) := w.shortest significand scale
  if least ≤ exponent then ⟨digits, exponent⟩
  else
    let (low, up) := Binary64.inUnits (significand * Nat.pow 2 scale) Binary64.unit least
    let digits := if up then low + 1 else low
    if digits = 0 then ⟨0, 0⟩
    else
      let (digits, exponent) := Binary64.withoutZeros (Binary64.digitCount digits) digits least
      ⟨digits, exponent⟩

structure NumberStyle where
  width : Width
  hasPlus : Bool

def NumberStyle.sign (style : NumberStyle) (negative : Bool) : Text :=
  if negative then ['-'] else if style.hasPlus then ['+'] else []

def sides (style : NumberStyle) (negative : Bool) (significand scale : Nat) : Text × Text :=
  if significand = 0 then (style.sign negative ++ [CodePoint.char '0'], [])
  else
    let d := Decimal.near style.width significand scale (-(maxPlaces : Int))
    match d.exponent with
    | .ofNat e => (style.sign negative ++ Text.ofNat (d.digits * Nat.pow 10 e), [])
    | .negSucc e =>
      let base := Nat.pow 10 (e + 1)
      (style.sign negative ++ Text.ofNat (d.digits / base), Text.padded (e + 1) (d.digits % base))

/-- A number by a power of ten: the first digit with the sign, the digits behind it, and the power. -/
def powerSides (style : NumberStyle) (negative : Bool) (significand scale : Nat) :
    Text × Text × Int :=
  if significand = 0 then (style.sign negative ++ [CodePoint.char '0'], [], 0)
  else
    let top := Binary64.magnitude (significand * Nat.pow 2 scale) Binary64.unit - 1
    let d := Decimal.near style.width significand scale (top - maxPlaces)
    let digits := Text.ofNat d.digits
    (style.sign negative ++ digits.take 1, digits.drop 1, d.exponent + digits.length - 1)

/-- A number by a power of ten with exactly `count` digits behind the first one: those of the number
itself, the last one rounded. -/
def exactSides (style : NumberStyle) (negative : Bool) (count significand scale : Nat) :
    Text × Text × Int :=
  if significand = 0 then
    (style.sign negative ++ [CodePoint.char '0'], List.replicate count (CodePoint.char '0'), 0)
  else
    let num := significand * Nat.pow 2 scale
    let top := Binary64.magnitude num Binary64.unit - 1
    let (low, up) := Binary64.inUnits num Binary64.unit (top - count)
    let digits := if up then low + 1 else low
    let (digits, top) :=
      if Nat.pow 10 (count + 1) ≤ digits then (digits / 10, top + 1) else (digits, top)
    let shown := Text.ofNat digits
    (style.sign negative ++ shown.take 1, shown.drop 1, top)

def finites (values : List Binary64) : List (Bool × Nat × Nat) :=
  values.filterMap fun
    | .finite negative significand scale => some (negative, significand, scale)
    | _ => none

/-- Whether numbers are written by powers of ten: the greatest is at least `10 ^ 8`, the least below
`0.0001`, or their quotient above 1000. Zeros do not count. -/
def needsPowers (values : List Binary64) : Bool :=
  let sizes := (finites values).map fun (_, significand, scale) => significand * Nat.pow 2 scale
  match sizes.filter (· ≠ 0) with
  | [] => false
  | first :: rest =>
    let greatest := rest.foldl max first
    let least := rest.foldl min first
    let isBelow (x : Binary64) (bound : Nat → Bool) : Bool :=
      match x with
      | .finite _ significand scale => bound (significand * Nat.pow 2 scale)
      | _ => false
    Nat.pow 10 8 * Binary64.unit ≤ greatest ||
      isBelow (Binary64.ofDecimal false 1 (-4)) (least < ·) ||
      !isBelow (Binary64.ofRatio false greatest least) (· ≤ 1000 * Binary64.unit)

/-- The format of the floating-point numbers of an array: characters before the point and behind it,
and, if they are written by powers of ten, the number of digits of the power. -/
structure NumberFormat where
  left : Nat
  right : Nat
  power : Option Nat

def powerText (width : Nat) (power : Int) : Text :=
  (if power < 0 then '-' else '+') :: Text.padded width power.natAbs

def specialText (style : NumberStyle) : Binary64 → Text
  | .infinite negative => style.sign negative ++ "inf"
  | _ => style.sign false ++ "nan"

def isFinite : Binary64 → Bool
  | .finite _ _ _ => true
  | _ => false

def NumberFormat.fitting (style : NumberStyle) (values : List Binary64) : NumberFormat :=
  let finite := finites values
  let special := widest ((values.filter (!isFinite ·)).map (specialText style))
  if needsPowers values then
    let split := finite.map fun (negative, significand, scale) =>
      powerSides style negative significand scale
    let right := widest (split.map fun (_, behind, _) => behind)
    let width := widest (split.map fun (_, _, power) => powerText 2 power) - 1
    let left := widest (split.map fun (before, _, _) => before)
    ⟨max left (special - (width + 2 + right + 1)), right, some width⟩
  else
    let split := finite.map fun (negative, significand, scale) =>
      sides style negative significand scale
    let right := widest (split.map Prod.snd)
    let left := widest (split.map Prod.fst)
    ⟨max left (special - (right + 1)), right, none⟩

def NumberFormat.text (style : NumberStyle) (format : NumberFormat) : Binary64 → Text
  | .finite negative significand scale =>
    match format.power with
    | none =>
      let (before, behind) := sides style negative significand scale
      padLeft format.left before ++ CodePoint.char '.' :: padRight ' ' format.right behind
    | some width =>
      let (before, behind, power) := exactSides style negative format.right significand scale
      padLeft format.left before ++ CodePoint.char '.' :: behind ++ CodePoint.char 'e' :: powerText width power
  | x =>
    let power := match format.power with
      | none => 0
      | some width => width + 2
    padLeft (format.left + format.right + power + 1) (specialText style x)

/-! ## Layout -/

def borders {α : Type} (l : List α) : List α :=
  if 2 * borderSize < l.length then l.take borderSize ++ l.drop (l.length - borderSize) else l

def borderEntries {α : Type} : (shape : List Nat) → List α → List α
  | [], entries => entries
  | extent :: shape, entries =>
    (borders (parts (volume shape) extent entries)).flatMap (borderEntries shape)

def withGap (length : Nat) (texts : List Text) : List Text :=
  if texts.length < length then
    texts.take borderSize ++ ("..." : Text) :: texts.drop borderSize
  else texts

/-- A text without the blanks at its end. -/
def trimEnd (t : Text) : Text :=
  (t.reverse.dropWhile (· == CodePoint.char ' ')).reverse

/-- Words on lines: finished lines, the line under way, and the words to come. A word that does not
fit starts a new line, unless the line is as short as a new one. -/
def fill (indent width : Nat) (done line : Text) : List Text → Text
  | [] => done ++ line
  | word :: rest =>
    let wraps := width < line.length + word.length && indent < line.length
    let done := if wraps then done ++ trimEnd line ++ [CodePoint.char '\n'] else done
    let line := (if wraps then List.replicate indent (CodePoint.char ' ') else line) ++ word
    fill indent width done (if rest.isEmpty then line else line ++ [CodePoint.char ' ']) rest

/-- An array between brackets. The lines behind the first start with `indent` blanks, and `width`
characters fit on a line. -/
def layOut {α : Type} (write : α → Text) (shortened : Bool) (indent width : Nat) :
    (shape : List Nat) → List α → Text
  | [], entries => entries.flatMap write
  | [_], entries =>
    let shown := if shortened then borders entries else entries
    let words := withGap entries.length (shown.map write)
    let blank := List.replicate indent (CodePoint.char ' ')
    CodePoint.char '[' :: (fill indent (width - 1) [] blank words).drop indent ++ [CodePoint.char ']']
  | extent :: shape, entries =>
    let blocks := parts (volume shape) extent entries
    let shown := if shortened then borders blocks else blocks
    let texts := withGap extent
      (shown.map (layOut write shortened (indent + 1) (width - 1) shape))
    let separator :=
      List.replicate shape.length (CodePoint.char '\n') ++ List.replicate indent (CodePoint.char ' ')
    CodePoint.char '[' :: List.intercalate separator texts ++ [CodePoint.char ']']

def deciding {α : Type} (shape : List Nat) (entries : List α) : List α :=
  if fullSize < volume shape then borderEntries shape entries else entries

def display {α : Type} (write : α → Text) (shape : List Nat) (entries : List α) : Text :=
  layOut write (fullSize < volume shape) 1 lineWidth shape entries

namespace Table

def numbers (width : Width) (shape : List Nat) (values : List Binary64) : Text :=
  let style : NumberStyle := ⟨width, false⟩
  display ((NumberFormat.fitting style (deciding shape values)).text style) shape values

def withUnit (t : Text) : Text :=
  let bare := trimEnd t
  bare ++ CodePoint.char 'j' :: t.drop bare.length

/-- An array of complex numbers. The two parts have formats of their own, and an imaginary part always
has a sign. -/
def complexes (width : Width) (shape : List Nat) (values : List (Binary64 × Binary64)) : Text :=
  let real : NumberStyle := ⟨width, false⟩
  let imaginary : NumberStyle := ⟨width, true⟩
  let chosen := deciding shape values
  let realFormat := NumberFormat.fitting real (chosen.map Prod.fst)
  let imaginaryFormat := NumberFormat.fitting imaginary (chosen.map Prod.snd)
  display (fun (re, im) => realFormat.text real re ++ withUnit (imaginaryFormat.text imaginary im))
    shape values

def columnsOf (write : Int → Text) (shape : List Nat) (values : List Int) : Text :=
  let width := widest ((deciding shape values).map write)
  display (fun n => padLeft width (write n)) shape values

/-- The text of a whole array. One without extent is its only entry. -/
def text (t : Table) : Text :=
  if t.shape.isEmpty then t.entries.labels.flatten
  else if volume t.shape = 0 then "[]"
  else match t.entries with
    | .texts values => display (fun t => Text.quoted (stored t)) t.shape values
    | .integers values => columnsOf Text.ofInt t.shape values
    | .complexes width values => complexes width t.shape values
    | .spans _ _ values =>
      let write (n : Int) : Text :=
        if n = Time.none then ("'" : Text) ++ Time.noneText ++ "'" else Text.ofInt n
      columnsOf write t.shape values
    | .moments unit factor values =>
      columnsOf
        (fun n => CodePoint.char '\'' :: Time.momentText unit factor n ++ [CodePoint.char '\'']) t.shape values
    | .floats values => numbers .double t.shape values
    | .narrow width values => numbers width t.shape values
    | .octets values =>
      display (fun octets => Octets.shown (storedOctets octets)) t.shape values
    | .bools values => display (fun b => padLeft 5 (Entries.boolText b)) t.shape values
    | .foreign => []

end Table

end ServoScript.Archive
