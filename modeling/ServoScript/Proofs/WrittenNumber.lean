import Mathlib.Tactic.SplitIfs
import ServoScript.Json.Printer
import ServoScript.Json.Reader
import ServoScript.Proofs.ShortestDecimal
import ServoScript.Proofs.Word

/-!
# Written numbers are read back

The text of an integer is read as this integer, and that of a floating-point number as this number, if
nothing follows that would continue a number.
-/

namespace ServoScript

namespace Json

/-- Nothing that would continue a number stands at the start of a text. -/
def EndsNumber (rest : Text) : Prop :=
  ∀ c ∈ rest.head?, Text.isDigit c = false ∧ c ≠ '.' ∧ c ≠ 'e' ∧ c ≠ 'E'

def EndsDigits (rest : Text) : Prop :=
  ∀ c ∈ rest.head?, Text.isDigit c = false

/-- One digit at least, and nothing else. -/
structure IsDigits (t : Text) : Prop where
  ne_nil : t ≠ []
  digits : ∀ c ∈ t, Text.isDigit c = true

/-- A zero alone, or digits that start with another one. -/
inductive IsWhole : Text → Prop where
  | zero : IsWhole ['0']
  | digits {c : CodePoint} {t : Text} (ne_zero : c ≠ '0') (h : IsDigits (c :: t)) : IsWhole (c :: t)

theorem isDigits_ofNat (n : Nat) : IsDigits (Text.ofNat n) :=
  ⟨Text.ofNat_ne_nil n, fun _ => Text.isDigit_of_mem_ofNat⟩

theorem isDigits_append {t u : Text} (ht : ∀ c ∈ t, Text.isDigit c = true) (hu : IsDigits u) :
    IsDigits (t ++ u) where
  ne_nil := List.append_ne_nil_of_right_ne_nil t hu.ne_nil
  digits c hc := (List.mem_append.1 hc).elim (ht c) (hu.digits c)

theorem isDigit_of_mem_zeros {n : Nat} {c : CodePoint} (h : c ∈ List.replicate n (CodePoint.char '0')) :
    Text.isDigit c = true := by
  rw [List.eq_of_mem_replicate h]
  rfl

theorem isDigits_padded (width n : Nat) : IsDigits (Text.padded width n) :=
  isDigits_append (fun _ => isDigit_of_mem_zeros) (isDigits_ofNat n)

/-- The numeral of a positive number starts with no zero. -/
theorem head_ofNat_ne {n : Nat} (h : n ≠ 0) : (Text.ofNat n).head? ≠ some (CodePoint.char '0') := by
  induction n using Nat.strongRecOn with
  | ind n ih =>
    rw [Text.ofNat, Nat.toDigits_eq_if (by decide)]
    split
    · simpa using h
    · have hhead := ih (n / 10) (by omega) (by omega)
      cases htext : Text.ofNat (n / 10) with
      | nil => exact absurd htext (Text.ofNat_ne_nil _)
      | cons c t =>
        rw [htext] at hhead
        rw [Text.ofNat] at htext
        rwa [List.map_append, htext]

theorem isWhole_cons {c : CodePoint} {t : Text} (h : IsDigits (c :: t)) (hc : c = '0' → t = []) :
    IsWhole (c :: t) := by
  by_cases hzero : c = '0'
  · rw [hzero, hc hzero]
    exact .zero
  · exact .digits hzero h

theorem isWhole_ofNat (n : Nat) : IsWhole (Text.ofNat n) := by
  by_cases h : n = 0
  · rw [h]
    exact .zero
  · have hhead := head_ofNat_ne h
    have hdigits := isDigits_ofNat n
    generalize Text.ofNat n = t at hhead hdigits ⊢
    cases t with
    | nil => exact absurd rfl hdigits.ne_nil
    | cons c t => exact .digits (by simpa using hhead) hdigits

theorem IsWhole.exists_cons {t : Text} (h : IsWhole t) :
    ∃ c u, t = c :: u ∧ Text.isDigit c = true := by
  cases h with
  | zero => exact ⟨'0', [], rfl, rfl⟩
  | digits _ h => exact ⟨_, _, rfl, h.digits _ (by simp)⟩

variable {rest : Text}

theorem EndsNumber.endsDigits (h : EndsNumber rest) : EndsDigits rest :=
  fun c hc => (h c hc).1

theorem spanDigits_append {t : Text} (h : ∀ c ∈ t, Text.isDigit c = true) (hr : EndsDigits rest) :
    spanDigits (t ++ rest) = (t, rest) := by
  rw [spanDigits, List.takeWhile_append_of_pos h, List.dropWhile_append_of_pos h]
  cases rest with
  | nil => simp
  | cons c rest => simp [hr c rfl]

theorem spanWhole_append {whole : Text} (h : IsWhole whole) (hr : EndsDigits rest) :
    spanWhole (whole ++ rest) = some (whole, rest) := by
  cases h with
  | zero => rfl
  | digits ne_zero h =>
    simp only [List.cons_append, spanWhole, ne_zero, beq_iff_eq, if_false,
      h.digits _ List.mem_cons_self, if_true]
    exact congrArg some (spanDigits_append h.digits hr)

theorem spanFraction_of_ne (h : rest.head? ≠ some (CodePoint.char '.')) : spanFraction rest = ([], rest) := by
  unfold spanFraction
  split
  · exact absurd rfl h
  · rfl

theorem spanFraction_append {t : Text} (h : IsDigits t) (hr : EndsDigits rest) :
    spanFraction (CodePoint.char '.' :: t ++ rest) = (t, rest) := by
  simp only [List.cons_append, spanFraction, spanDigits_append h.digits hr]
  split
  · next heq => exact absurd (congrArg Prod.fst heq) h.ne_nil
  · rfl

theorem spanExponent_of_ne (h : ∀ c ∈ rest.head?, c ≠ 'e' ∧ c ≠ 'E') :
    spanExponent rest = (none, rest) := by
  cases rest with
  | nil => rfl
  | cons c rest => simp [spanExponent, h c rfl]

theorem spanExponent_append {sign : CodePoint} (hs : sign = '-' ∨ sign = '+') {t : Text} (h : IsDigits t)
    (hr : EndsDigits rest) :
    spanExponent (CodePoint.char 'e' :: sign :: t ++ rest) =
      (some (Binary64.signed (sign = '-') (Text.natOfDigits t)), rest) := by
  rcases hs with rfl | rfl
  · simp [spanExponent, spanDigits_append h.digits hr, h.ne_nil]
  · simp [spanExponent, spanDigits_append h.digits hr, h.ne_nil]

theorem readMagnitude_ofNat (start : Text) (negative : Bool) {n : Nat}
    (h : (Text.ofNat n).length ≤ Numeral.maxDigits) (hr : EndsNumber rest) :
    readMagnitude start negative (Text.ofNat n ++ rest) =
      .ok (.int (Binary64.signed negative n), rest) := by
  have hpoint : rest.head? ≠ some (CodePoint.char '.') := fun heq => (hr '.' heq).2.1 rfl
  have hmark : ∀ c ∈ rest.head?, c ≠ 'e' ∧ c ≠ 'E' := fun c hc => (hr c hc).2.2
  simp [readMagnitude, spanWhole_append (isWhole_ofNat n) hr.endsDigits, spanFraction_of_ne hpoint,
    spanExponent_of_ne hmark, Nat.not_lt.2 h, Text.natOfDigits_ofNat]

/-! ### Floating-point numbers -/

/-- The texts of decimals with a fraction, a power or both, and the digits and the exponent that they are
read as. -/
inductive FloatText : Text → Nat → Int → Prop where
  | fraction {whole fraction : Text} (hw : IsWhole whole) (hf : IsDigits fraction) :
      FloatText (whole ++ CodePoint.char '.' :: fraction) (Text.natOfDigits (whole ++ fraction))
        (-fraction.length)
  | power {whole power : Text} {sign : CodePoint} (hw : IsWhole whole) (hs : sign = '-' ∨ sign = '+')
      (hp : IsDigits power) :
      FloatText (whole ++ CodePoint.char 'e' :: sign :: power) (Text.natOfDigits whole)
        (Binary64.signed (sign = '-') (Text.natOfDigits power))
  | both {whole fraction power : Text} {sign : CodePoint} (hw : IsWhole whole) (hf : IsDigits fraction)
      (hs : sign = '-' ∨ sign = '+') (hp : IsDigits power) :
      FloatText (whole ++ CodePoint.char '.' :: fraction ++ CodePoint.char 'e' :: sign :: power)
        (Text.natOfDigits (whole ++ fraction))
        (Binary64.signed (sign = '-') (Text.natOfDigits power) - fraction.length)

variable {t : Text} {n : Nat} {k : Int}

theorem FloatText.exists_cons (h : FloatText t n k) :
    ∃ c u, t = c :: u ∧ Text.isDigit c = true := by
  cases h with
  | fraction hw =>
    obtain ⟨c, u, rfl, hc⟩ := hw.exists_cons
    exact ⟨c, _, rfl, hc⟩
  | power hw =>
    obtain ⟨c, u, rfl, hc⟩ := hw.exists_cons
    exact ⟨c, _, rfl, hc⟩
  | both hw =>
    obtain ⟨c, u, rfl, hc⟩ := hw.exists_cons
    exact ⟨c, _, rfl, hc⟩

theorem readMagnitude_float (start : Text) {t whole fraction afterWhole afterFraction : Text}
    {exponent : Option Int} (negative : Bool) (hwhole : spanWhole t = some (whole, afterWhole))
    (hfraction : spanFraction afterWhole = (fraction, afterFraction))
    (hexponent : spanExponent afterFraction = (exponent, rest))
    (hpart : (fraction.isEmpty && exponent.isNone) = false) :
    readMagnitude start negative t =
      .ok (.float (Binary64.ofDecimal negative (Text.natOfDigits (whole ++ fraction))
        (exponent.getD 0 - fraction.length)), rest) := by
  simp only [readMagnitude, hwhole, hfraction, hexponent, hpart]
  rfl

theorem readMagnitude_floatText (h : FloatText t n k) (start : Text) (negative : Bool)
    (hr : EndsNumber rest) :
    readMagnitude start negative (t ++ rest) = .ok (.float (Binary64.ofDecimal negative n k), rest) := by
  have hpoint (u : Text) : EndsDigits ('.' :: u) := by simp [EndsDigits, Text.isDigit]
  have hmark (u : Text) : EndsDigits ('e' :: u) := by simp [EndsDigits, Text.isDigit]
  cases h with
  | fraction hw hf =>
    have hread := readMagnitude_float start negative (spanWhole_append hw (hpoint _))
      (spanFraction_append hf hr.endsDigits) (spanExponent_of_ne fun c hc => (hr c hc).2.2)
      (by simp [hf.ne_nil])
    rw [Option.getD_none, Int.zero_sub] at hread
    rw [List.append_assoc]
    exact hread
  | power hw hs hp =>
    have hread := readMagnitude_float start negative (spanWhole_append hw (hmark _))
      (spanFraction_of_ne (by simp)) (spanExponent_append hs hp hr.endsDigits) rfl
    rw [List.append_nil, Option.getD_some, List.length_nil, Int.ofNat_zero, Int.sub_zero] at hread
    rw [List.append_assoc]
    exact hread
  | both hw hf hs hp =>
    have hread := readMagnitude_float start negative (spanWhole_append hw (hpoint _))
      (spanFraction_append hf (hmark _)) (spanExponent_append hs hp hr.endsDigits) (by simp)
    rw [Option.getD_some] at hread
    rw [List.append_assoc, List.append_assoc]
    exact hread

def signText (negative : Bool) : Text :=
  if negative then "-" else ""

theorem exists_word_eq_cons {word : Text} {value : Json} (h : (word, value) ∈ words) :
    ∃ c u, word = c :: u ∧ Text.isDigit c = false := by
  simp only [words, List.mem_cons, List.not_mem_nil, or_false, Prod.mk.injEq] at h
  obtain ⟨rfl, -⟩ | ⟨rfl, -⟩ | ⟨rfl, -⟩ | ⟨rfl, -⟩ | ⟨rfl, -⟩ | ⟨rfl, -⟩ := h <;>
    exact ⟨_, _, rfl, rfl⟩

/-- A number with its sign is no word of the format. -/
theorem readScalar_signed (negative : Bool) {t : Text}
    (ht : ∃ c u, t = c :: u ∧ Text.isDigit c = true) (rest : Text) :
    ∃ start, readScalar (signText negative ++ t ++ rest) =
      readMagnitude start negative (t ++ rest) := by
  obtain ⟨c, u, rfl, hc⟩ := ht
  have hne (d : CodePoint) (hd : Text.isDigit d = false) : d ≠ c := by
    rintro rfl
    simp [hd] at hc
  cases negative with
  | true =>
    refine ⟨CodePoint.char '-' :: c :: u ++ rest, ?_⟩
    simp [signText, readScalar, words, hne 'I' rfl]
  | false =>
    refine ⟨c :: u ++ rest, ?_⟩
    change readScalar (c :: u ++ rest) = _
    unfold readScalar
    split
    · next word value hfound =>
      obtain ⟨d, v, rfl, hd⟩ := exists_word_eq_cons (List.mem_of_find?_eq_some hfound)
      have hprefix := List.find?_some hfound
      simp [hne d hd] at hprefix
    · split
      · next heq => exact absurd (List.cons.inj heq).1.symm (hne '-' rfl)
      · rfl

end Json

namespace Binary64

/-! ### The text of a floating-point number -/

open Json (IsDigits IsWhole FloatText)
open Json (isDigits_append isDigit_of_mem_zeros isDigits_padded isWhole_cons)

/-- The digits that a decimal is written with are those of its value, up to zeros that its exponent
accounts for. -/
def Denotes (t : Text) (digits : Text) (exponent : Int) : Prop :=
  ∃ n k, FloatText t n k ∧ ∀ negative,
    ofDecimal negative n k = ofDecimal negative (Text.natOfDigits digits) exponent

theorem Denotes.of_eq {t digits : Text} {exponent : Int} {n : Nat} {k : Int} (h : FloatText t n k)
    (hn : n = Text.natOfDigits digits) (hk : k = exponent) : Denotes t digits exponent :=
  ⟨n, k, h, fun negative => by rw [hn, hk]⟩

theorem pointed_of_lt {digits : Text} {n : Nat} (h : n + 1 < digits.length) :
    pointed digits (.ofNat (n + 1)) = digits.take (n + 1) ++ CodePoint.char '.' :: digits.drop (n + 1) := by
  have hzeros : List.replicate (n + 1 - digits.length) (CodePoint.char '0') = [] := by
    rw [Nat.sub_eq_zero_of_le (Nat.le_of_lt h), List.replicate_zero]
  have hrest : (digits.drop (n + 1)).isEmpty = false := by simp [h]
  rw [pointed, hzeros, List.append_nil, hrest]
  · rfl
  · simp

theorem pointed_of_le {digits : Text} {n : Nat} (h : digits.length ≤ n + 1) :
    pointed digits (.ofNat (n + 1)) =
      (digits ++ List.replicate (n + 1 - digits.length) (CodePoint.char '0')) ++
        CodePoint.char '.' :: ['0'] := by
  have hlength : (digits ++ List.replicate (n + 1 - digits.length) (CodePoint.char '0')).length = n + 1 := by
    simp
    omega
  rw [pointed, List.take_of_length_le (Nat.le_of_eq hlength),
    List.drop_of_length_le (Nat.le_of_eq hlength)]
  · rfl
  · simp

theorem isWhole_append {digits : Text} (h : IsDigits digits) (hhead : digits.head? ≠ some (CodePoint.char '0'))
    {t : Text} (ht : ∀ c ∈ t, Text.isDigit c = true) : IsWhole (digits ++ t) := by
  cases digits with
  | nil => exact absurd rfl h.ne_nil
  | cons c u =>
    have hall : ∀ d ∈ c :: u ++ t, Text.isDigit d = true :=
      fun d hd => (List.mem_append.1 hd).elim (h.digits d) (ht d)
    exact .digits (by simpa using hhead) ⟨by simp, hall⟩

theorem isWhole_take {digits : Text} (h : IsDigits digits)
    (hhead : digits.head? ≠ some (CodePoint.char '0')) (n : Nat) :
    IsWhole (digits.take (n + 1)) := by
  cases digits with
  | nil => exact absurd rfl h.ne_nil
  | cons c u =>
    have hall : ∀ d ∈ (c :: u).take (n + 1), Text.isDigit d = true :=
      fun d hd => h.digits d (List.mem_of_mem_take hd)
    exact .digits (by simpa using hhead) ⟨by simp, hall⟩

theorem denotes_pointed {digits : Text} {exponent : Int} (h : IsDigits digits)
    (hhead : digits.head? ≠ some (CodePoint.char '0')) :
    Denotes (pointed digits (exponent + digits.length)) digits exponent := by
  generalize hwhole : exponent + digits.length = whole
  match whole with
  | .ofNat 0 =>
    have hzeros := Text.natOfDigits_zeros_append 1 digits
    rw [Int.ofNat_eq_natCast] at hwhole
    refine .of_eq (.fraction .zero h) hzeros ?_
    change -(digits.length : Int) = exponent
    omega
  | .negSucc n =>
    have hfraction := isDigits_append (fun _ => isDigit_of_mem_zeros (n := n + 1)) h
    have hzeros := Text.natOfDigits_zeros_append (n + 2) digits
    have hlength : (List.replicate (n + 1) (CodePoint.char '0') ++ digits).length =
        n + 1 + digits.length := by simp
    rw [Int.negSucc_eq] at hwhole
    refine .of_eq (.fraction .zero hfraction) hzeros ?_
    change -((List.replicate (n + 1) (CodePoint.char '0') ++ digits).length : Int) = exponent
    omega
  | .ofNat (n + 1) =>
    rw [Int.ofNat_eq_natCast] at hwhole
    by_cases hlong : n + 1 < digits.length
    · have hrest : IsDigits (digits.drop (n + 1)) :=
        ⟨by simpa using hlong, fun c hc => h.digits c (List.mem_of_mem_drop hc)⟩
      rw [pointed_of_lt hlong]
      refine .of_eq (.fraction (isWhole_take h hhead n) hrest) (by rw [List.take_append_drop]) ?_
      rw [List.length_drop]
      omega
    · -- All digits stand in front of the point, with zeros that the exponent accounts for.
      obtain ⟨k, hk⟩ : ∃ k, n + 1 - digits.length = k := ⟨_, rfl⟩
      have hwhole' := isWhole_append h hhead fun _ => isDigit_of_mem_zeros (n := k)
      have hzeros : Text.natOfDigits
          ((digits ++ List.replicate k (CodePoint.char '0')) ++ [CodePoint.char '0']) =
          Text.natOfDigits digits * Nat.pow 10 (k + 1) := by
        rw [← Text.natOfDigits_append_zeros, List.append_assoc, List.replicate_succ']
      rw [pointed_of_le (Nat.le_of_not_lt hlong), hk]
      refine ⟨_, _, .fraction hwhole' ⟨by simp, by simp [Text.isDigit]⟩, fun negative => ?_⟩
      rw [hzeros, ofDecimal_mul_pow]
      congr 1
      rw [List.length_singleton]
      omega

theorem power_eq (layout : Layout) (exponent : Int) :
    ∃ sign : CodePoint, (sign = '-' ∨ sign = '+') ∧ signed (sign = '-') exponent.natAbs = exponent ∧
      layout.power exponent = CodePoint.char 'e' :: sign :: Text.padded layout.width exponent.natAbs := by
  rw [Layout.power]
  split_ifs with hneg
  · refine ⟨'-', .inl rfl, ?_, rfl⟩
    change -(exponent.natAbs : Int) = exponent
    omega
  · refine ⟨'+', .inr rfl, ?_, rfl⟩
    change (exponent.natAbs : Int) = exponent
    omega

theorem denotes_decimal {digits : Nat} (hne : digits ≠ 0) (exponent : Int) :
    Denotes (Layout.plain.decimal (Text.ofNat digits) exponent) (Text.ofNat digits) exponent := by
  have hdigits := Json.isDigits_ofNat digits
  have hhead := Json.head_ofNat_ne hne
  generalize Text.ofNat digits = t at hdigits hhead ⊢
  obtain ⟨sign, hs, hsigned, hpower⟩ := power_eq Layout.plain (exponent + t.length - 1)
  have hpadded := isDigits_padded Layout.plain.width (exponent + t.length - 1).natAbs
  have hvalue := Text.natOfDigits_padded Layout.plain.width (exponent + t.length - 1).natAbs
  simp only [Layout.decimal, hpower]
  split_ifs
  · rw [Int.sub_add_cancel]
    exact denotes_pointed hdigits hhead
  · split
    · next digit =>
      refine .of_eq (.power (isWhole_cons hdigits fun _ => rfl) hs hpadded) rfl ?_
      rw [hvalue, hsigned, List.length_singleton]
      omega
    · next first rest hrest _ =>
      have hfraction : IsDigits rest := ⟨hrest, fun c hc =>
        hdigits.digits c (List.mem_cons_of_mem first hc)⟩
      have hfirst : IsDigits [first] := ⟨by simp, by simpa using hdigits.digits first (by simp)⟩
      refine .of_eq (.both (isWhole_cons hfirst fun _ => rfl) hfraction hs hpadded) rfl ?_
      rw [hvalue, hsigned, List.length_cons]
      omega
    · exact absurd rfl hdigits.ne_nil

/-- The text of a finite number denotes it. -/
theorem text_finite {significand scale : Nat} (h : Rounded significand scale) (negative : Bool) :
    ∃ t n k, FloatText t n k ∧ ofDecimal negative n k = .finite negative significand scale ∧
      text (.finite negative significand scale) = Json.signText negative ++ t := by
  cases significand with
  | zero =>
    have hscale : scale = 0 := by
      by_contra hne
      exact absurd (h.full hne) (by decide)
    subst hscale
    exact ⟨['0', '.', '0'], _, _, .fraction .zero ⟨by simp, by simp [Text.isDigit]⟩,
      ofDecimal_zero negative _, rfl⟩
  | succ m =>
    have hne := Nat.succ_ne_zero m
    obtain ⟨n, k, htext, hvalue⟩ := denotes_decimal (shortest_ne_zero h hne) (shortest (m + 1) scale).2
    refine ⟨_, n, k, htext, ?_, ?_⟩
    · rw [hvalue, Text.natOfDigits_ofNat, ofDecimal_shortest negative h hne]
    · simp only [text, Json.signText]

end Binary64

namespace Json

theorem readScalar_ofInt {n : Int} (h : (Text.ofNat n.natAbs).length ≤ Numeral.maxDigits)
    {rest : Text} (hr : EndsNumber rest) : readScalar (Text.ofInt n ++ rest) = .ok (.int n, rest) := by
  cases n with
  | ofNat k =>
    obtain ⟨start, hread⟩ := readScalar_signed false (isWhole_ofNat k).exists_cons rest
    exact hread.trans (readMagnitude_ofNat start false h hr)
  | negSucc k =>
    obtain ⟨start, hread⟩ := readScalar_signed true (isWhole_ofNat (k + 1)).exists_cons rest
    exact hread.trans (readMagnitude_ofNat start true h hr)

theorem readScalar_writtenFloat {x : Binary64} (h : x.IsRounded) {rest : Text} (hr : EndsNumber rest) :
    readScalar (writtenFloat x ++ rest) = .ok (.float x, rest) := by
  cases x with
  | finite negative significand scale =>
    obtain ⟨t, n, k, ht, hvalue, htext⟩ := Binary64.text_finite h negative
    obtain ⟨start, hread⟩ := readScalar_signed negative ht.exists_cons rest
    change readScalar ((Binary64.finite negative significand scale).text ++ rest) = _
    rw [htext, hread, readMagnitude_floatText ht start negative hr, hvalue]
  | infinite negative => cases negative <;> rfl
  | undefined => rfl

end Json

end ServoScript
