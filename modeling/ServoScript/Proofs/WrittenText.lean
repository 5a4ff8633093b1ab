import Mathlib.Data.List.Chain
import Mathlib.Tactic.SplitIfs
import ServoScript.Json.Printer
import ServoScript.Json.Reader

/-!
# Written texts are read back

A code point is written as itself, by a letter behind a backslash, or by one or two numbers of 16 bits.
Reading takes these apart again, and joining them gives the code point, unless a lone half was written
right before the other half of a pair.
-/

namespace ServoScript

namespace Text

theorem zeroFill_append_singleton (width : Nat) (t : Text) (c : CodePoint) :
    zeroFill (width + 1) (t ++ [c]) = zeroFill width t ++ [c] := by
  simp [zeroFill]

theorem hex_succ (width n : Nat) :
    hex (width + 2) n = hex (width + 1) (n / 16) ++ [CodePoint.char (Nat.digitChar (n % 16))] := by
  rw [hex, hex]
  by_cases hn : n < 16
  · rw [Nat.toDigits_of_lt_base hn, Nat.div_eq_of_lt hn, Nat.toDigits_zero, Nat.mod_eq_of_lt hn]
    simp [zeroFill, List.replicate_succ']
  · rw [Nat.toDigits_of_base_le (by decide) (by omega), List.map_append]
    exact zeroFill_append_singleton _ _ _

/-- The four digits of a number of 16 bits. -/
theorem hex_four {n : Nat} (h : n < 0x10000) :
    hex 4 n = [n / 16 / 16 / 16, n / 16 / 16 % 16, n / 16 % 16, n % 16].map
      fun digit => CodePoint.char (Nat.digitChar digit) := by
  have htop : n / 16 / 16 / 16 < 16 := by omega
  rw [hex_succ, hex_succ, hex_succ, hex, Nat.toDigits_of_lt_base htop]
  rfl

theorem hexValue?_digitChar : ∀ {d : Nat}, d < 16 → hexValue? (Nat.digitChar d) = some d := by
  decide

end Text

namespace Json

variable (opening : Text) (done : List TextUnit)

theorem readUnits_quote (rest : Text) :
    readUnits opening done ('"' :: rest) = .ok (done.reverse, rest) := by
  rw [readUnits.eq_def]
  rfl

theorem readUnits_letter {e c : CodePoint} (escape : shortEscape? e = some c) (ne : e ≠ 'u')
    (rest : Text) :
    readUnits opening done ('\\' :: e :: rest) = readUnits opening (.plain c :: done) rest := by
  rw [readUnits.eq_def]
  simp [escape, ne]

theorem readUnits_plain {c : CodePoint} (ne_quote : c ≠ '"') (ne_backslash : c ≠ '\\')
    (low : 0x20 ≤ c.toNat) (rest : Text) :
    readUnits opening done (c :: rest) = readUnits opening (.plain c :: done) rest := by
  rw [readUnits.eq_def]
  simp [ne_quote, ne_backslash, Nat.not_lt.2 low]

theorem readUnits_hexEscape {n : Nat} (h : n < 0x10000)
    {rest : Text} (hrest : rest ≠ []) :
    readUnits opening done (hexEscape n ++ rest) = readUnits opening (.number n :: done) rest := by
  have hvalue : hexValue4? (Nat.digitChar (n / 16 / 16 / 16)) (Nat.digitChar (n / 16 / 16 % 16))
      (Nat.digitChar (n / 16 % 16)) (Nat.digitChar (n % 16)) = some n := by
    rw [hexValue4?, Text.hexValue?_digitChar (by omega), Text.hexValue?_digitChar (by omega),
      Text.hexValue?_digitChar (by omega), Text.hexValue?_digitChar (by omega)]
    exact congrArg some (by omega)
  rw [hexEscape, Text.hex_four h]
  simp [readUnits, hvalue, hrest]

/-- Whether a code point is written as itself or by a letter. -/
def isDirect (c : CodePoint) : Bool :=
  (' ' ≤ c && c ≤ '~') || c == '\n' || c == '\r' || c == '\t' || c == '\x0c' || c == '\x08'

/-- What a written code point is read as. -/
def unitsOf (c : CodePoint) : List TextUnit :=
  if isDirect c then [.plain c]
  else if c.toNat < 0x10000 then [.number c.toNat]
  else [.number (0xD800 + (c.toNat - 0x10000) / 0x400), .number (0xDC00 + (c.toNat - 0x10000) % 0x400)]

/-- The characters of written documents: ASCII, and no carriage return. -/
def isPlain (c : CodePoint) : Bool :=
  c.toNat < 0x80 && c != '\r'

theorem isPlain_of_all {t : Text} (h : t.all isPlain = true) {c : CodePoint} (hc : c ∈ t) :
    isPlain c = true :=
  List.all_eq_true.1 h c hc

/-- The forms of a written code point, with what they are read as. -/
inductive CharForm (c : CodePoint) : Text → List TextUnit → Prop where
  | letter {e : CodePoint} (escape : shortEscape? e = some c) (ne : e ≠ 'u') (plain : isPlain e = true) :
      CharForm c ['\\', e] [.plain c]
  | plain (ne_quote : c ≠ '"') (ne_backslash : c ≠ '\\') (low : 0x20 ≤ c.toNat)
      (high : c.toNat < 0x7F) : CharForm c [c] [.plain c]
  | number (small : c.toNat < 0x10000) : CharForm c (hexEscape c.toNat) [.number c.toNat]
  | pair (large : 0x10000 ≤ c.toNat) :
      CharForm c (hexEscape (0xD800 + (c.toNat - 0x10000) / 0x400) ++
          hexEscape (0xDC00 + (c.toNat - 0x10000) % 0x400))
        [.number (0xD800 + (c.toNat - 0x10000) / 0x400), .number (0xDC00 + (c.toNat - 0x10000) % 0x400)]

theorem CharForm.of_beq {c d e : CodePoint} (h : (c == d) = true)
    (he : shortEscape? e = some d ∧ e ≠ 'u' ∧ isPlain e = true ∧ isDirect d = true) :
    CharForm c ['\\', e] (unitsOf c) := by
  obtain ⟨escape, ne, plain, direct⟩ := he
  rw [eq_of_beq h, unitsOf, if_pos direct]
  exact .letter escape ne plain

theorem charForm_writtenChar (c : CodePoint) : CharForm c (writtenChar c) (unitsOf c) := by
  unfold writtenChar
  split_ifs with h₁ h₂ h₃ h₄ h₅ h₆ h₇ h₈ h₉
  · exact .of_beq h₁ (by decide)
  · exact .of_beq h₂ (by decide)
  · exact .of_beq h₃ (by decide)
  · exact .of_beq h₄ (by decide)
  · exact .of_beq h₅ (by decide)
  · exact .of_beq h₆ (by decide)
  · exact .of_beq h₇ (by decide)
  · have hdirect : isDirect c = true := by simp [isDirect, h₈]
    simp only [Bool.and_eq_true, decide_eq_true_eq, CodePoint.le_def] at h₈
    rw [unitsOf, if_pos hdirect]
    exact .plain (by simpa using h₁) (by simpa using h₂) h₈.1 (Nat.lt_succ_of_le h₈.2)
  · rw [unitsOf, if_neg (by simp_all [isDirect]), if_pos h₉]
    exact .number h₉
  · rw [unitsOf, if_neg (by simp_all [isDirect]), if_neg h₉]
    exact .pair (Nat.le_of_not_lt h₉)

theorem readUnits_writtenChar (c : CodePoint) {rest : Text} (hrest : rest ≠ []) :
    readUnits opening done (writtenChar c ++ rest) =
      readUnits opening ((unitsOf c).reverse ++ done) rest := by
  have hbound := c.toNat_lt
  have hform := charForm_writtenChar c
  generalize writtenChar c = written at hform ⊢
  generalize unitsOf c = units at hform ⊢
  cases hform with
  | letter escape ne _ => exact readUnits_letter opening done escape ne rest
  | plain ne_quote ne_backslash low _ =>
    exact readUnits_plain opening done ne_quote ne_backslash low rest
  | number small => exact readUnits_hexEscape opening done small hrest
  | pair large =>
    rw [List.append_assoc,
      readUnits_hexEscape opening done (by omega) (List.append_ne_nil_of_right_ne_nil _ hrest),
      readUnits_hexEscape opening _ (by omega) hrest]
    rfl

theorem isPlain_hexEscape {n : Nat} (h : n < 0x10000) {d : CodePoint} (hd : d ∈ hexEscape n) :
    isPlain d = true := by
  have hdigit : ∀ k < 16, isPlain (Nat.digitChar k) = true := by decide
  rw [hexEscape, Text.hex_four h] at hd
  simp only [List.map_cons, List.map_nil, List.mem_append, List.mem_cons, List.not_mem_nil, or_false] at hd
  rcases hd with hescape | rfl | rfl | rfl | rfl
  · exact isPlain_of_all (by decide) hescape
  all_goals exact hdigit _ (by omega)

theorem isPlain_writtenChar {c d : CodePoint} (hd : d ∈ writtenChar c) : isPlain d = true := by
  have hbound := c.toNat_lt
  have hform := charForm_writtenChar c
  generalize writtenChar c = written at hform hd
  generalize unitsOf c = units at hform
  cases hform with
  | letter escape ne plain =>
    rcases List.mem_cons.1 hd with rfl | he
    · decide
    · rwa [List.mem_singleton.1 he]
  | plain ne_quote ne_backslash low high =>
    rw [List.mem_singleton.1 hd]
    have hreturn : c ≠ '\r' := by
      rintro rfl
      exact absurd low (by decide)
    simp [isPlain, hreturn]
    omega
  | number small => exact isPlain_hexEscape small hd
  | pair large =>
    rcases List.mem_append.1 hd with hhigh | hlow
    · exact isPlain_hexEscape (by omega) hhigh
    · exact isPlain_hexEscape (by omega) hlow

theorem readUnits_written (t rest : Text) :
    readUnits opening done (t.flatMap writtenChar ++ CodePoint.char '"' :: rest) =
      .ok (done.reverse ++ t.flatMap unitsOf, rest) := by
  induction t generalizing done with
  | nil => simpa using readUnits_quote opening done rest
  | cons c t ih =>
    rw [List.flatMap_cons, List.append_assoc, readUnits_writtenChar _ _ _ (by simp), ih]
    simp

/-! ### Joining the halves -/

end Json

/-- A text in which no first half of a pair stands right before a second half. -/
def Text.IsJoined (t : Text) : Prop :=
  t.IsChain fun c d => (CodePoint.isHigh c.toNat && CodePoint.isLow d.toNat) = false

instance (t : Text) : Decidable t.IsJoined :=
  inferInstanceAs (Decidable (List.IsChain _ _))

/-- The text with every first half joined to a second half right behind it. -/
def Text.joinHalves : Text → Text
  | c :: d :: rest =>
    if CodePoint.isHigh c.toNat && CodePoint.isLow d.toNat then
      CodePoint.join c.toNat d.toNat :: joinHalves rest
    else c :: joinHalves (d :: rest)
  | t => t

theorem CodePoint.toNat_join {high low : Nat} (h : (isHigh high && isLow low) = true) :
    (join high low).toNat = 0x10000 + (high - 0xD800) * 0x400 + (low - 0xDC00) := by
  simp only [isHigh, isLow, Bool.and_eq_true, decide_eq_true_eq] at h
  exact toNat_ofNat (by omega)

theorem CodePoint.le_toNat_join {high low : Nat} (h : (isHigh high && isLow low) = true) :
    0x10000 ≤ (join high low).toNat := by
  rw [toNat_join h]
  omega

theorem CodePoint.isHigh_of_le {n : Nat} (h : 0x10000 ≤ n) : isHigh n = false := by
  simp only [isHigh, Bool.and_eq_false_iff, decide_eq_false_iff_not]
  omega

theorem CodePoint.isLow_of_le {n : Nat} (h : 0x10000 ≤ n) : isLow n = false := by
  simp only [isLow, Bool.and_eq_false_iff, decide_eq_false_iff_not]
  omega

namespace Text

theorem joinHalves_eq_self {t : Text} (h : t.IsJoined) : t.joinHalves = t := by
  fun_induction joinHalves t with
  | case1 c d rest hpair ih =>
    rw [(List.isChain_cons_cons.mp h).1] at hpair
    cases hpair
  | case2 c d rest hapart ih => rw [ih (List.isChain_cons_cons.mp h).2]
  | case3 => rfl

/-- The first code point stays, or it is joined to a whole character. -/
theorem exists_joinHalves_cons (c : CodePoint) (t : Text) :
    ∃ d rest, joinHalves (c :: t) = d :: rest ∧ (d = c ∨ 0x10000 ≤ d.toNat) := by
  cases t with
  | nil => exact ⟨c, [], rfl, Or.inl rfl⟩
  | cons e t =>
    rw [joinHalves]
    split
    · next hpair => exact ⟨_, _, rfl, Or.inr (CodePoint.le_toNat_join hpair)⟩
    · exact ⟨_, _, rfl, Or.inl rfl⟩

theorem isJoined_joinHalves (t : Text) : t.joinHalves.IsJoined := by
  have hcons {c : CodePoint} {t : Text} (ht : t.joinHalves.IsJoined)
      (h : CodePoint.isHigh c.toNat = false ∨ ∀ d ∈ t.joinHalves.head?, CodePoint.isLow d.toNat = false) :
      IsJoined (c :: t.joinHalves) := by
    refine List.isChain_cons.mpr ⟨fun d hd => ?_, ht⟩
    rcases h with hhigh | hlow
    · rw [hhigh, Bool.false_and]
    · rw [hlow d hd, Bool.and_false]
  fun_induction joinHalves t with
  | case1 c d rest hpair ih =>
    exact hcons ih (Or.inl (CodePoint.isHigh_of_le (CodePoint.le_toNat_join hpair)))
  | case2 c d rest hapart ih =>
    refine hcons ih ?_
    rcases Bool.and_eq_false_iff.mp (Bool.eq_false_iff.mpr hapart) with hhigh | hlow
    · exact Or.inl hhigh
    · refine Or.inr fun e he => ?_
      obtain ⟨e', rest', heq, hsame⟩ := exists_joinHalves_cons d rest
      rw [heq, List.head?_cons, Option.mem_some_iff] at he
      subst he
      rcases hsame with rfl | hlarge
      · exact hlow
      · exact CodePoint.isLow_of_le hlarge
  | case3 t ht =>
    cases t with
    | nil => exact List.IsChain.nil
    | cons c t =>
      cases t with
      | nil => exact List.IsChain.singleton c
      | cons d t => exact absurd rfl (ht c d t)

end Text

namespace Json

theorem writtenChar_of_le {c : CodePoint} (h : 0x80 ≤ c.toNat) :
    writtenChar c = if c.toNat < 0x10000 then hexEscape c.toNat
      else hexEscape (0xD800 + (c.toNat - 0x10000) / 0x400) ++
        hexEscape (0xDC00 + (c.toNat - 0x10000) % 0x400) := by
  have hne (d : Char) (hd : d.toNat < 0x80) : (c == CodePoint.char d) = false := by
    rw [beq_eq_false_iff_ne]
    rintro rfl
    exact absurd hd (Nat.not_lt.mpr h)
  have hlarge : ¬ c ≤ '~' := fun hle => absurd (Nat.le_trans h hle) (by decide)
  rw [writtenChar, hne _ (by decide), hne _ (by decide), hne _ (by decide), hne _ (by decide),
    hne _ (by decide), hne _ (by decide), hne _ (by decide)]
  simp [hlarge]

/-- A pair of halves is written like the character that it stands for. -/
theorem writtenChar_join {c d : CodePoint}
    (h : (CodePoint.isHigh c.toNat && CodePoint.isLow d.toNat) = true) :
    writtenChar (CodePoint.join c.toNat d.toNat) = writtenChar c ++ writtenChar d := by
  have hlarge := CodePoint.le_toNat_join h
  have hjoin := CodePoint.toNat_join h
  simp only [CodePoint.isHigh, CodePoint.isLow, Bool.and_eq_true, decide_eq_true_eq] at h
  have hhigh : 0xD800 + ((CodePoint.join c.toNat d.toNat).toNat - 0x10000) / 0x400 = c.toNat := by omega
  have hlow : 0xDC00 + ((CodePoint.join c.toNat d.toNat).toNat - 0x10000) % 0x400 = d.toNat := by omega
  rw [writtenChar_of_le (Nat.le_trans (by decide) hlarge), if_neg (Nat.not_lt.mpr hlarge), hhigh, hlow,
    writtenChar_of_le (by omega), if_pos (by omega), writtenChar_of_le (by omega), if_pos (by omega)]

theorem flatMap_writtenChar_joinHalves (t : Text) :
    t.joinHalves.flatMap writtenChar = t.flatMap writtenChar := by
  fun_induction Text.joinHalves t with
  | case1 c d rest hpair ih =>
    rw [List.flatMap_cons, ih, writtenChar_join hpair, List.flatMap_cons, List.flatMap_cons,
      List.append_assoc]
  | case2 c d rest hapart ih => rw [List.flatMap_cons, ih, ← List.flatMap_cons]
  | case3 => rfl

/-- Parts that do not start with the second half of a pair. -/
def StartsJoined (units : List TextUnit) : Prop :=
  ∀ n rest, units = .number n :: rest → CodePoint.isLow n = false

theorem startsJoined_unitsOf {c : CodePoint} (h : CodePoint.isLow c.toNat = false) (rest : List TextUnit) :
    StartsJoined (unitsOf c ++ rest) := by
  intro n more heq
  have hform := charForm_writtenChar c
  generalize writtenChar c = written at hform
  generalize unitsOf c = units at hform heq
  cases hform with
  | letter => cases heq
  | plain => cases heq
  | number =>
    cases heq
    exact h
  | pair =>
    have hbound := c.toNat_lt
    cases heq
    simp only [CodePoint.isLow, Bool.and_eq_false_iff, decide_eq_false_iff_not]
    omega

theorem textOfUnits_number {n : Nat} {rest : List TextUnit}
    (h : CodePoint.isHigh n = false ∨ StartsJoined rest) :
    textOfUnits (.number n :: rest) = CodePoint.ofNat n :: textOfUnits rest := by
  match rest with
  | [] => rfl
  | .plain c :: rest => rfl
  | .number m :: rest =>
    have hapart : (CodePoint.isHigh n && CodePoint.isLow m) = false := by
      rcases h with hhigh | hstart
      · rw [hhigh, Bool.false_and]
      · rw [hstart m rest rfl, Bool.and_false]
    rw [textOfUnits, hapart]
    rfl

theorem textOfUnits_pair {c : CodePoint} (h : 0x10000 ≤ c.toNat) (rest : List TextUnit) :
    textOfUnits (.number (0xD800 + (c.toNat - 0x10000) / 0x400) ::
      .number (0xDC00 + (c.toNat - 0x10000) % 0x400) :: rest) = c :: textOfUnits rest := by
  have hbound := c.toNat_lt
  obtain ⟨high, hhigh⟩ : ∃ high, (c.toNat - 0x10000) / 0x400 = high := ⟨_, rfl⟩
  obtain ⟨low, hlow⟩ : ∃ low, (c.toNat - 0x10000) % 0x400 = low := ⟨_, rfl⟩
  have hpair : (CodePoint.isHigh (0xD800 + high) && CodePoint.isLow (0xDC00 + low)) = true := by
    simp only [CodePoint.isHigh, CodePoint.isLow, Bool.and_eq_true, decide_eq_true_eq]
    omega
  have hjoined : 0x10000 + (0xD800 + high - 0xD800) * 0x400 + (0xDC00 + low - 0xDC00) = c.toNat := by
    omega
  rw [hhigh, hlow, textOfUnits, if_pos hpair, CodePoint.join, hjoined, CodePoint.ofNat_toNat]

/-- One code point in front of parts that do not continue it. -/
theorem textOfUnits_unitsOf {c : CodePoint} {rest : List TextUnit}
    (h : CodePoint.isHigh c.toNat = false ∨ StartsJoined rest) :
    textOfUnits (unitsOf c ++ rest) = c :: textOfUnits rest := by
  have hform := charForm_writtenChar c
  generalize writtenChar c = written at hform
  generalize unitsOf c = units at hform ⊢
  cases hform with
  | letter => rfl
  | plain => rfl
  | number =>
    rw [List.singleton_append, textOfUnits_number h, CodePoint.ofNat_toNat]
  | pair large => exact textOfUnits_pair large rest

theorem textOfUnits_flatMap {t : Text} (h : t.IsJoined) : textOfUnits (t.flatMap unitsOf) = t := by
  induction t with
  | nil => rfl
  | cons c t ih =>
    rw [List.flatMap_cons, textOfUnits_unitsOf, ih (List.IsChain.of_cons h)]
    cases t with
    | nil => exact Or.inr fun n rest heq => by cases heq
    | cons d t =>
      have hapart := (List.isChain_cons_cons.mp h).1
      rcases Bool.and_eq_false_iff.mp hapart with hhigh | hlow
      · exact Or.inl hhigh
      · exact Or.inr (by
          rw [List.flatMap_cons]
          exact startsJoined_unitsOf hlow _)

/-- A written text is read back, whatever follows its closing quote. -/
theorem readText_writtenText {t : Text} (h : t.IsJoined) (opening rest : Text) :
    readText opening (t.flatMap writtenChar ++ CodePoint.char '"' :: rest) = .ok (t, rest) := by
  rw [readText, readUnits_written]
  simp [Except.map, textOfUnits_flatMap h]

end Json

end ServoScript
