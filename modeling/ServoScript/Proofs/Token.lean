import ServoScript.Proofs.Basic
import ServoScript.Proofs.Words
import ServoScript.Script.Machine
import ServoScript.Script.Program

/-!
# Numerals and names as tokens

What scripts are made of is read back as it was meant: the numeral of an integer as the literal of
this integer, the name of a subroutine as a call. Different channel lists have different names, since
the channels can be cut out of the name again.
-/

namespace ServoScript

namespace Text

theorem isBlank_of_graphic {c : CodePoint} (h : 0x21 ≤ c.toNat) (h' : c.toNat < 0x7F) :
    isBlank c = false := by
  simp [isBlank]
  omega

theorem isDigit_iff {c : CodePoint} : isDigit c = true ↔ 48 ≤ c.toNat ∧ c.toNat ≤ 57 := by
  simp only [isDigit, Bool.and_eq_true, decide_eq_true_eq]
  rfl

theorem isDigit_of_mem_ofNat {n : Nat} {c : CodePoint} (h : c ∈ ofNat n) : isDigit c = true := by
  obtain ⟨d, hd, rfl⟩ := List.mem_map.mp h
  have hdigit : d.isDigit = true := Nat.isDigit_of_mem_toDigits (by decide) (by decide) hd
  simp only [Char.isDigit, Bool.and_eq_true, decide_eq_true_eq] at hdigit
  exact isDigit_iff.mpr hdigit

theorem natOfDigits_ofNat (n : Nat) : natOfDigits (ofNat n) = n := by
  rw [natOfDigits, ofNat, List.foldl_map]
  exact Nat.ofDigitChars_ten_toDigits

theorem natOfDigits_concat (t : Text) (c : CodePoint) :
    natOfDigits (t ++ [c]) = 10 * natOfDigits t + (c.toNat - '0'.toNat) := by
  rw [natOfDigits, List.foldl_append]
  rfl

theorem natOfDigits_zeros_append (k : Nat) (t : Text) :
    natOfDigits (List.replicate k (CodePoint.char '0') ++ t) = natOfDigits t := by
  induction k with
  | zero => rfl
  | succ k ih => exact ih

theorem natOfDigits_append_zeros (t : Text) (k : Nat) :
    natOfDigits (t ++ List.replicate k (CodePoint.char '0')) = natOfDigits t * Nat.pow 10 k := by
  induction k with
  | zero => simp
  | succ k ih =>
    have hzero : (CodePoint.char '0').toNat - '0'.toNat = 0 := rfl
    rw [List.replicate_succ', ← List.append_assoc, natOfDigits_concat, ih, hzero]
    change 10 * (natOfDigits t * 10 ^ k) + 0 = natOfDigits t * 10 ^ (k + 1)
    rw [Nat.pow_succ, Nat.add_zero, Nat.mul_comm, Nat.mul_assoc]

theorem natOfDigits_padded (width n : Nat) : natOfDigits (padded width n) = n := by
  rw [padded, zeroFill, natOfDigits_zeros_append, natOfDigits_ofNat]

theorem ofNat_ne_nil (n : Nat) : ofNat n ≠ [] :=
  mt List.map_eq_nil_iff.mp Nat.toDigits_ne_nil

theorem ofInt_ne_nil (n : Int) : ofInt n ≠ [] := by
  cases n with
  | ofNat n => exact ofNat_ne_nil n
  | negSucc n => exact List.cons_ne_nil _ _

theorem mem_ofInt {n : Int} {c : CodePoint} (h : c ∈ ofInt n) : isDigit c = true ∨ c = '-' := by
  cases n with
  | ofNat n => exact Or.inl (isDigit_of_mem_ofNat h)
  | negSucc n =>
    rcases List.mem_cons.mp h with hc | hc
    · exact Or.inr hc
    · exact Or.inl (isDigit_of_mem_ofNat hc)

theorem mem_intercalate_text {gap : Text} {c : CodePoint} {pieces : List Text}
    (h : c ∈ List.intercalate gap pieces) : c ∈ gap ∨ ∃ piece ∈ pieces, c ∈ piece := by
  induction pieces with
  | nil => simp at h
  | cons piece pieces ih =>
    cases pieces with
    | nil => exact Or.inr ⟨piece, List.mem_cons_self, by simpa using h⟩
    | cons next rest =>
      rw [List.intercalate_cons_cons, List.append_assoc, List.mem_append, List.mem_append] at h
      rcases h with h | h | h
      · exact Or.inr ⟨piece, List.mem_cons_self, h⟩
      · exact Or.inl h
      · rcases ih h with hm | ⟨q, hq, hc⟩
        · exact Or.inl hm
        · exact Or.inr ⟨q, List.mem_cons_of_mem _ hq, hc⟩

theorem mem_intercalate {mark c : CodePoint} {pieces : List Text}
    (h : c ∈ List.intercalate [mark] pieces) : c = mark ∨ ∃ piece ∈ pieces, c ∈ piece :=
  (mem_intercalate_text h).imp_left List.mem_singleton.mp

end Text

namespace Instruction

theorem literal?_of_digits {t : Text} (hne : t ≠ []) (h : ∀ c ∈ t, Text.isDigit c = true) :
    literal? t = some (Text.natOfDigits t : Int) := by
  have hall : t.all Text.isDigit = true := List.all_eq_true.mpr h
  cases t with
  | nil => exact absurd rfl hne
  | cons c t =>
    have hc : c ≠ '-' := by
      rintro rfl
      exact absurd (h '-' List.mem_cons_self) (by decide)
    simp [literal?, hc, hall]

theorem literal?_minus_digits {t : Text} (hne : t ≠ []) (h : ∀ c ∈ t, Text.isDigit c = true) :
    literal? ('-' :: t) = some (-(Text.natOfDigits t : Int)) := by
  have hall : t.all Text.isDigit = true := List.all_eq_true.mpr h
  simp [literal?, hne, hall]

theorem literal?_ofInt (n : Int) : literal? (Text.ofInt n) = some n := by
  cases n with
  | ofNat n =>
    have h := literal?_of_digits (Text.ofNat_ne_nil n) (fun _ => Text.isDigit_of_mem_ofNat)
    rw [Text.ofInt, h, Text.natOfDigits_ofNat]
    rfl
  | negSucc n =>
    have h := literal?_minus_digits (Text.ofNat_ne_nil (n + 1)) (fun _ => Text.isDigit_of_mem_ofNat)
    rw [Text.ofInt, h, Text.natOfDigits_ofNat]
    rfl

theorem ofToken_ofInt (n : Int) : ofToken (Text.ofInt n) = .push n := by
  rw [ofToken, literal?_ofInt]

/-- A token that starts neither with a digit nor with a minus sign is no literal. -/
theorem literal?_of_head {c : CodePoint} {t : Text} (hd : Text.isDigit c = false) (hm : c ≠ '-') :
    literal? (c :: t) = none := by
  simp [literal?, hd, hm]

end Instruction

theorem Text.ofInt_injective : Function.Injective Text.ofInt := by
  intro a b h
  have hl := congrArg Instruction.literal? h
  simpa only [Instruction.literal?_ofInt, Option.some.injEq] using hl

namespace Identifier

theorem isPart_iff {c : CodePoint} : isPart c = true ↔
    (65 ≤ c.toNat ∧ c.toNat ≤ 90) ∨ (97 ≤ c.toNat ∧ c.toNat ≤ 122) ∨
      (48 ≤ c.toNat ∧ c.toNat ≤ 57) ∨ c = '_' := by
  simp only [isPart, Bool.or_eq_true, Bool.and_eq_true, decide_eq_true_eq, beq_iff_eq, or_assoc]
  rfl

theorem isPart_of_mem_ofName {name : Text} {c : CodePoint} (h : c ∈ ofName name) : isPart c = true := by
  rw [ofName] at h
  split at h
  · exact List.all_eq_true.mp (by decide : fallback.all isPart = true) c h
  · exact (List.mem_filter.mp h).2

theorem ofName_ne_nil (name : Text) : ofName name ≠ [] := by
  rw [ofName]
  split
  · decide
  · assumption

end Identifier

namespace Script

theorem isToken_ofName (name : Text) : IsToken (Identifier.ofName name) where
  ne_nil := Identifier.ofName_ne_nil name
  not_blank c hc := by
    rcases Identifier.isPart_iff.mp (Identifier.isPart_of_mem_ofName hc) with h | h | h | rfl
    · exact Text.isBlank_of_graphic (by omega) (by omega)
    · exact Text.isBlank_of_graphic (by omega) (by omega)
    · exact Text.isBlank_of_graphic (by omega) (by omega)
    · decide
  no_comment hc := absurd (Identifier.isPart_of_mem_ofName hc) (by decide)

theorem isToken_ofInt (n : Int) : IsToken (Text.ofInt n) where
  ne_nil := Text.ofInt_ne_nil n
  not_blank c hc := by
    rcases Text.mem_ofInt hc with hd | rfl
    · have := Text.isDigit_iff.mp hd
      exact Text.isBlank_of_graphic (by omega) (by omega)
    · decide
  no_comment hc := by
    rcases Text.mem_ofInt hc with hd | hd <;> exact absurd hd (by decide)

/-- The name of the subroutine of a channel list that is not empty. -/
def setterName (channels : List Int) : Text :=
  "frame_" ++ List.intercalate [CodePoint.char '_'] (channels.map Text.ofInt)

theorem subroutineName_eq_map {channels : List Int} (h : channels ≠ []) :
    subroutineName channels = (Numeral.checkShort channels).map fun _ => setterName channels := by
  have hempty : channels.isEmpty = false := by simpa using h
  rw [subroutineName, hempty, ← bind_ok_eq_map]
  rfl

theorem subroutineName_eq {channels : List Int} (h : channels ≠ [])
    (hshort : ∀ n ∈ channels, Numeral.isShort n = true) :
    subroutineName channels = .ok (setterName channels) := by
  rw [subroutineName_eq_map h, Numeral.checkShort_eq_ok hshort]
  rfl

theorem subroutineName_eq_error {channels : List Int} (h : channels ≠ [])
    (hlong : ¬ ∀ n ∈ channels, Numeral.isShort n = true) :
    subroutineName channels = .error .tooLongToWrite := by
  rw [subroutineName_eq_map h, Numeral.checkShort_eq_error hlong]
  rfl

theorem isToken_setterName (channels : List Int) : IsToken (setterName channels) := by
  have hmem : ∀ c ∈ setterName channels,
      c ∈ ("frame_" : Text) ∨ ∃ n, c ∈ Text.ofInt n := by
    intro c hc
    rcases List.mem_append.mp hc with hf | hi
    · exact Or.inl hf
    · rcases Text.mem_intercalate hi with rfl | ⟨piece, hp, hcp⟩
      · exact Or.inl (by decide)
      · obtain ⟨n, _, rfl⟩ := List.mem_map.mp hp
        exact Or.inr ⟨n, hcp⟩
  have hframe : IsToken "frame_" := by decide
  refine ⟨List.cons_ne_nil _ _, ?_, ?_⟩
  · intro c hc
    rcases hmem c hc with hf | ⟨n, hn⟩
    · exact hframe.not_blank c hf
    · exact (isToken_ofInt n).not_blank c hn
  · intro hc
    rcases hmem '#' hc with hf | ⟨n, hn⟩
    · exact hframe.no_comment hf
    · exact (isToken_ofInt n).no_comment hn

theorem setterName_ne (channels : List Int) {t : Text} (h : t.head? ≠ some (CodePoint.char 'f')) :
    setterName channels ≠ t := by
  rintro rfl
  exact h rfl

/-- The name of a channel list is called, whatever the list: it is no literal and no instruction. -/
theorem ofToken_setterName (channels : List Int) :
    Instruction.ofToken (setterName channels) = .call (setterName channels) := by
  have hl : Instruction.literal? (setterName channels) = none :=
    Instruction.literal?_of_head (by decide) (by decide)
  have hs : setterName channels ≠ "servo" := setterName_ne channels (by decide)
  have hd : setterName channels ≠ "delay" := setterName_ne channels (by decide)
  rw [Instruction.ofToken, hl]
  simp only [if_neg hs, if_neg hd]

theorem setterName_injective {a b : List Int} (ha : a ≠ []) (hb : b ≠ [])
    (h : setterName a = setterName b) : a = b := by
  have hlow : ∀ channels : List Int, ∀ piece ∈ channels.map Text.ofInt, CodePoint.char '_' ∉ piece := by
    intro channels piece hp hc
    obtain ⟨n, _, rfl⟩ := List.mem_map.mp hp
    rcases Text.mem_ofInt hc with hd | hd <;> exact absurd hd (by decide)
  have hsplit : ∀ channels : List Int, channels ≠ [] →
      (List.intercalate [CodePoint.char '_'] (channels.map Text.ofInt)).splitOn (CodePoint.char '_') =
        channels.map Text.ofInt :=
    fun channels hne => List.splitOn_intercalate (CodePoint.char '_') (hlow channels) (by simpa using hne)
  have hnames : List.intercalate [CodePoint.char '_'] (a.map Text.ofInt) =
      List.intercalate [CodePoint.char '_'] (b.map Text.ofInt) := List.append_cancel_left h
  have hmap : a.map Text.ofInt = b.map Text.ofInt := by
    rw [← hsplit a ha, ← hsplit b hb, hnames]
  exact (List.map_inj_right (fun _ _ he => Text.ofInt_injective he)).mp hmap

end Script

end ServoScript
