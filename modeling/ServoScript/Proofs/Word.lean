import Mathlib.Tactic.SplitIfs
import ServoScript.Frame
import ServoScript.Proofs.Basic
import ServoScript.Proofs.Token

/-!
# Words as text

A run of ASCII digits is read as the word that it stands for, whether or not it has zeros in front, and
is refused only if its value or its length is too great. The numeral of a word is therefore read back
as this word.
-/

namespace ServoScript

namespace Text

theorem dropWhile_gap {gap t : Text} (hgap : ∀ c ∈ gap, isBlank c = true) (hne : t ≠ [])
    (ht : ∀ c ∈ t, isBlank c = false) (u : Text) : (gap ++ (t ++ u)).dropWhile isBlank = t ++ u := by
  rw [List.dropWhile_append_of_pos hgap]
  cases t with
  | nil => exact absurd rfl hne
  | cons c t => exact List.dropWhile_cons_of_neg (by simp [ht c List.mem_cons_self])

theorem trim_between {left t right : Text} (hleft : ∀ c ∈ left, isBlank c = true)
    (hright : ∀ c ∈ right, isBlank c = true) (hne : t ≠ []) (ht : ∀ c ∈ t, isBlank c = false) :
    trim (left ++ t ++ right) = t := by
  have hdrop : (right.reverse ++ (t.reverse ++ [])).dropWhile isBlank = t.reverse ++ [] :=
    dropWhile_gap (fun c hc => hright c (List.mem_reverse.mp hc)) (List.reverse_ne_nil_iff.mpr hne)
      (fun c hc => ht c (List.mem_reverse.mp hc)) []
  rw [List.append_nil] at hdrop
  rw [trim, trimWhere, List.append_assoc, dropWhile_gap hleft hne ht, List.reverse_append, hdrop,
    List.reverse_reverse]

theorem trim_eq_self {t : Text} (h : ∀ c ∈ t, isBlank c = false) : trim t = t := by
  by_cases hne : t = []
  · rw [hne]
    rfl
  · have hnone : ∀ c ∈ ([] : Text), isBlank c = true := fun c hc => absurd hc List.not_mem_nil
    have hself := trim_between hnone hnone hne h
    rwa [List.nil_append, List.append_nil] at hself

theorem isBlank_of_isDigit {c : CodePoint} (h : isDigit c = true) : isBlank c = false := by
  have hc := isDigit_iff.mp h
  exact isBlank_of_graphic (by omega) (by omega)

theorem trim_of_digits {t : Text} (h : ∀ c ∈ t, isDigit c = true) : trim t = t :=
  trim_eq_self fun c hc => isBlank_of_isDigit (h c hc)

theorem length_ofNat_le {n k : Nat} (hk : 0 < k) (h : n < Nat.pow 10 k) : (ofNat n).length ≤ k := by
  rw [ofNat, List.length_map]
  exact (Nat.length_toDigits_le_iff (by decide) hk).mpr h

theorem length_ofNat_of_isShort {n : Int} (h : Numeral.isShort n = true) :
    (ofNat n.natAbs).length ≤ Numeral.maxDigits :=
  length_ofNat_le (by decide) (of_decide_eq_true h)

theorem length_ofNat_word {n : Nat} (h : n ≤ 65535) : (ofNat n).length ≤ 5 :=
  length_ofNat_le (by decide) (Nat.lt_of_le_of_lt h (by decide))

end Text

namespace Word

theorem digitsOf_of_digits {t : Text} (h : ∀ c ∈ t, Text.isDigit c = true) : digitsOf t = t := by
  unfold digitsOf
  split
  · exact absurd (h '+' List.mem_cons_self) (by decide)
  · rfl

/-- What a text is read as by the digits that it has between its blanks, behind a plus sign or not. -/
theorem parse_of_digitsOf {t digits : Text} (ht : digitsOf (Text.trim t) = digits) (hne : digits ≠ [])
    (h : ∀ c ∈ digits, Text.isDigit c = true) :
    parse t = if 4300 < digits.length then .error (.tooManyDigits digits.length)
      else if 65535 < Text.natOfDigits digits then .error (.aboveWord (Text.natOfDigits digits))
      else .ok (Text.natOfDigits digits) := by
  have hall : digits.all Text.isDigit = true := List.all_eq_true.mpr h
  simp only [parse, ht, hall, List.isEmpty_eq_false_iff.mpr hne]
  rfl

/-- What a run of digits is read as. -/
theorem parse_of_digits {t : Text} (hne : t ≠ []) (h : ∀ c ∈ t, Text.isDigit c = true)
    (hlen : t.length ≤ 4300) :
    parse t = if 65535 < Text.natOfDigits t then .error (.aboveWord (Text.natOfDigits t))
      else .ok (Text.natOfDigits t) := by
  have ht : digitsOf (Text.trim t) = t := by rw [Text.trim_of_digits h, digitsOf_of_digits h]
  rw [parse_of_digitsOf ht hne h, if_neg (Nat.not_lt.mpr hlen)]

theorem eq_of_parse_digits {t : Text} {n : Nat} (h : ∀ c ∈ t, Text.isDigit c = true)
    (hp : parse t = .ok n) : n = Text.natOfDigits t := by
  simp only [parse, Text.trim_of_digits h, digitsOf_of_digits h] at hp
  split_ifs at hp
  exact (Except.ok.inj hp).symm

theorem parse_ofNat {n : Nat} (h : n ≤ 65535) : parse (Text.ofNat n) = .ok n := by
  have hlen := Text.length_ofNat_word h
  rw [parse_of_digits (Text.ofNat_ne_nil n) (fun _ => Text.isDigit_of_mem_ofNat) (by omega),
    Text.natOfDigits_ofNat, if_neg (by omega)]

theorem parseD_ofInt {v : Int} (h : 0 ≤ v ∧ v ≤ 65535) (fallback : Nat) :
    (parseD (Text.ofInt v) fallback : Int) = v := by
  cases v with
  | ofNat n =>
    have hn : n ≤ 65535 := Int.ofNat_le.mp h.2
    simp [parseD, Text.ofInt, parse_ofNat hn]
  | negSucc n => exact absurd h.1 (by omega)

theorem map_parseD_ofInt {values : List Int} (h : ∀ v ∈ values, 0 ≤ v ∧ v ≤ 65535) :
    (values.map Text.ofInt).map (fun t => (parseD t 0 : Int)) = values := by
  rw [List.map_map]
  exact map_eq_self fun v hv => parseD_ofInt (h v hv) 0

theorem isWord_iff {n : Int} : isWord n = true ↔ 0 ≤ n ∧ n ≤ 65535 := by
  rw [isWord, Bool.and_eq_true, decide_eq_true_eq, decide_eq_true_eq]
  rfl

/-- Every lenient reading is a word, as long as the fallback is one. -/
theorem parseD_le (t : Text) {fallback : Nat} (h : fallback ≤ 65535) :
    parseD t fallback ≤ 65535 := by
  have hparse : ∀ n, parse t = .ok n → n ≤ 65535 := by
    intro n hn
    simp only [parse] at hn
    split_ifs at hn with _ _ hmax
    cases hn
    exact Nat.le_of_not_lt hmax
  unfold parseD
  split
  · exact hparse _ ‹_›
  · exact h

end Word

/-- Every channel has a word for its target if the targets that are given are words. -/
theorem targetAt_range {targets : List Int} (h : ∀ v ∈ targets, 0 ≤ v ∧ v ≤ 65535) (channel : Int) :
    0 ≤ targetAt targets channel ∧ targetAt targets channel ≤ 65535 := by
  cases channel with
  | negSucc n =>
    change (0 : Int) ≤ 0 ∧ (0 : Int) ≤ 65535
    decide
  | ofNat n =>
    change 0 ≤ targets.getD n 0 ∧ targets.getD n 0 ≤ 65535
    rw [List.getD_eq_getElem?_getD]
    cases hget : targets[n]? with
    | none => decide
    | some target => exact h target (List.mem_of_getElem? hget)

/-- A frame whose duration and targets are words. -/
structure Frame.InRange (f : Frame) : Prop where
  duration : 0 ≤ f.duration ∧ f.duration ≤ 65535
  targets : ∀ v ∈ f.targets, 0 ≤ v ∧ v ≤ 65535

/-- A frame of words with no more targets than a device has channels. -/
structure Frame.Fits (channels : Nat) (f : Frame) : Prop extends f.InRange where
  length_le : f.targets.length ≤ channels

end ServoScript
