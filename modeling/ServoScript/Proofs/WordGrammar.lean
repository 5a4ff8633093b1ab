import Mathlib.Data.List.DropRight
import Mathlib.Data.Nat.Digits.Defs
import ServoScript.Proofs.Word

/-!
# The spellings of words

A word is spelled with ASCII digits, a plus sign or none in front of them, and blanks around. A spelling is
read as its decimal value, unless it has too many digits or its value is too great, and texts that are no
spelling are refused. A lenient reading falls back on the refused texts and on no others.
-/

namespace ServoScript

namespace Text

theorem exists_margins (t : Text) : ∃ left right, t = left ++ trim t ++ right ∧
    (∀ c ∈ left, isBlank c = true) ∧ ∀ c ∈ right, isBlank c = true := by
  have hright : trim t ++ (t.dropWhile isBlank).rtakeWhile isBlank = t.dropWhile isBlank :=
    List.rdropWhile_append_rtakeWhile
  refine ⟨t.takeWhile isBlank, (t.dropWhile isBlank).rtakeWhile isBlank, ?_, ?_, ?_⟩
  · rw [List.append_assoc, hright, List.takeWhile_append_dropWhile]
  · exact fun c hc => List.mem_takeWhile_imp hc
  · exact fun c hc => List.mem_rtakeWhile_imp hc

theorem natOfDigits_eq_ofDigits (digits : Text) :
    natOfDigits digits = Nat.ofDigits 10 (digits.reverse.map fun c => c.toNat - '0'.toNat) := by
  induction digits using List.reverseRecOn with
  | nil => rfl
  | append_singleton digits c ih =>
    rw [natOfDigits_concat, ih, List.reverse_append, List.reverse_singleton, List.singleton_append,
      List.map_cons, Nat.ofDigits_cons, Nat.add_comm]

end Text

namespace Word

/-- The parts of a text that spells an unsigned number. -/
structure Spelling where
  left : Text
  plus : Bool
  digits : Text
  right : Text
  left_blank : ∀ c ∈ left, Text.isBlank c = true
  digits_ne_nil : digits ≠ []
  digits_ascii : ∀ c ∈ digits, Text.isDigit c = true
  right_blank : ∀ c ∈ right, Text.isBlank c = true

namespace Spelling

variable (s : Spelling)

def token : Text :=
  (if s.plus then ("+" : Text) else []) ++ s.digits

def text : Text :=
  s.left ++ s.token ++ s.right

/-- The number that is spelled, by the places of its digits. -/
def value : Nat :=
  Nat.ofDigits 10 (s.digits.reverse.map fun c => c.toNat - '0'.toNat)

theorem natOfDigits_digits : Text.natOfDigits s.digits = s.value :=
  Text.natOfDigits_eq_ofDigits s.digits

theorem token_ne_nil : s.token ≠ [] :=
  List.append_ne_nil_of_right_ne_nil _ s.digits_ne_nil

theorem not_blank_of_mem_token {c : CodePoint} (h : c ∈ s.token) : Text.isBlank c = false := by
  rcases List.mem_append.mp h with hsign | hdigit
  · have hplus : c = '+' := by
      split at hsign
      · exact List.mem_singleton.mp hsign
      · exact absurd hsign List.not_mem_nil
    rw [hplus]
    decide
  · exact Text.isBlank_of_isDigit (s.digits_ascii c hdigit)

theorem trim_text : Text.trim s.text = s.token :=
  Text.trim_between s.left_blank s.right_blank s.token_ne_nil fun _ => s.not_blank_of_mem_token

theorem digitsOf_token : digitsOf s.token = s.digits := by
  rw [token]
  cases s.plus with
  | true => rfl
  | false => exact digitsOf_of_digits s.digits_ascii

end Spelling

/-- What a spelling is read as. -/
theorem parse_text (s : Spelling) :
    parse s.text = if 4300 < s.digits.length then .error (.tooManyDigits s.digits.length)
      else if 65535 < s.value then .error (.aboveWord s.value) else .ok s.value := by
  have htoken : digitsOf (Text.trim s.text) = s.digits := by rw [s.trim_text, s.digitsOf_token]
  rw [parse_of_digitsOf htoken s.digits_ne_nil s.digits_ascii, s.natOfDigits_digits]

theorem eq_sign_append_digitsOf (token : Text) :
    ∃ plus : Bool, token = (if plus then ("+" : Text) else []) ++ digitsOf token := by
  unfold digitsOf
  split
  · exact ⟨true, rfl⟩
  · exact ⟨false, rfl⟩

theorem exists_spelling {t : Text} (hne : digitsOf (Text.trim t) ≠ [])
    (hdigits : ∀ c ∈ digitsOf (Text.trim t), Text.isDigit c = true) : ∃ s : Spelling, s.text = t := by
  obtain ⟨left, right, ht, hleft, hright⟩ := Text.exists_margins t
  obtain ⟨plus, htoken⟩ := eq_sign_append_digitsOf (Text.trim t)
  refine ⟨⟨left, plus, digitsOf (Text.trim t), right, hleft, hne, hdigits, hright⟩, ?_⟩
  rw [Spelling.text, Spelling.token, ← htoken]
  exact ht.symm

theorem parse_of_not_spelled {t : Text} (h : ∀ s : Spelling, s.text ≠ t) :
    parse t = .error (.notUnsigned (Text.trim t)) := by
  have hforeign : ((digitsOf (Text.trim t)).isEmpty || !(digitsOf (Text.trim t)).all Text.isDigit) = true := by
    by_contra hspelled
    rw [Bool.or_eq_true, not_or, List.isEmpty_iff, Bool.not_eq_true', Bool.not_eq_false,
      List.all_eq_true] at hspelled
    obtain ⟨s, hs⟩ := exists_spelling hspelled.1 hspelled.2
    exact h s hs
  simp only [parse, if_pos hforeign]

/-- The texts that are refused, with what is wrong with them. -/
inductive Refused : Text → Fault → Prop
  | foreign {t : Text} (h : ∀ s : Spelling, s.text ≠ t) : Refused t (.notUnsigned (Text.trim t))
  | long (s : Spelling) (h : 4300 < s.digits.length) : Refused s.text (.tooManyDigits s.digits.length)
  | above (s : Spelling) (short : s.digits.length ≤ 4300) (h : 65535 < s.value) :
    Refused s.text (.aboveWord s.value)

/-- A text is either the spelling of a word or refused. -/
theorem parse_cases (t : Text) :
    (∃ s : Spelling, s.text = t ∧ s.digits.length ≤ 4300 ∧ s.value ≤ 65535 ∧ parse t = .ok s.value) ∨
      ∃ fault, Refused t fault ∧ parse t = .error fault := by
  by_cases hs : ∃ s : Spelling, s.text = t
  · obtain ⟨s, rfl⟩ := hs
    have hparse := parse_text s
    split_ifs at hparse with hlong habove
    · exact Or.inr ⟨_, .long s hlong, hparse⟩
    · exact Or.inr ⟨_, .above s (Nat.not_lt.mp hlong) habove, hparse⟩
    · exact Or.inl ⟨s, rfl, Nat.not_lt.mp hlong, Nat.not_lt.mp habove, hparse⟩
  · have hforeign := not_exists.mp hs
    exact Or.inr ⟨_, .foreign hforeign, parse_of_not_spelled hforeign⟩

theorem parse_eq_ok_iff {t : Text} {n : Nat} :
    parse t = .ok n ↔ ∃ s : Spelling, s.text = t ∧ s.digits.length ≤ 4300 ∧ s.value = n ∧ n ≤ 65535 := by
  constructor
  · intro hn
    rcases parse_cases t with ⟨s, hs, hlength, hle, hparse⟩ | ⟨fault, _, hparse⟩
    · cases hparse.symm.trans hn
      exact ⟨s, hs, hlength, rfl, hle⟩
    · cases hparse.symm.trans hn
  · rintro ⟨s, rfl, hlength, rfl, hle⟩
    rw [parse_text, if_neg (Nat.not_lt.mpr hlength), if_neg (Nat.not_lt.mpr hle)]

theorem parse_eq_error_iff {t : Text} {fault : Fault} : parse t = .error fault ↔ Refused t fault := by
  constructor
  · intro hfault
    rcases parse_cases t with ⟨s, _, _, _, hparse⟩ | ⟨found, hrefused, hparse⟩
    · cases hparse.symm.trans hfault
    · cases hparse.symm.trans hfault
      exact hrefused
  · intro h
    cases h with
    | foreign h => exact parse_of_not_spelled h
    | long s h => rw [parse_text, if_pos h]
    | above s short h => rw [parse_text, if_neg (Nat.not_lt.mpr short), if_pos h]

/-- The numeral of a word may have zeros in front, a plus sign before them and blanks around. -/
theorem parse_numeral {n zeros : Nat} {left right : Text} (plus : Bool) (hn : n ≤ 65535)
    (hlength : zeros + (Text.ofNat n).length ≤ 4300) (hleft : ∀ c ∈ left, Text.isBlank c = true)
    (hright : ∀ c ∈ right, Text.isBlank c = true) :
    parse (left ++ ((if plus then ("+" : Text) else []) ++
        (List.replicate zeros (CodePoint.char '0') ++ Text.ofNat n)) ++ right) = .ok n := by
  have hdigits : ∀ c ∈ List.replicate zeros (CodePoint.char '0') ++ Text.ofNat n, Text.isDigit c = true := by
    intro c hc
    rcases List.mem_append.mp hc with hzero | hdigit
    · rw [List.eq_of_mem_replicate hzero]
      decide
    · exact Text.isDigit_of_mem_ofNat hdigit
  let s : Spelling := ⟨left, plus, List.replicate zeros (CodePoint.char '0') ++ Text.ofNat n, right, hleft,
    List.append_ne_nil_of_right_ne_nil _ (Text.ofNat_ne_nil n), hdigits, hright⟩
  have hvalue : s.value = n := by
    rw [← s.natOfDigits_digits, Text.natOfDigits_zeros_append, Text.natOfDigits_ofNat]
  refine parse_eq_ok_iff.mpr ⟨s, rfl, ?_, hvalue, hn⟩
  rwa [List.length_append, List.length_replicate]

/-! ### Lenient readings -/

theorem coerce_text_eq_ok {t : Text} {n : Nat} (h : parse t = .ok n) (d : Int) :
    coerce (.text t) (.int d) = .ok (n : Int) := by
  simp only [coerce, Json.toText, h]

theorem coerce_text_eq_fallback {t : Text} {fault : Fault} (h : parse t = .error fault) (d : Int) :
    coerce (.text t) (.int d) = .ok d := by
  simp only [coerce, Json.toText, h, Json.toInt]

theorem coerce_text_returns (t : Text) (d : Int) : ∃ v, coerce (.text t) (.int d) = .ok v := by
  cases h : parse t with
  | ok n => exact ⟨n, coerce_text_eq_ok h d⟩
  | error fault => exact ⟨d, coerce_text_eq_fallback h d⟩

theorem coerce_text_eq_parseD (t : Text) (d : Nat) :
    coerce (.text t) (.int d) = .ok (parseD t d : Int) := by
  cases h : parse t with
  | ok n => rw [coerce_text_eq_ok h, parseD, h]
  | error fault => rw [coerce_text_eq_fallback h, parseD, h]

theorem coerce_text_eq_self_iff (t : Text) (d : Int) : coerce (.text t) (.int d) = .ok d ↔
    (∃ fault, Refused t fault) ∨ ∃ n : Nat, parse t = .ok n ∧ (n : Int) = d := by
  cases h : parse t with
  | ok n =>
    have hrefused : ¬ ∃ fault, Refused t fault := by
      rintro ⟨fault, hfault⟩
      rw [parse_eq_error_iff.mpr hfault] at h
      cases h
    simp [coerce_text_eq_ok h, hrefused]
  | error fault =>
    have hrefused : ∃ fault, Refused t fault := ⟨fault, parse_eq_error_iff.mp h⟩
    simp [coerce_text_eq_fallback h, hrefused]

/-! ### The boundary between words and other texts -/

/-- A text is read as `n` if and only if it is a spelling of the word `n` with at most 4300 digits, and every
other text is refused for a reason that it has. Lenient readings always succeed: they give the word that is
spelled, and the fallback for refused texts. The numeral of a word is read as this word, whatever zeros, sign and
blanks it is given. -/
theorem parse_exact (t : Text) (d : Int) :
    (∀ n, parse t = .ok n ↔
      ∃ s : Spelling, s.text = t ∧ s.digits.length ≤ 4300 ∧ s.value = n ∧ n ≤ 65535) ∧
    (∀ fault, parse t = .error fault ↔ Refused t fault) ∧
    (∃ v, coerce (.text t) (.int d) = .ok v ∧ (∀ n, parse t = .ok n → v = n) ∧
      (v = d ↔ (∃ fault, Refused t fault) ∨ ∃ n : Nat, parse t = .ok n ∧ (n : Int) = d)) ∧
    (∀ fallback : Nat, coerce (.text t) (.int fallback) = .ok (parseD t fallback : Int)) ∧
    ∀ (n zeros : Nat) (left right : Text) (plus : Bool), n ≤ 65535 →
      zeros + (Text.ofNat n).length ≤ 4300 → (∀ c ∈ left, Text.isBlank c = true) →
      (∀ c ∈ right, Text.isBlank c = true) →
      parse (left ++ ((if plus then ("+" : Text) else []) ++
        (List.replicate zeros (CodePoint.char '0') ++ Text.ofNat n)) ++ right) = .ok n := by
  refine ⟨fun _ => parse_eq_ok_iff, fun _ => parse_eq_error_iff, ?_, coerce_text_eq_parseD t, ?_⟩
  · obtain ⟨v, hv⟩ := coerce_text_returns t d
    refine ⟨v, hv, ?_, ?_⟩
    · intro n hn
      exact Except.ok.inj (hv.symm.trans (coerce_text_eq_ok hn d))
    · rw [← coerce_text_eq_self_iff, hv, Except.ok.injEq]
  · intro n zeros left right plus hn hlength hleft hright
    exact parse_numeral plus hn hlength hleft hright

/-- The greatest word with blanks of three kinds, a plus sign and zeros, and a numeral of another notation. -/
theorem parse_exact_margins :
    parse ("\u00a0\t" ++ ("+" ++ ("00" ++ Text.ofNat 65535)) ++ "\u2028") = .ok 65535 ∧
      Refused "1_000" (.notUnsigned "1_000") ∧ coerce (.text "1_000") (.int 500) = .ok 500 := by
  have hrefused : Refused "1_000" (.notUnsigned "1_000") := ((parse_exact "1_000" 500).2.1 _).mp rfl
  refine ⟨?_, hrefused, ?_⟩
  · exact (parse_exact [] 0).2.2.2.2 65535 2 "\u00a0\t" "\u2028" true (Nat.le_refl _) (by decide)
      (List.all_eq_true.mp rfl) (List.all_eq_true.mp rfl)
  · obtain ⟨v, hv, _, hself⟩ := (parse_exact "1_000" 500).2.2.1
    rw [hv, hself.mpr (Or.inl ⟨_, hrefused⟩)]

end Word

end ServoScript
