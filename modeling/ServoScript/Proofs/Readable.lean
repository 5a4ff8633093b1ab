import Mathlib.Data.List.Induction
import Mathlib.Tactic.SplitIfs
import ServoScript.Json.Printer
import ServoScript.Json.Reader
import ServoScript.Proofs.Rounding
import ServoScript.Proofs.Word
import ServoScript.Proofs.WrittenText

/-!
# What reading gives

Documents that are read have integers with a limited number of digits, floating-point numbers as rounding
gives them, and objects that have every key once. Read from characters alone, they have no texts with a
pair of halves that could be joined.
-/

namespace ServoScript

namespace Text

theorem natOfDigits_lt {t : Text} (h : ∀ c ∈ t, isDigit c = true) :
    natOfDigits t < Nat.pow 10 t.length := by
  induction t using List.reverseRecOn with
  | nil => decide
  | append_singleton t c ih =>
    have hc := isDigit_iff.1 (h c (by simp))
    have hdigit : c.toNat - '0'.toNat ≤ 9 := by
      have hzero : '0'.toNat = 48 := rfl
      omega
    have hlt := ih fun d hd => h d (List.mem_append_left _ hd)
    rw [natOfDigits_concat, List.length_append, List.length_singleton]
    calc 10 * natOfDigits t + (c.toNat - '0'.toNat)
        < (natOfDigits t + 1) * 10 := by omega
      _ ≤ Nat.pow 10 t.length * 10 := Nat.mul_le_mul_right _ hlt

theorem natOfDigits_lt_of_length {t : Text} {k : Nat} (h : ∀ c ∈ t, isDigit c = true)
    (ht : t.length ≤ k) : natOfDigits t < Nat.pow 10 k :=
  Nat.lt_of_lt_of_le (natOfDigits_lt h) (Nat.pow_le_pow_right (by decide) ht)

end Text

namespace Json

/-- Documents that can come from reading. -/
inductive Readable : Json → Prop where
  | null : Readable .null
  | bool (b : Bool) : Readable (.bool b)
  | int {n : Int} (short : Numeral.isShort n = true) : Readable (.int n)
  | float {x : Binary64} (rounded : x.IsRounded) : Readable (.float x)
  | text {t : Text} (joined : t.IsJoined) : Readable (.text t)
  | list {items : List Json} (h : ∀ v ∈ items, Readable v) : Readable (.list items)
  | object {members : Members} (nodup : (members.map Prod.fst).Nodup)
      (joined : ∀ m ∈ members, m.1.IsJoined) (h : ∀ m ∈ members, Readable m.2) : Readable (.object members)

/-! ### Members -/

theorem mem_keys_put {key k : Text} {value : Json} {members : Members}
    (h : k ∈ (put key value members).map Prod.fst) : k = key ∨ k ∈ members.map Prod.fst := by
  induction members with
  | nil => exact .inl (by simpa [put] using h)
  | cons m rest ih =>
    rw [put] at h
    split at h
    · exact .inr h
    · rcases List.mem_cons.1 h with rfl | hrest
      · exact .inr (by simp)
      · exact (ih hrest).imp_right (List.mem_cons_of_mem m.1)

theorem nodup_keys_put (key : Text) (value : Json) {members : Members}
    (h : (members.map Prod.fst).Nodup) : ((put key value members).map Prod.fst).Nodup := by
  induction members with
  | nil => simp [put]
  | cons m rest ih =>
    rw [put]
    split
    · exact h
    · next hne =>
      rw [List.map_cons, List.nodup_cons] at h ⊢
      refine ⟨fun hmem => ?_, ih h.2⟩
      rcases mem_keys_put hmem with heq | hrest
      · exact hne heq
      · exact h.1 hrest

theorem isJoined_put {key : Text} (hkey : key.IsJoined) (value : Json) {members : Members}
    (h : ∀ m ∈ members, m.1.IsJoined) : ∀ m ∈ put key value members, m.1.IsJoined := by
  intro m hm
  rcases mem_keys_put (List.mem_map_of_mem hm) with heq | hold
  · rwa [heq]
  · obtain ⟨m', hm', heq⟩ := List.mem_map.mp hold
    rw [← heq]
    exact h m' hm'

theorem mem_put {key : Text} {value : Json} {members : Members} {m : Text × Json}
    (h : m ∈ put key value members) : m.2 = value ∨ m ∈ members := by
  induction members with
  | nil => exact .inl (by rw [List.mem_singleton.1 h])
  | cons m' rest ih =>
    rw [put] at h
    split at h
    · rcases List.mem_cons.1 h with rfl | hrest
      · exact .inl rfl
      · exact .inr (List.mem_cons_of_mem m' hrest)
    · rcases List.mem_cons.1 h with rfl | hrest
      · exact .inr (by simp)
      · exact (ih hrest).imp_right (List.mem_cons_of_mem m')

theorem Readable.nodup_keys {members : Members} (h : Readable (.object members)) :
    (members.map Prod.fst).Nodup := by
  cases h with
  | object nodup _ _ => exact nodup

theorem Readable.of_mem {members : Members} (h : Readable (.object members)) {m : Text × Json}
    (hm : m ∈ members) : Readable m.2 := by
  cases h with
  | object _ _ hall => exact hall m hm

theorem Readable.of_member? {members : Members} (h : Readable (.object members)) {key : Text} {v : Json}
    (hv : member? key members = some v) : Readable v := by
  obtain ⟨before, behind, heq, -⟩ := List.lookup_eq_some_iff.1 hv
  exact h.of_mem (m := (key, v)) (by simp [heq])

theorem Readable.put {members : Members} (h : Readable (.object members)) {key : Text}
    (hkey : key.IsJoined) {value : Json} (hv : Readable value) :
    Readable (.object (put key value members)) := by
  cases h with
  | object nodup joined hm =>
    refine .object (nodup_keys_put key value nodup) (isJoined_put hkey value joined) fun m hmem => ?_
    rcases mem_put hmem with heq | hold
    · rw [heq]
      exact hv
    · exact hm m hold

end Json

/-! ### Texts without halves -/

/-- All code points of the text are characters. -/
def Text.NoHalf (t : Text) : Prop :=
  ∀ n, CodePoint.half n ∉ t

theorem Text.NoHalf.of_suffix {t rest : Text} (h : t.NoHalf) (hrest : rest <:+ t) : rest.NoHalf :=
  fun n hn => h n (hrest.mem hn)

theorem Text.noHalf_of_forall {t : Text} {p : CodePoint → Bool} (h : ∀ c ∈ t, p c = true)
    (hp : ∀ n, p (.half n) = false) : t.NoHalf := by
  intro n hn
  have htrue := h _ hn
  rw [hp] at htrue
  cases htrue

theorem Text.isDigit_half (n : Fin 0x800) : isDigit (.half n) = false := by
  have hlarge : ¬ CodePoint.half n ≤ '9' := by
    rw [CodePoint.le_def]
    change ¬ 0xD800 + n.val ≤ 57
    omega
  simp [isDigit, hlarge]

theorem Json.isPlain_half (n : Fin 0x800) : isPlain (.half n) = false := by
  have hlarge : ¬ (CodePoint.half n).toNat < 0x80 := by
    change ¬ 0xD800 + n.val < 0x80
    omega
  simp [isPlain, hlarge]

theorem CodePoint.isHigh_char (c : Char) : isHigh (char c).toNat = false := by
  have hvalid : c.toNat < 0xD800 ∨ 0xDFFF < c.toNat ∧ c.toNat < 0x110000 := c.valid
  change (decide (0xD800 ≤ c.toNat) && decide (c.toNat < 0xDC00)) = false
  simp only [Bool.and_eq_false_iff, decide_eq_false_iff_not]
  omega

theorem CodePoint.isLow_char (c : Char) : isLow (char c).toNat = false := by
  have hvalid : c.toNat < 0xD800 ∨ 0xDFFF < c.toNat ∧ c.toNat < 0x110000 := c.valid
  change (decide (0xDC00 ≤ c.toNat) && decide (c.toNat < 0xE000)) = false
  simp only [Bool.and_eq_false_iff, decide_eq_false_iff_not]
  omega

theorem Text.joinHalves_apart {c d : CodePoint}
    (h : (CodePoint.isHigh c.toNat && CodePoint.isLow d.toNat) = false) (t : Text) :
    joinHalves (c :: d :: t) = c :: joinHalves (d :: t) := by
  conv_lhs => rw [joinHalves, h]
  rfl

theorem Text.joinHalves_cons {c : CodePoint} (h : CodePoint.isHigh c.toNat = false) (t : Text) :
    joinHalves (c :: t) = c :: joinHalves t := by
  cases t with
  | nil => rfl
  | cons d t =>
    exact joinHalves_apart (by rw [h, Bool.false_and]) t

theorem Text.NoHalf.isJoined {t : Text} (h : t.NoHalf) : t.IsJoined := by
  induction t with
  | nil => exact List.IsChain.nil
  | cons c t ih =>
    refine List.isChain_cons.mpr ⟨fun d _ => ?_, ih (h.of_suffix (List.suffix_cons c t))⟩
    cases c with
    | char c => rw [CodePoint.isHigh_char, Bool.false_and]
    | half n => exact absurd List.mem_cons_self (h n)

namespace Json

/-- A part of a written text that is a character, or a number of 16 bits. -/
def TextUnit.Sound : TextUnit → Prop
  | .plain c => ∀ n, c ≠ .half n
  | .number n => n < 0x10000

/-- The code point of a part that stands alone. -/
def TextUnit.point : TextUnit → CodePoint
  | .plain c => c
  | .number n => CodePoint.ofNat n

theorem textOfUnits_eq_joinHalves {units : List TextUnit} (h : ∀ u ∈ units, u.Sound) :
    textOfUnits units = Text.joinHalves (units.map TextUnit.point) := by
  have hnumber {n : Nat} (hn : n < 0x10000) : (CodePoint.ofNat n).toNat = n :=
    CodePoint.toNat_ofNat (Nat.lt_of_lt_of_le hn (by decide))
  fun_induction textOfUnits units with
  | case1 => rfl
  | case2 c rest ih =>
    have hrest := ih fun u hu => h u (List.mem_cons_of_mem _ hu)
    cases c with
    | char c => rw [hrest, List.map_cons, TextUnit.point, Text.joinHalves_cons (CodePoint.isHigh_char c)]
    | half n => exact absurd rfl (h (.plain (.half n)) List.mem_cons_self n)
  | case3 n m rest hpair ih =>
    have hn : (CodePoint.ofNat n).toNat = n := hnumber (h (.number n) (by simp))
    have hm : (CodePoint.ofNat m).toNat = m := hnumber (h (.number m) (by simp))
    rw [ih fun u hu => h u (by simp [hu]), List.map_cons, List.map_cons, TextUnit.point, TextUnit.point,
      Text.joinHalves, hn, hm, if_pos hpair]
  | case4 n m rest hapart ih =>
    have hn : (CodePoint.ofNat n).toNat = n := hnumber (h (.number n) (by simp))
    have hm : (CodePoint.ofNat m).toNat = m := hnumber (h (.number m) (by simp))
    rw [ih fun u hu => h u (List.mem_cons_of_mem _ hu)]
    refine (Text.joinHalves_apart ?_ _).symm
    change (CodePoint.isHigh (CodePoint.ofNat n).toNat && CodePoint.isLow (CodePoint.ofNat m).toNat) = false
    rw [hn, hm]
    exact Bool.eq_false_iff.mpr hapart
  | case5 n rest hrest ih =>
    rw [ih fun u hu => h u (List.mem_cons_of_mem _ hu)]
    cases rest with
    | nil => rfl
    | cons u rest =>
      cases u with
      | number m => exact absurd rfl (hrest m rest)
      | plain c =>
        cases c with
        | half k => exact absurd rfl (h (.plain (.half k)) (by simp) k)
        | char c =>
          refine (Text.joinHalves_apart ?_ _).symm
          exact Bool.and_eq_false_iff.mpr (Or.inr (CodePoint.isLow_char c))

/-! ### Reading -/

theorem hexValue?_lt {c : CodePoint} {n : Nat} (h : Text.hexValue? c = some n) : n < 16 := by
  simp only [Text.hexValue?, Text.isDigit, Bool.and_eq_true, decide_eq_true_eq, CodePoint.le_def] at h
  have hbounds : CodePoint.toNat '0' = 48 ∧ CodePoint.toNat '9' = 57 ∧ CodePoint.toNat 'a' = 97 ∧
      CodePoint.toNat 'f' = 102 ∧ CodePoint.toNat 'A' = 65 ∧ CodePoint.toNat 'F' = 70 ∧
      '0'.toNat = 48 ∧ 'a'.toNat = 97 ∧ 'A'.toNat = 65 := by decide
  split_ifs at h with hdigit hsmall hcapital
  all_goals
    cases h
    omega

theorem hexValue4?_lt {a b c d : CodePoint} {n : Nat} (h : hexValue4? a b c d = some n) : n < 0x10000 := by
  rw [hexValue4?] at h
  split at h
  · next ha hb hc hd =>
    have := hexValue?_lt ha
    have := hexValue?_lt hb
    have := hexValue?_lt hc
    have := hexValue?_lt hd
    cases h
    omega
  · exact absurd h (by simp)

theorem shortEscape?_ne_half {e c : CodePoint} (h : shortEscape? e = some c) (n : Fin 0x800) :
    c ≠ .half n := by
  unfold shortEscape? at h
  split_ifs at h with hself
  · cases h
    simp only [Bool.or_eq_true, beq_iff_eq] at hself
    rcases hself with (rfl | rfl) | rfl <;> exact CodePoint.noConfusion
  all_goals
    cases h
    exact CodePoint.noConfusion

theorem readUnits_sound {opening : Text} {done : List TextUnit} {t rest : Text} {units : List TextUnit}
    (h : readUnits opening done t = .ok (units, rest)) (ht : t.NoHalf) (hdone : ∀ u ∈ done, u.Sound) :
    (∀ u ∈ units, u.Sound) ∧ rest.NoHalf := by
  fun_induction readUnits opening done t with
  | case2 done c more hquote =>
    cases h
    exact ⟨fun u hu => hdone u (List.mem_reverse.mp hu), ht.of_suffix (List.suffix_cons c _)⟩
  | case5 done c hquote hslash e hescape h₁ h₂ h₃ h₄ more n hn hmore ih =>
    refine ih h (ht.of_suffix ?_) (List.forall_mem_cons.mpr ⟨hexValue4?_lt hn, hdone⟩)
    exact ⟨[c, e, h₁, h₂, h₃, h₄], rfl⟩
  | case8 done c hquote hslash e after hescape d hd ih =>
    refine ih h (ht.of_suffix ⟨[c, e], rfl⟩) (List.forall_mem_cons.mpr ⟨shortEscape?_ne_half hd, hdone⟩)
  | case11 done c more hquote hslash hlow ih =>
    refine ih h (ht.of_suffix (List.suffix_cons c _)) (List.forall_mem_cons.mpr ⟨?_, hdone⟩)
    rintro n rfl
    exact ht n List.mem_cons_self
  | _ => exact absurd h (by simp)

theorem readText_joined {opening t rest read : Text} (h : readText opening t = .ok (read, rest))
    (ht : t.NoHalf) : read.IsJoined ∧ rest.NoHalf := by
  obtain ⟨⟨units, left⟩, hunits, heq⟩ := map_eq_ok h
  cases heq
  obtain ⟨hsound, hrest⟩ := readUnits_sound hunits ht (by simp)
  refine ⟨?_, hrest⟩
  rw [textOfUnits_eq_joinHalves hsound]
  exact Text.isJoined_joinHalves _

theorem spanWhole_suffix {t whole rest : Text} (h : spanWhole t = some (whole, rest)) : rest <:+ t := by
  unfold spanWhole at h
  split at h
  · exact absurd h (by simp)
  · next c more =>
    split_ifs at h
    · cases h
      exact List.suffix_cons _ _
    · cases h
      exact List.dropWhile_suffix _

theorem spanFraction_suffix (t : Text) : (spanFraction t).2 <:+ t := by
  unfold spanFraction
  split
  · split
    · exact List.suffix_rfl
    · exact (List.dropWhile_suffix _).trans (List.suffix_cons _ _)
  · exact List.suffix_rfl

theorem spanExponent_suffix (t : Text) : (spanExponent t).2 <:+ t := by
  unfold spanExponent
  split
  · exact List.suffix_rfl
  · next mark rest =>
    split
    · dsimp only
      split
      · exact List.suffix_rfl
      · next digits after _ hspan =>
        obtain ⟨-, rfl⟩ := Prod.mk.inj hspan
        refine (List.dropWhile_suffix _).trans (List.IsSuffix.trans ?_ (List.suffix_cons mark rest))
        split
        · exact List.drop_suffix 1 rest
        · exact List.suffix_rfl
    · exact List.suffix_rfl

theorem isDigit_of_spanWhole {t whole rest : Text} (h : spanWhole t = some (whole, rest)) :
    ∀ c ∈ whole, Text.isDigit c = true := by
  intro c hc
  unfold spanWhole at h
  split at h
  · exact absurd h (by simp)
  · next d u =>
    split at h
    · next hzero =>
      simp only [Option.some.injEq, Prod.mk.injEq] at h
      rw [← h.1, List.mem_singleton, eq_of_beq hzero] at hc
      rw [hc]
      rfl
    · split at h
      · simp only [spanDigits, Option.some.injEq, Prod.mk.injEq] at h
        rw [← h.1] at hc
        exact (List.all_eq_true.1 List.all_takeWhile) c hc
      · exact absurd h (by simp)

theorem natAbs_signed (negative : Bool) (n : Nat) : (Binary64.signed negative n).natAbs = n := by
  cases negative <;> simp [Binary64.signed]

theorem readMagnitude_readable {start t rest : Text} {negative : Bool} {v : Json}
    (h : readMagnitude start negative t = .ok (v, rest)) : Readable v ∧ rest <:+ t := by
  unfold readMagnitude at h
  split at h
  · exact absurd h (by simp)
  · next whole afterWhole hwhole =>
    have hsuffix : (spanExponent (spanFraction afterWhole).2).2 <:+ t :=
      (spanExponent_suffix _).trans ((spanFraction_suffix _).trans (spanWhole_suffix hwhole))
    dsimp only at h
    split_ifs at h with hint hlong
    · simp only [Except.ok.injEq, Prod.mk.injEq] at h
      rw [← h.1, ← h.2]
      refine ⟨.int (decide_eq_true ?_), hsuffix⟩
      rw [natAbs_signed]
      exact Text.natOfDigits_lt_of_length (isDigit_of_spanWhole hwhole) (Nat.le_of_not_lt hlong)
    · simp only [Except.ok.injEq, Prod.mk.injEq] at h
      rw [← h.1, ← h.2]
      exact ⟨.float (Binary64.isRounded_ofDecimal negative _ _), hsuffix⟩

theorem readable_of_mem_words {m : Text × Json} (h : m ∈ words) : Readable m.2 := by
  simp only [words, List.mem_cons, List.not_mem_nil, or_false] at h
  obtain rfl | rfl | rfl | rfl | rfl | rfl := h
  · exact .null
  · exact .bool true
  · exact .bool false
  · exact .float trivial
  · exact .float trivial
  · exact .float trivial

theorem readScalar_readable {t rest : Text} {v : Json} (h : readScalar t = .ok (v, rest)) :
    Readable v ∧ rest <:+ t := by
  unfold readScalar at h
  split at h
  · next word value hfound =>
    simp only [Except.ok.injEq, Prod.mk.injEq] at h
    rw [← h.1, ← h.2]
    exact ⟨readable_of_mem_words (List.mem_of_find?_eq_some hfound), List.drop_suffix _ t⟩
  · split at h
    · exact (readMagnitude_readable h).imp_right fun hrest => hrest.trans (List.suffix_cons _ _)
    · exact readMagnitude_readable h

/-- What is left behind the space, without its first character. -/
theorem noHalf_behind {t rest : Text} {c : CodePoint} (h : t.NoHalf) (hskip : skipSpace t = c :: rest) :
    rest.NoHalf :=
  h.of_suffix ((List.suffix_cons c rest).trans (hskip ▸ List.dropWhile_suffix _))

theorem noHalf_skipSpace {t : Text} (h : t.NoHalf) : (skipSpace t).NoHalf :=
  h.of_suffix (List.dropWhile_suffix _)

/-- With so much fuel, the readers of values, items and members give readable documents, behind items
and members that are readable, and leave characters only. -/
structure ReadsSoundly (fuel : Nat) : Prop where
  value : ∀ {t v rest}, t.NoHalf → readValue fuel t = .ok (v, rest) → Readable v ∧ rest.NoHalf
  items : ∀ {done t v rest}, t.NoHalf → (∀ item ∈ done, Readable item) →
    readItems fuel done t = .ok (v, rest) → Readable v ∧ rest.NoHalf
  members : ∀ {done t v rest}, t.NoHalf → Readable (.object done) →
    readMembers fuel done t = .ok (v, rest) → Readable v ∧ rest.NoHalf

namespace ReadsSoundly

variable {fuel : Nat} {t rest : Text} {v : Json}

theorem succ_value (h : ReadsSoundly fuel) (ht : t.NoHalf)
    (hread : readValue (fuel + 1) t = .ok (v, rest)) : Readable v ∧ rest.NoHalf := by
  unfold readValue at hread
  split at hread
  · next more =>
    obtain ⟨⟨read, left⟩, htext, heq⟩ := map_eq_ok hread
    cases heq
    obtain ⟨hjoined, hrest⟩ := readText_joined htext (ht.of_suffix (List.suffix_cons _ more))
    exact ⟨.text hjoined, hrest⟩
  · next more =>
    have hmore : Text.NoHalf more := ht.of_suffix (List.suffix_cons _ more)
    split at hread
    · next hskip =>
      cases hread
      exact ⟨.list (by simp), noHalf_behind hmore hskip⟩
    · exact h.items (noHalf_skipSpace hmore) (by simp) hread
  · next more =>
    have hmore : Text.NoHalf more := ht.of_suffix (List.suffix_cons _ more)
    split at hread
    · next hskip =>
      cases hread
      exact ⟨.object (by simp) (by simp) (by simp), noHalf_behind hmore hskip⟩
    · exact h.members (noHalf_skipSpace hmore) (.object (by simp) (by simp) (by simp)) hread
  · exact (readScalar_readable hread).imp_right ht.of_suffix

theorem succ_items {done : List Json} (h : ReadsSoundly fuel) (ht : t.NoHalf)
    (hdone : ∀ item ∈ done, Readable item) (hread : readItems (fuel + 1) done t = .ok (v, rest)) :
    Readable v ∧ rest.NoHalf := by
  unfold readItems at hread
  split at hread
  · exact absurd hread (by simp)
  · next item after hitem =>
    obtain ⟨hreadable, hafter⟩ := h.value ht hitem
    have hall : ∀ read ∈ item :: done, Readable read := List.forall_mem_cons.2 ⟨hreadable, hdone⟩
    split at hread
    · next hskip =>
      cases hread
      exact ⟨.list fun read hm => hall read (List.mem_reverse.1 hm), noHalf_behind hafter hskip⟩
    · next hskip => exact h.items (noHalf_skipSpace (noHalf_behind hafter hskip)) hall hread
    · exact absurd hread (by simp)

theorem succ_members {done : Members} (h : ReadsSoundly fuel) (ht : t.NoHalf)
    (hdone : Readable (.object done)) (hread : readMembers (fuel + 1) done t = .ok (v, rest)) :
    Readable v ∧ rest.NoHalf := by
  unfold readMembers at hread
  split at hread
  · next more =>
    split at hread
    · exact absurd hread (by simp)
    · next key afterKey hkey =>
      obtain ⟨hjoined, hafterKey⟩ := readText_joined hkey (ht.of_suffix (List.suffix_cons _ more))
      split at hread
      · next hcolon =>
        split at hread
        · exact absurd hread (by simp)
        · next value after hvalue =>
          obtain ⟨hreadable, hafter⟩ :=
            h.value (noHalf_skipSpace (noHalf_behind hafterKey hcolon)) hvalue
          have hput := hdone.put hjoined hreadable
          split at hread
          · next hskip =>
            cases hread
            exact ⟨hput, noHalf_behind hafter hskip⟩
          · next hskip => exact h.members (noHalf_skipSpace (noHalf_behind hafter hskip)) hput hread
          · exact absurd hread (by simp)
      · exact absurd hread (by simp)
  · exact absurd hread (by simp)

end ReadsSoundly

-- All three readers go down by one unit of fuel for each call, whichever of them calls which.
theorem readsSoundly (fuel : Nat) : ReadsSoundly fuel := by
  induction fuel with
  | zero =>
    constructor
    · intro t v rest _ hread
      rw [readValue] at hread
      exact absurd hread (by simp)
    · intro done t v rest _ _ hread
      rw [readItems] at hread
      exact absurd hread (by simp)
    · intro done t v rest _ _ hread
      rw [readMembers] at hread
      exact absurd hread (by simp)
  | succ fuel ih => exact ⟨ih.succ_value, ih.succ_items, ih.succ_members⟩

theorem readable_of_read {t : Text} (ht : t.NoHalf) {v : Json} (h : read t = .ok v) : Readable v := by
  unfold read at h
  split at h
  · exact absurd h (by simp)
  · split at h
    · exact absurd h (by simp)
    · next value rest hvalue =>
      split at h
      · cases h
        exact ((readsSoundly _).value (noHalf_skipSpace ht) hvalue).1
      · exact absurd h (by simp)

/-! ### What can be written -/

theorem areWritable_eq_all (items : List Json) : areWritable items = items.all isWritable := by
  induction items with
  | nil => rfl
  | cons item rest ih => rw [areWritable, ih, List.all_cons]

theorem areWritableMembers_eq_all (members : Members) :
    areWritableMembers members = members.all fun m => m.2.isWritable := by
  induction members with
  | nil => rfl
  | cons m rest ih => rw [areWritableMembers, ih, List.all_cons]

theorem isWritable_object (members : Members) :
    (Json.object members).isWritable = members.all fun m => m.2.isWritable := by
  rw [isWritable, areWritableMembers_eq_all]

theorem Readable.isWritable {v : Json} (h : Readable v) : v.isWritable = true := by
  induction h with
  | int short => exact short
  | list _ ih =>
    rw [Json.isWritable, areWritable_eq_all]
    exact List.all_eq_true.2 ih
  | object _ _ _ ih =>
    rw [isWritable_object]
    exact List.all_eq_true.2 ih
  | _ => rfl

/-- If all that was there can be written, it depends on the new member alone. -/
theorem isWritable_put (key : Text) (value : Json) {members : Members}
    (h : (Json.object members).isWritable = true) :
    (Json.object (Json.put key value members)).isWritable = value.isWritable := by
  rw [isWritable_object] at h ⊢
  induction members with
  | nil => simp [Json.put]
  | cons m rest ih =>
    rw [List.all_cons, Bool.and_eq_true] at h
    rw [Json.put]
    split
    · rw [List.all_cons, h.2, Bool.and_true]
    · rw [List.all_cons, h.1, Bool.true_and, ih h.2]

end Json

end ServoScript
