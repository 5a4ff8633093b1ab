import Mathlib.Tactic.Ring
import Mathlib.Tactic.SplitIfs
import ServoScript.Number.Binary64

/-!
# Rounding to floating-point numbers

A ratio is rounded to the floating-point number that it is near to: one that differs from the number by
less than a part in `2 ^ 54` of it lies within half the distance to the next number on both sides, also
where this distance changes. Only the ratio counts, so that a decimal may have zeros at its end.
-/

namespace ServoScript.Binary64

/-- A significand and a scale as rounding gives them: at most 53 bits, and all of them are used unless the
scale is the least one. -/
structure Rounded (significand scale : Nat) : Prop where
  lt : significand < Nat.pow 2 53
  scale_le : scale ≤ 2045
  full : scale ≠ 0 → Nat.pow 2 52 ≤ significand

/-- A number in the form that rounding gives. -/
def IsRounded : Binary64 → Prop
  | .finite _ significand scale => Rounded significand scale
  | _ => True

theorem unit_pos : 0 < unit := by
  decide +kernel

/-! ### Rounding to natural numbers -/

theorem roundDiv_bounds (num den : Nat) :
    num / den ≤ roundDiv num den ∧ roundDiv num den ≤ num / den + 1 := by
  simp only [roundDiv]
  split_ifs <;> omega

/-- The rounded number differs from the ratio by at most one half. -/
theorem roundDiv_error (num : Nat) {den : Nat} (h : 0 < den) :
    2 * num ≤ (2 * roundDiv num den + 1) * den ∧ 2 * roundDiv num den * den ≤ 2 * num + den := by
  have hsplit : den * (num / den) + num % den = num := Nat.div_add_mod num den
  have hrest : num % den < den := Nat.mod_lt num h
  have hlow (n : Nat) : 2 * n * den = 2 * (den * n) := by ring
  have hhigh (n : Nat) : (2 * n + 1) * den = 2 * (den * n) + den := by ring
  have hnext : den * (num / den + 1) = den * (num / den) + den := by ring
  rw [hlow, hhigh]
  simp only [roundDiv]
  split_ifs with hbelow habove
  · omega
  · rw [hnext]
    omega
  · rcases Nat.mod_two_eq_zero_or_one (num / den) with heven | hodd
    · rw [heven, Nat.add_zero]
      omega
    · rw [hodd, hnext]
      omega

theorem roundDiv_eq {num den n : Nat} (hlow : 2 * n * den < 2 * num + den)
    (hhigh : 2 * num < (2 * n + 1) * den) : roundDiv num den = n := by
  have hden : 0 < den := Nat.pos_of_ne_zero fun h0 => by simp [h0] at hhigh
  obtain ⟨herror, herror'⟩ := roundDiv_error num hden
  have hle : n < roundDiv num den + 1 := by
    apply Nat.lt_of_mul_lt_mul_right (a := 2 * den)
    calc n * (2 * den) = 2 * n * den := by ring
      _ < 2 * num + den := hlow
      _ ≤ (2 * roundDiv num den + 1) * den + den := Nat.add_le_add_right herror den
      _ = (roundDiv num den + 1) * (2 * den) := by ring
  have hge : roundDiv num den < n + 1 := by
    apply Nat.lt_of_mul_lt_mul_right (a := 2 * den)
    calc roundDiv num den * (2 * den) = 2 * roundDiv num den * den := by ring
      _ ≤ 2 * num + den := herror'
      _ < (2 * n + 1) * den + den := Nat.add_lt_add_right hhigh den
      _ = (n + 1) * (2 * den) := by ring
  omega

theorem roundDiv_mul_left {c : Nat} (hc : 0 < c) (num den : Nat) :
    roundDiv (c * num) (c * den) = roundDiv num den := by
  have hrest : 2 * (c * num % (c * den)) = c * (2 * (num % den)) := by
    rw [Nat.mul_mod_mul_left]
    ring
  simp only [roundDiv, Nat.mul_div_mul_left _ _ hc, hrest, Nat.mul_lt_mul_left hc]

/-! ### The scale -/

theorem scale_eq {low s : Nat} (hlt : low < Nat.pow 2 (53 + s))
    (hle : s ≠ 0 → Nat.pow 2 (52 + s) ≤ low) :
    (if low < Nat.pow 2 53 then 0 else Nat.log2 low - 52) = s := by
  cases s with
  | zero => rw [if_pos hlt]
  | succ s =>
    have hfull : Nat.pow 2 (53 + s) ≤ low := by
      rw [show 53 + s = 52 + (s + 1) by omega]
      exact hle (Nat.succ_ne_zero s)
    have hlarge : Nat.pow 2 53 ≤ low :=
      Nat.le_trans (Nat.pow_le_pow_right (by decide) (by omega)) hfull
    have hpos : low ≠ 0 := Nat.ne_of_gt (Nat.lt_of_lt_of_le (by decide) hlarge)
    have hlog : Nat.log2 low = 53 + s :=
      (Nat.log2_eq_iff hpos).mpr ⟨hfull, by
        rw [show 53 + s + 1 = 53 + (s + 1) by omega]
        exact hlt⟩
    rw [if_neg (Nat.not_lt.mpr hlarge), hlog]
    omega

theorem div_lt_pow {n den k s : Nat} (hden : 0 < den) (h : n < Nat.pow 2 k * (den * Nat.pow 2 s)) :
    n / den < Nat.pow 2 (k + s) := by
  rw [Nat.div_lt_iff_lt_mul hden]
  calc n < Nat.pow 2 k * (den * Nat.pow 2 s) := h
    _ = Nat.pow 2 (k + s) * den := by simp only [Nat.pow_eq]; ring

theorem pow_le_div {n den k s : Nat} (hden : 0 < den) (h : Nat.pow 2 k * (den * Nat.pow 2 s) ≤ n) :
    Nat.pow 2 (k + s) ≤ n / den := by
  rw [Nat.le_div_iff_mul_le hden]
  calc Nat.pow 2 (k + s) * den = Nat.pow 2 k * (den * Nat.pow 2 s) := by simp only [Nat.pow_eq]; ring
    _ ≤ n := h

/-! ### Ratios near a number -/

variable {m s num den : Nat}

/-- A ratio from the least number of a scale on is rounded to the nearest number of the scale. -/
theorem ofRatio_eq_of_scale (negative : Bool) (h : Rounded m s) (hden : 0 < den)
    (hlow : 2 * m * (den * Nat.pow 2 s) < 2 * (num * unit) + den * Nat.pow 2 s)
    (hhigh : 2 * (num * unit) < (2 * m + 1) * (den * Nat.pow 2 s))
    (hfull : s ≠ 0 → Nat.pow 2 52 * (den * Nat.pow 2 s) ≤ num * unit) :
    ofRatio negative num den = .finite negative m s := by
  have hlt : num * unit < Nat.pow 2 53 * (den * Nat.pow 2 s) := by
    have hm : (2 * m + 1) * (den * Nat.pow 2 s) ≤ 2 * Nat.pow 2 53 * (den * Nat.pow 2 s) :=
      Nat.mul_le_mul_right _ (by have := h.lt; omega)
    rw [Nat.mul_assoc] at hm
    omega
  have hscale := scale_eq (div_lt_pow hden hlt) fun hs => pow_le_div hden (hfull hs)
  simp only [ofRatio, hscale, roundDiv_eq hlow hhigh, if_neg (Nat.ne_of_lt h.lt),
    if_neg (Nat.not_lt.mpr h.scale_le)]

/-- A ratio below the least number of a scale, but nearer to it than to any other number, is rounded up to
it: the significand takes one bit more, and the next scale. -/
theorem ofRatio_eq_of_below (negative : Bool) (hs : s + 1 ≤ 2045) (hden : 0 < den)
    (hlow : (2 * Nat.pow 2 53 - 1) * (den * Nat.pow 2 s) < 2 * (num * unit))
    (hlt : num * unit < Nat.pow 2 53 * (den * Nat.pow 2 s)) :
    ofRatio negative num den = .finite negative (Nat.pow 2 52) (s + 1) := by
  have hscale := scale_eq (div_lt_pow hden hlt) fun _ => pow_le_div hden (by
    simp only [Nat.pow_eq] at hlow ⊢
    omega)
  have hround : roundDiv (num * unit) (den * Nat.pow 2 s) = Nat.pow 2 53 := by
    apply roundDiv_eq
    · simp only [Nat.pow_eq] at hlow ⊢
      omega
    · simp only [Nat.pow_eq] at hlt ⊢
      omega
  simp only [ofRatio, hscale, hround, if_true, if_neg (Nat.not_lt.mpr hs)]

/-- A ratio that is near a number is rounded to it. -/
theorem ofRatio_eq_of_near (negative : Bool) (h : Rounded m s)
    (hlow : (Nat.pow 2 54 - 1) * (m * Nat.pow 2 s * den) < Nat.pow 2 54 * (num * unit))
    (hhigh : Nat.pow 2 54 * (num * unit) < (Nat.pow 2 54 + 1) * (m * Nat.pow 2 s * den)) :
    ofRatio negative num den = .finite negative m s := by
  have hden : 0 < den := Nat.pos_of_ne_zero fun h0 => by simp [h0] at hhigh
  have hx : m * Nat.pow 2 s * den = m * (den * Nat.pow 2 s) := by ring
  rw [hx] at hlow hhigh
  have hm : m * (den * Nat.pow 2 s) ≤ (Nat.pow 2 53 - 1) * (den * Nat.pow 2 s) :=
    Nat.mul_le_mul_right _ (by have := h.lt; omega)
  have hlow' : 2 * m * (den * Nat.pow 2 s) < 2 * (num * unit) + den * Nat.pow 2 s := by
    rw [Nat.mul_assoc]
    simp only [Nat.pow_eq] at hlow hm ⊢
    omega
  by_cases hbelow : s ≠ 0 ∧ num * unit < Nat.pow 2 52 * (den * Nat.pow 2 s)
  · -- Only the least number of the scale is so near to a ratio below it.
    obtain ⟨hs, hlt⟩ := hbelow
    have hleast : m = Nat.pow 2 52 := by
      refine Nat.le_antisymm (Nat.le_of_lt_succ ?_) (h.full hs)
      apply Nat.lt_of_mul_lt_mul_right (a := den * Nat.pow 2 s)
      rw [Nat.succ_mul]
      rw [Nat.mul_assoc] at hlow'
      omega
    obtain ⟨t, rfl⟩ := Nat.exists_eq_succ_of_ne_zero hs
    have hdouble : den * Nat.pow 2 (t + 1) = 2 * (den * Nat.pow 2 t) := by
      simp only [Nat.pow_eq, Nat.pow_succ]
      ring
    subst hleast
    rw [hdouble] at hlow hlt
    apply ofRatio_eq_of_below negative h.scale_le hden
    · simp only [Nat.pow_eq] at hlow ⊢
      omega
    · simp only [Nat.pow_eq] at hlt ⊢
      omega
  · refine ofRatio_eq_of_scale negative h hden hlow' ?_ fun hs =>
      Nat.le_of_not_lt fun hlt => hbelow ⟨hs, hlt⟩
    rw [Nat.add_mul, Nat.one_mul, Nat.mul_assoc]
    simp only [Nat.pow_eq] at hhigh hm ⊢
    omega

/-! ### What rounding gives -/

theorem isRounded_ofRatio (negative : Bool) (num den : Nat) : (ofRatio negative num den).IsRounded := by
  obtain ⟨s, hs⟩ : ∃ s, (if num * unit / den < Nat.pow 2 53 then 0
      else Nat.log2 (num * unit / den) - 52) = s := ⟨_, rfl⟩
  have hdiv : num * unit / (den * Nat.pow 2 s) = num * unit / den / Nat.pow 2 s :=
    (Nat.div_div_eq_div_mul _ _ _).symm
  have hpower : 0 < Nat.pow 2 s := Nat.pow_pos (by decide)
  have hlow : num * unit / (den * Nat.pow 2 s) < Nat.pow 2 53 ∧
      (s ≠ 0 → Nat.pow 2 52 ≤ num * unit / (den * Nat.pow 2 s)) := by
    rw [hdiv, Nat.div_lt_iff_lt_mul hpower, Nat.le_div_iff_mul_le hpower]
    split_ifs at hs with hsmall
    · subst hs
      exact ⟨by simpa using hsmall, fun h => absurd rfl h⟩
    · have hne : num * unit / den ≠ 0 := fun h0 => hsmall (h0 ▸ by decide)
      have hlog : 53 ≤ Nat.log2 (num * unit / den) :=
        (Nat.le_log2 hne).mpr (Nat.le_of_not_lt hsmall)
      have hbounds := (Nat.log2_eq_iff hne).mp rfl
      rw [show Nat.log2 (num * unit / den) = 52 + s by omega] at hbounds
      simp only [Nat.pow_eq, ← Nat.pow_add]
      exact ⟨by rw [show 53 + s = 52 + s + 1 by omega]; exact hbounds.2, fun _ => hbounds.1⟩
  have hround := roundDiv_bounds (num * unit) (den * Nat.pow 2 s)
  simp only [ofRatio, hs]
  split_ifs with hcarried hlarge hlarge
  · trivial
  · exact ⟨by decide, by omega, fun _ => Nat.le_refl _⟩
  · trivial
  · exact ⟨by omega, by omega, fun h => Nat.le_trans (hlow.2 h) hround.1⟩

theorem isRounded_zero (negative : Bool) : (finite negative 0 0).IsRounded :=
  ⟨by decide, by decide, fun h => absurd rfl h⟩

theorem isRounded_ofDecimal (negative : Bool) (digits : Nat) (exponent : Int) :
    (ofDecimal negative digits exponent).IsRounded := by
  simp only [ofDecimal]
  split_ifs
  · exact isRounded_zero negative
  · trivial
  · split <;> exact isRounded_ofRatio negative _ _

/-! ### Equal decimals -/

theorem ofRatio_mul_left {c : Nat} (hc : 0 < c) (negative : Bool) (num den : Nat) :
    ofRatio negative (c * num) (c * den) = ofRatio negative num den := by
  simp only [ofRatio, Nat.mul_assoc, Nat.mul_div_mul_left _ _ hc, roundDiv_mul_left hc]

theorem digitCount_ten_mul {n : Nat} (h : n ≠ 0) : digitCount (10 * n) = digitCount n + 1 := by
  have hdiv : 10 * n / 10 = n := Nat.mul_div_cancel_left n (by decide)
  rw [digitCount, Nat.toDigits_eq_if (by decide), if_neg (by omega), hdiv]
  simp [digitCount]

theorem ofDecimal_zero (negative : Bool) (exponent : Int) :
    ofDecimal negative 0 exponent = .finite negative 0 0 := by
  simp [ofDecimal]

/-- A zero at the end of a decimal may be moved into its exponent. -/
theorem ofDecimal_ten_mul (negative : Bool) (n : Nat) (exponent : Int) :
    ofDecimal negative (10 * n) exponent = ofDecimal negative n (exponent + 1) := by
  by_cases hn : n = 0
  · rw [hn, Nat.mul_zero, ofDecimal_zero, ofDecimal_zero]
  have horder : (digitCount (10 * n) : Int) + exponent = digitCount n + (exponent + 1) := by
    rw [digitCount_ten_mul hn]
    omega
  have hzero : (10 * n = 0) = (n = 0) := by simp
  simp only [ofDecimal, horder, hzero]
  congr 2
  match exponent with
  | .ofNat e =>
    have hnum : 10 * n * Nat.pow 10 e = n * Nat.pow 10 (e + 1) := by
      simp only [Nat.pow_eq, Nat.pow_succ]
      ring
    change ofRatio negative (10 * n * Nat.pow 10 e) 1 = ofRatio negative (n * Nat.pow 10 (e + 1)) 1
    rw [hnum]
  | .negSucc 0 =>
    change ofRatio negative (10 * n) (10 * 1) = ofRatio negative (n * 1) 1
    rw [ofRatio_mul_left (by decide), Nat.mul_one]
  | .negSucc (e + 1) =>
    have hden : Nat.pow 10 (e + 1 + 1) = 10 * Nat.pow 10 (e + 1) := by
      simp only [Nat.pow_eq, Nat.pow_succ]
      ring
    change ofRatio negative (10 * n) (Nat.pow 10 (e + 1 + 1)) = ofRatio negative n (Nat.pow 10 (e + 1))
    rw [hden, ofRatio_mul_left (by decide)]

theorem ofDecimal_mul_pow (negative : Bool) (n k : Nat) (exponent : Int) :
    ofDecimal negative (n * Nat.pow 10 k) exponent = ofDecimal negative n (exponent + k) := by
  induction k generalizing exponent with
  | zero => simp
  | succ k ih =>
    have hnum : n * Nat.pow 10 (k + 1) = 10 * (n * Nat.pow 10 k) := by
      simp only [Nat.pow_eq, Nat.pow_succ]
      ring
    rw [hnum, ofDecimal_ten_mul, ih]
    congr 1
    omega

/-- The sign of a decimal is that of the number. -/
theorem ofDecimal_eq_finite {n m s : Nat} {exponent : Int}
    (h : ofDecimal false n exponent = .finite false m s) (negative : Bool) :
    ofDecimal negative n exponent = .finite negative m s := by
  have hratio {num den : Nat} (h : ofRatio false num den = .finite false m s) :
      ofRatio negative num den = .finite negative m s := by
    simp only [ofRatio] at h ⊢
    split_ifs at h ⊢ <;> cases h <;> rfl
  simp only [ofDecimal] at h ⊢
  split_ifs at h ⊢
  · cases h
    rfl
  · split at h <;> exact hratio h

end ServoScript.Binary64
