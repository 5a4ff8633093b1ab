import Mathlib.Tactic.Ring
import Mathlib.Tactic.SplitIfs
import ServoScript.Number.Shortest
import ServoScript.Proofs.Rounding

/-!
# The shortest decimal is read back

With 17 digits the nearest decimal of a number differs from it by less than a part in `2 ^ 54` of it and
is read back as the number. The search for the shortest decimal that is read back therefore ends with one.
-/

namespace ServoScript.Binary64

/-! ### The least and the greatest number -/

theorem unit_le_mul {num : Nat} (h : 0 < num) : unit ≤ Nat.pow 10 330 * num := by
  have hunit : unit ≤ Nat.pow 10 330 := by decide +kernel
  generalize Nat.pow 10 330 = power at hunit ⊢
  exact Nat.le_trans hunit (Nat.le_mul_of_pos_right power h)

theorem Rounded.value_lt {m s : Nat} (h : Rounded m s) : m * Nat.pow 2 s < Nat.pow 10 309 * unit := by
  have hgreatest : Nat.pow 2 53 * Nat.pow 2 2045 ≤ Nat.pow 10 309 * unit := by decide +kernel
  have hscale := h.scale_le
  generalize 2045 = t at hgreatest hscale
  calc m * Nat.pow 2 s < Nat.pow 2 53 * Nat.pow 2 s :=
        Nat.mul_lt_mul_of_pos_right h.lt (Nat.pow_pos (by decide))
    _ ≤ Nat.pow 2 53 * Nat.pow 2 t := Nat.mul_le_mul_left _ (Nat.pow_le_pow_right (by decide) hscale)
    _ ≤ Nat.pow 10 309 * unit := hgreatest

-- Only these bounds of the common denominator are used from here on.
attribute [local irreducible] unit

/-! ### The order of magnitude -/

theorem leadingZeros_le (den fuel num : Nat) : leadingZeros den fuel num ≤ fuel := by
  induction fuel generalizing num with
  | zero => exact Nat.le_refl 0
  | succ fuel ih =>
    rw [leadingZeros]
    split_ifs
    · exact Nat.zero_le _
    · exact Nat.succ_le_succ (ih _)

theorem leadingZeros_spec {den fuel num : Nat} (hlt : num < den) (hfuel : den ≤ Nat.pow 10 fuel * num) :
    Nat.pow 10 (leadingZeros den fuel num) * num < den ∧
      den ≤ Nat.pow 10 (leadingZeros den fuel num + 1) * num := by
  induction fuel generalizing num with
  | zero =>
    simp only [Nat.pow_eq, Nat.pow_zero, Nat.one_mul] at hfuel
    omega
  | succ fuel ih =>
    have hshift (k : Nat) : Nat.pow 10 (k + 1) * num = Nat.pow 10 k * (10 * num) := by
      simp only [Nat.pow_eq, Nat.pow_succ]
      ring
    rw [leadingZeros]
    split_ifs with hreached
    · rw [hshift]
      simp only [Nat.pow_eq, Nat.pow_zero, Nat.one_mul]
      exact ⟨hlt, hreached⟩
    · rw [hshift, hshift]
      rw [hshift] at hfuel
      exact ih (Nat.lt_of_not_le hreached) hfuel

theorem digitCount_le {n k : Nat} (hk : 0 < k) (h : n < Nat.pow 10 k) : digitCount n ≤ k :=
  (Nat.length_toDigits_le_iff (by decide) hk).mpr h

theorem digitCount_spec {n : Nat} (h : 0 < n) :
    ∃ k, digitCount n = k + 1 ∧ Nat.pow 10 k ≤ n ∧ n < Nat.pow 10 (k + 1) := by
  obtain ⟨k, hk⟩ : ∃ k, digitCount n = k + 1 :=
    Nat.exists_eq_succ_of_ne_zero (by simp [digitCount])
  refine ⟨k, hk, ?_, ?_⟩
  · by_cases hzero : k = 0
    · subst hzero
      exact h
    · have hiff := Nat.length_toDigits_le_iff (n := n) (b := 10) (k := k) (by decide) (by omega)
      rw [← digitCount, hk] at hiff
      exact Nat.le_of_not_lt fun hlt => absurd (hiff.mpr hlt) (by omega)
  · exact (Nat.length_toDigits_le_iff (by decide) (Nat.succ_pos k)).mp (Nat.le_of_eq hk)

/-- `num / den` in units of `10 ^ exponent`, as a ratio. -/
def inTens (num den : Nat) : (exponent : Int) → Nat × Nat
  | .ofNat e => (num, den * Nat.pow 10 e)
  | .negSucc e => (num * Nat.pow 10 (e + 1), den)

theorem inTens_pos (num : Nat) {den : Nat} (h : 0 < den) (exponent : Int) :
    0 < (inTens num den exponent).2 := by
  cases exponent with
  | ofNat e => exact Nat.mul_pos h (Nat.pow_pos (by decide))
  | negSucc e => exact h

/-- A ratio with 17 digits before the point. -/
structure Seventeen (ratio : Nat × Nat) : Prop where
  least : Nat.pow 10 16 * ratio.2 ≤ ratio.1
  lt : ratio.1 < Nat.pow 10 17 * ratio.2

theorem seventeen_of_digits {num den k : Nat} (hlow : Nat.pow 10 k * den ≤ num)
    (hhigh : num < Nat.pow 10 (k + 1) * den) : Seventeen (inTens num den ((k + 1 : Nat) - 17)) := by
  by_cases hlarge : 16 ≤ k
  · obtain ⟨e, rfl⟩ := Nat.exists_eq_add_of_le hlarge
    have hexponent : ((16 + e + 1 : Nat) : Int) - 17 = .ofNat e := by
      rw [Int.ofNat_eq_natCast]
      omega
    rw [hexponent]
    simp only [Nat.pow_eq] at hlow hhigh
    constructor
    · calc 10 ^ 16 * (den * 10 ^ e) = 10 ^ (16 + e) * den := by ring
        _ ≤ num := hlow
    · calc num < 10 ^ (16 + e + 1) * den := hhigh
        _ = 10 ^ 17 * (den * 10 ^ e) := by ring
  · obtain ⟨e, he⟩ := Nat.exists_eq_add_of_lt (Nat.lt_of_not_le hlarge)
    have hexponent : ((k + 1 : Nat) : Int) - 17 = .negSucc e := by
      rw [Int.negSucc_eq]
      omega
    rw [hexponent]
    simp only [Nat.pow_eq] at hlow hhigh
    constructor
    · calc 10 ^ 16 * den = 10 ^ k * den * 10 ^ (e + 1) := by rw [he]; ring
        _ ≤ num * 10 ^ (e + 1) := Nat.mul_le_mul_right _ hlow
    · calc num * 10 ^ (e + 1) < 10 ^ (k + 1) * den * 10 ^ (e + 1) :=
            Nat.mul_lt_mul_of_pos_right hhigh (Nat.pow_pos (by decide))
        _ = 10 ^ (k + e + 1 + 1) * den := by ring
        _ = 10 ^ 17 * den := by rw [← he]

theorem seventeen_of_zeros {num den z : Nat} (hlow : Nat.pow 10 z * num < den)
    (hhigh : den ≤ Nat.pow 10 (z + 1) * num) : Seventeen (inTens num den (-(z : Int) - 17)) := by
  have hexponent : -(z : Int) - 17 = .negSucc (z + 16) := by
    rw [Int.negSucc_eq]
    omega
  rw [hexponent]
  simp only [Nat.pow_eq] at hlow hhigh
  constructor
  · calc 10 ^ 16 * den ≤ 10 ^ 16 * (10 ^ (z + 1) * num) := Nat.mul_le_mul_left _ hhigh
      _ = num * 10 ^ (z + 16 + 1) := by ring
  · calc num * 10 ^ (z + 16 + 1) = 10 ^ 17 * (10 ^ z * num) := by ring
      _ < 10 ^ 17 * den := Nat.mul_lt_mul_of_pos_left hlow (by decide)

/-- In units of its seventeenth digit a number has 17 digits before the point. -/
theorem seventeen_magnitude {num : Nat} (hnum : 0 < num) :
    Seventeen (inTens num unit (magnitude num unit - 17)) := by
  rw [magnitude]
  split_ifs with hle
  · obtain ⟨k, hk, hlow, hhigh⟩ := digitCount_spec (Nat.div_pos hle unit_pos)
    rw [Nat.le_div_iff_mul_le unit_pos] at hlow
    rw [Nat.div_lt_iff_lt_mul unit_pos] at hhigh
    rw [hk]
    exact seventeen_of_digits hlow hhigh
  · obtain ⟨hlow, hhigh⟩ := leadingZeros_spec (Nat.lt_of_not_le hle) (unit_le_mul hnum)
    exact seventeen_of_zeros hlow hhigh

variable {m s : Nat}

theorem magnitude_range (h : Rounded m s) :
    -330 ≤ magnitude (m * Nat.pow 2 s) unit ∧ magnitude (m * Nat.pow 2 s) unit ≤ 309 := by
  rw [magnitude]
  split_ifs with hle
  · have hcount := digitCount_le (by decide) ((Nat.div_lt_iff_lt_mul unit_pos).mpr h.value_lt)
    omega
  · have hzeros := leadingZeros_le unit 330 (m * Nat.pow 2 s)
    omega

/-! ### Seventeen digits -/

theorem headD_neighbours (num den : Nat) (exponent : Int) :
    (neighbours num den exponent).headD 0 =
      roundDiv (inTens num den exponent).1 (inTens num den exponent).2 := by
  have hunits : inUnits num den exponent =
      ((inTens num den exponent).1 / (inTens num den exponent).2,
        decide ((inTens num den exponent).1 / (inTens num den exponent).2 <
          roundDiv (inTens num den exponent).1 (inTens num den exponent).2)) := by
    cases exponent <;> rfl
  have hbounds := roundDiv_bounds (inTens num den exponent).1 (inTens num den exponent).2
  rw [neighbours, hunits]
  split
  · next low heq =>
    obtain ⟨rfl, hnext⟩ := Prod.mk.inj heq
    have hle := of_decide_eq_false hnext
    simp only [List.headD_cons]
    omega
  · next low heq =>
    obtain ⟨rfl, hnext⟩ := Prod.mk.inj heq
    have hlt := of_decide_eq_true hnext
    simp only [List.headD_cons]
    omega

variable {ratio : Nat × Nat}

/-- A ratio with 17 digits before the point differs from a natural number by less than a part in `2 ^ 54`. -/
theorem Seventeen.near (h : Seventeen ratio) (hden : 0 < ratio.2) :
    (Nat.pow 2 54 - 1) * ratio.1 < Nat.pow 2 54 * (roundDiv ratio.1 ratio.2 * ratio.2) ∧
      Nat.pow 2 54 * (roundDiv ratio.1 ratio.2 * ratio.2) < (Nat.pow 2 54 + 1) * ratio.1 := by
  obtain ⟨hhigh, hlow⟩ := roundDiv_error ratio.1 hden
  have hfull := h.least
  generalize roundDiv ratio.1 ratio.2 = n at hhigh hlow ⊢
  have hdouble : 2 * n * ratio.2 = 2 * (n * ratio.2) := Nat.mul_assoc 2 n ratio.2
  have hnext : (2 * n + 1) * ratio.2 = 2 * (n * ratio.2) + ratio.2 := by ring
  rw [hdouble] at hlow
  rw [hnext] at hhigh
  simp only [Nat.pow_eq] at hfull ⊢
  omega

theorem Seventeen.digitCount (h : Seventeen ratio) (hden : 0 < ratio.2) :
    0 < roundDiv ratio.1 ratio.2 ∧ 17 ≤ digitCount (roundDiv ratio.1 ratio.2) ∧
      digitCount (roundDiv ratio.1 ratio.2) ≤ 18 := by
  have hround := roundDiv_bounds ratio.1 ratio.2
  have hleast : Nat.pow 10 16 ≤ ratio.1 / ratio.2 := (Nat.le_div_iff_mul_le hden).mpr h.least
  have hgreatest : ratio.1 / ratio.2 < Nat.pow 10 17 := (Nat.div_lt_iff_lt_mul hden).mpr h.lt
  generalize roundDiv ratio.1 ratio.2 = n at hround ⊢
  have hfew := Nat.length_toDigits_le_iff (n := n) (b := 10) (k := 16) (by decide) (by decide)
  have hmany := digitCount_le (n := n) (k := 18) (by decide)
  rw [← Binary64.digitCount] at hfew
  simp only [Nat.pow_eq] at hleast hgreatest hmany
  omega

/-- A decimal that is near a number, as a ratio in units of the decimal's exponent, is read as it. -/
theorem ofDecimal_eq_of_near (h : Rounded m s) (n : Nat) (exponent : Int) (hn : n ≠ 0)
    (horder : -330 ≤ digitCount n + exponent ∧ digitCount n + exponent ≤ 310)
    (hlow : (Nat.pow 2 54 - 1) * (inTens (m * Nat.pow 2 s) unit exponent).1 <
      Nat.pow 2 54 * (n * (inTens (m * Nat.pow 2 s) unit exponent).2))
    (hhigh : Nat.pow 2 54 * (n * (inTens (m * Nat.pow 2 s) unit exponent).2) <
      (Nat.pow 2 54 + 1) * (inTens (m * Nat.pow 2 s) unit exponent).1) :
    ofDecimal false n exponent = .finite false m s := by
  have hsmall : ¬ (n = 0 ∨ digitCount n + exponent < -330) := by omega
  have hlarge : ¬ 310 < digitCount n + exponent := by omega
  simp only [ofDecimal, Bool.or_eq_true, decide_eq_true_eq, if_neg hsmall, if_neg hlarge]
  cases exponent with
  | ofNat e =>
    have hnum : n * (unit * Nat.pow 10 e) = n * Nat.pow 10 e * unit := by ring
    simp only [inTens, hnum] at hlow hhigh
    exact ofRatio_eq_of_near false h (by rwa [Nat.mul_one]) (by rwa [Nat.mul_one])
  | negSucc e => exact ofRatio_eq_of_near false h hlow hhigh

theorem ofDecimal_headD (h : Rounded m s) (hm : m ≠ 0) :
    ofDecimal false
      ((neighbours (m * Nat.pow 2 s) unit (magnitude (m * Nat.pow 2 s) unit - 17)).headD 0)
      (magnitude (m * Nat.pow 2 s) unit - 17) = .finite false m s := by
  have hnum : 0 < m * Nat.pow 2 s := Nat.mul_pos (Nat.pos_of_ne_zero hm) (Nat.pow_pos (by decide))
  have hden := inTens_pos (m * Nat.pow 2 s) unit_pos (magnitude (m * Nat.pow 2 s) unit - 17)
  have hdigits := seventeen_magnitude hnum
  obtain ⟨hleast, hgreatest⟩ := magnitude_range h
  obtain ⟨hpos, hfew, hmany⟩ := hdigits.digitCount hden
  rw [headD_neighbours]
  apply ofDecimal_eq_of_near h
  · exact Nat.ne_of_gt hpos
  · omega
  · exact (hdigits.near hden).1
  · exact (hdigits.near hden).2

/-! ### The search -/

theorem ofDecimal_withoutZeros (negative : Bool) (fuel n : Nat) (exponent : Int) :
    ofDecimal negative (withoutZeros fuel n exponent).1 (withoutZeros fuel n exponent).2 =
      ofDecimal negative n exponent := by
  induction fuel generalizing n exponent with
  | zero => rfl
  | succ fuel ih =>
    rw [withoutZeros]
    split_ifs with hzero
    · have hten : 10 * (n / 10) = n := Nat.mul_div_cancel' (Nat.dvd_of_mod_eq_zero hzero)
      rw [ih, ← ofDecimal_ten_mul, hten]
    · rfl

theorem ofDecimal_shortestFrom (h : Rounded m s) (hm : m ≠ 0) (fuel : Nat) :
    ofDecimal false (shortestFrom m s (magnitude (m * Nat.pow 2 s) unit) fuel).1
      (shortestFrom m s (magnitude (m * Nat.pow 2 s) unit) fuel).2 = .finite false m s := by
  induction fuel with
  | zero => exact ofDecimal_headD h hm
  | succ fuel ih =>
    rw [shortestFrom]
    split
    · next digits hfound =>
      have hread := List.find?_some hfound
      rw [ofDecimal_withoutZeros]
      exact of_decide_eq_true hread
    · exact ih

/-- The shortest decimal of a number is read back as it, with either sign. -/
theorem ofDecimal_shortest (negative : Bool) (h : Rounded m s) (hm : m ≠ 0) :
    ofDecimal negative (shortest m s).1 (shortest m s).2 = .finite negative m s :=
  ofDecimal_eq_finite (ofDecimal_shortestFrom h hm 17) negative

theorem shortest_ne_zero (h : Rounded m s) (hm : m ≠ 0) : (shortest m s).1 ≠ 0 := by
  intro hzero
  have hread := ofDecimal_shortest false h hm
  rw [hzero, ofDecimal_zero] at hread
  exact hm (finite.inj hread).2.1.symm

end ServoScript.Binary64
