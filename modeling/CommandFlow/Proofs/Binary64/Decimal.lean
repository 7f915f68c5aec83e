import CommandFlow.Binary64.Decimal
import CommandFlow.Proofs.Binary64.Rounding
import Mathlib.Tactic.Ring

/-!
# Decimals as quotients

* `Binary64.ofRatio_congr` : equal quotients are rounded alike;
* `Binary64.ofDecimal_eq_ofRatio` : the number of a decimal is the rounded quotient, also where it is decided without
  computing a power;
* `Binary64.ofDecimal_congr`, `Binary64.ofDecimal_mul_pow` : so it depends on the value of the decimal alone.
-/

namespace CommandFlow.Binary64

/-! ## Quotients -/

theorem nearestEven_mul_left {k : Nat} (hk : 0 < k) (num den : Nat) :
    nearestEven (k * num) (k * den) = nearestEven num den := by
  unfold nearestEven
  dsimp only
  rw [Nat.mul_div_mul_left num den hk, Nat.mul_mod_mul_left, Nat.mul_left_comm 2 k]
  simp only [Nat.mul_lt_mul_left hk]

theorem roundSteps_mul_left {k : Nat} (hk : 0 < k) (num den : Nat) :
    roundSteps (k * num) (k * den) = roundSteps num den := by
  simp only [roundSteps, Nat.mul_div_mul_left num den hk, Nat.mul_assoc k, nearestEven_mul_left hk]

theorem ofRatio_congr {a b c d : Nat} (hb : 0 < b) (hd : 0 < d) (h : a * d = c * b) (negative : Bool) :
    ofRatio negative a b = ofRatio negative c d := by
  have hscaled : d * (one * a) = b * (one * c) := by
    calc d * (one * a) = one * (a * d) := by ring
      _ = one * (c * b) := by rw [h]
      _ = b * (one * c) := by ring
  rw [ofRatio, ofRatio, ← roundSteps_mul_left hd, hscaled, Nat.mul_comm d b, roundSteps_mul_left hb]

theorem roundSteps_eq_zero {num den : Nat} (h : 2 * num < den) : roundSteps num den = 0 := by
  have hdiv : num / den = 0 := Nat.div_eq_of_lt (by omega)
  have hmod : num % den = num := Nat.mod_eq_of_lt (by omega)
  simp [roundSteps, nearestEven, hdiv, hmod, excess, h]

theorem tooLarge_eq : tooLarge = 2 ^ 2098 := by decide +kernel

theorem le_log2_of_le {n k : Nat} (h : 2 ^ k ≤ n) : k ≤ n.log2 :=
  (Nat.le_log2 (Nat.two_pow_pos k |>.trans_le h).ne').mpr h

theorem tooLarge_le_roundSteps {num den : Nat} (hden : 0 < den) (h : tooLarge * den ≤ num) :
    tooLarge ≤ roundSteps num den := by
  rw [← Nat.le_div_iff_mul_le hden, tooLarge_eq] at h
  have hlog : 2098 ≤ (num / den).log2 := le_log2_of_le h
  rw [tooLarge_eq]
  refine (Nat.pow_le_pow_right (by decide) ?_).trans (le_roundSteps hden ?_) <;>
  · unfold excess
    omega

/-! ## Decimals -/

theorem lt_ten_pow_decimalLength (n : Nat) : n < 10 ^ decimalLength n :=
  (Nat.length_toDigits_le_iff (by decide) Nat.length_toDigits_pos).mp (Nat.le_refl _)

theorem ten_pow_le_of_lt_decimalLength {n k : Nat} (hn : 0 < n) (h : k < decimalLength n) : 10 ^ k ≤ n := by
  rcases Nat.eq_zero_or_pos k with rfl | hk
  · exact hn
  · by_contra hlt
    exact absurd ((Nat.length_toDigits_le_iff (by decide) hk).mpr (Nat.not_le.mp hlt)) (Nat.not_le.mpr h)

theorem two_mul_one_lt : 2 * one < 10 ^ 331 := by decide +kernel

theorem tooLarge_le_one_mul : tooLarge ≤ one * 10 ^ 310 := by decide +kernel

section
variable {digits : Nat} {exponent : Int}

/-- Nothing is left of a number whose first digit stands so far behind the point. -/
theorem roundSteps_decimal_eq_zero (h : exponent + decimalLength digits < -330) :
    roundSteps (one * (digits * 10 ^ exponent.toNat)) (10 ^ (-exponent).toNat) = 0 := by
  have hdigits := lt_ten_pow_decimalLength digits
  have hexponent : exponent.toNat = 0 := by omega
  have hlength : decimalLength digits + 331 ≤ (-exponent).toNat := by omega
  refine roundSteps_eq_zero ?_
  rw [hexponent, Nat.pow_zero, Nat.mul_one]
  calc 2 * (one * digits) = 2 * one * digits := (Nat.mul_assoc _ _ _).symm
    _ < 10 ^ 331 * 10 ^ decimalLength digits := Nat.mul_lt_mul'' two_mul_one_lt hdigits
    _ = 10 ^ (decimalLength digits + 331) := by rw [Nat.mul_comm, ← Nat.pow_add]
    _ ≤ 10 ^ (-exponent).toNat := Nat.pow_le_pow_right (by decide) hlength

/-- A number whose first digit stands so far before the point is out of range. -/
theorem tooLarge_le_roundSteps_decimal (hpos : 0 < digits) (h : 310 < exponent + decimalLength digits) :
    tooLarge ≤ roundSteps (one * (digits * 10 ^ exponent.toNat)) (10 ^ (-exponent).toNat) := by
  have hlength : decimalLength digits - 1 < decimalLength digits := Nat.sub_lt Nat.length_toDigits_pos Nat.one_pos
  have hdigits := ten_pow_le_of_lt_decimalLength hpos hlength
  refine tooLarge_le_roundSteps (Nat.pow_pos (by decide)) ?_
  calc tooLarge * 10 ^ (-exponent).toNat ≤ one * 10 ^ 310 * 10 ^ (-exponent).toNat :=
        Nat.mul_le_mul_right _ tooLarge_le_one_mul
    _ = one * 10 ^ (310 + (-exponent).toNat) := by rw [Nat.mul_assoc, ← Nat.pow_add]
    _ ≤ one * 10 ^ (decimalLength digits - 1 + exponent.toNat) :=
      Nat.mul_le_mul_left _ (Nat.pow_le_pow_right (by decide) (by omega))
    _ = one * (10 ^ (decimalLength digits - 1) * 10 ^ exponent.toNat) := by rw [Nat.pow_add]
    _ ≤ one * (digits * 10 ^ exponent.toNat) := Nat.mul_le_mul_left _ (Nat.mul_le_mul_right _ hdigits)

end

/-- What is decided without computing a power is what the power would give. -/
theorem ofDecimal_eq_ofRatio (negative : Bool) (digits : Nat) (exponent : Int) :
    ofDecimal negative digits exponent =
      ofRatio negative (digits * 10 ^ exponent.toNat) (10 ^ (-exponent).toNat) := by
  unfold ofDecimal
  dsimp only
  split_ifs with hsmall hlarge hwhole
  · have hzero : roundSteps (one * (digits * 10 ^ exponent.toNat)) (10 ^ (-exponent).toNat) = 0 := by
      simp only [Bool.or_eq_true, decide_eq_true_eq] at hsmall
      rcases hsmall with rfl | hsmall
      · exact roundSteps_eq_zero (by simp)
      · exact roundSteps_decimal_eq_zero hsmall
    rw [ofRatio, hzero, ofSteps, if_pos (by decide +kernel)]
  · have hpos : 0 < digits := by
      rcases Nat.eq_zero_or_pos digits with rfl | hpos
      · simp at hsmall
      · exact hpos
    rw [ofRatio, ofSteps, if_neg (Nat.not_lt.mpr (tooLarge_le_roundSteps_decimal hpos hlarge))]
  · have hexponent : (-exponent).toNat = 0 := by omega
    rw [hexponent]
    rfl
  · have hexponent : exponent.toNat = 0 := by omega
    rw [hexponent, Nat.pow_zero, Nat.mul_one]
    rfl

theorem ofDecimal_congr {m n : Nat} {j k : Int}
    (h : m * 10 ^ j.toNat * 10 ^ (-k).toNat = n * 10 ^ k.toNat * 10 ^ (-j).toNat) (negative : Bool) :
    ofDecimal negative m j = ofDecimal negative n k := by
  rw [ofDecimal_eq_ofRatio, ofDecimal_eq_ofRatio]
  exact ofRatio_congr (Nat.pow_pos (by decide)) (Nat.pow_pos (by decide)) h negative

theorem ofDecimal_mul_pow (negative : Bool) (digits zeros : Nat) (exponent : Int) :
    ofDecimal negative (digits * 10 ^ zeros) (exponent - zeros) = ofDecimal negative digits exponent := by
  refine ofDecimal_congr ?_ negative
  rw [Nat.mul_assoc, Nat.mul_assoc, Nat.mul_assoc, ← Nat.pow_add, ← Nat.pow_add, ← Nat.pow_add]
  exact congrArg (digits * 10 ^ ·) (by omega)

end CommandFlow.Binary64
