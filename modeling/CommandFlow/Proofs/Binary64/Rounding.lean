import CommandFlow.Binary64.Basic
import Mathlib.Data.Nat.Log
import Mathlib.Tactic.Ring

/-!
# Rounding keeps the order

* `Binary64.nearestEven_mono`, `Binary64.roundSteps_mono` : a greater quotient is not rounded to less;
* `Binary64.isFinite_ofRatio_of_le` : a quotient is in range if a greater one is.
-/

namespace CommandFlow.Binary64

theorem div_le_nearestEven (num den : Nat) : num / den ≤ nearestEven num den := by
  unfold nearestEven
  dsimp only
  split_ifs <;> omega

theorem nearestEven_le_div_add_one (num den : Nat) : nearestEven num den ≤ num / den + 1 := by
  unfold nearestEven
  dsimp only
  split_ifs <;> omega

theorem nearestEven_mono {a b : Nat} (den : Nat) (h : a ≤ b) : nearestEven a den ≤ nearestEven b den := by
  rcases Nat.lt_or_eq_of_le (Nat.div_le_div_right (c := den) h) with hlt | heq
  · calc nearestEven a den ≤ a / den + 1 := nearestEven_le_div_add_one a den
      _ ≤ b / den := hlt
      _ ≤ nearestEven b den := div_le_nearestEven b den
  · have ha := Nat.div_add_mod a den
    have hb := Nat.div_add_mod b den
    have hmod : a % den ≤ b % den := by
      rw [heq] at ha
      omega
    unfold nearestEven
    dsimp only
    rw [heq]
    split_ifs <;> omega

theorem nearestEven_le {num den n : Nat} (hden : 0 < den) (h : num ≤ n * den) :
    nearestEven num den ≤ n := by
  rcases Nat.lt_or_eq_of_le h with hlt | rfl
  · have hdiv : num / den < n := (Nat.div_lt_iff_lt_mul hden).mpr hlt
    exact (nearestEven_le_div_add_one num den).trans hdiv
  · simp [nearestEven, hden]

theorem le_nearestEven {num den n : Nat} (hden : 0 < den) (h : n * den ≤ num) :
    n ≤ nearestEven num den :=
  ((Nat.le_div_iff_mul_le hden).mpr h).trans (div_le_nearestEven num den)

theorem roundSteps_le {num den : Nat} (hden : 0 < den) :
    roundSteps num den ≤ 2 ^ (53 + excess (num / den)) := by
  have hlt : num / den < 2 ^ (53 + excess (num / den)) :=
    Nat.lt_log2_self.trans_le (Nat.pow_le_pow_right (by decide) (by unfold excess; omega))
  rw [roundSteps, Nat.pow_add]
  refine Nat.mul_le_mul_right _ (nearestEven_le (Nat.mul_pos hden (Nat.pow_pos (by decide))) ?_)
  rw [Nat.div_lt_iff_lt_mul hden, Nat.pow_add] at hlt
  calc num ≤ 2 ^ 53 * 2 ^ excess (num / den) * den := hlt.le
    _ = 2 ^ 53 * (den * 2 ^ excess (num / den)) := by ring

theorem le_roundSteps {num den : Nat} (hden : 0 < den) (h : 0 < excess (num / den)) :
    2 ^ (52 + excess (num / den)) ≤ roundSteps num den := by
  have hne : num / den ≠ 0 := by
    intro hzero
    simp [hzero, excess] at h
  have hle : 2 ^ (52 + excess (num / den)) ≤ num / den := by
    refine (Nat.pow_le_pow_right (by decide) ?_).trans (Nat.log2_self_le hne)
    unfold excess at h ⊢
    omega
  rw [roundSteps, Nat.pow_add]
  refine Nat.mul_le_mul_right _ (le_nearestEven (Nat.mul_pos hden (Nat.pow_pos (by decide))) ?_)
  rw [Nat.le_div_iff_mul_le hden, Nat.pow_add] at hle
  calc 2 ^ 52 * (den * 2 ^ excess (num / den)) = 2 ^ 52 * 2 ^ excess (num / den) * den := by ring
    _ ≤ num := hle

theorem excess_mono {m n : Nat} (h : m ≤ n) : excess m ≤ excess n := by
  unfold excess
  rw [Nat.log2_eq_log_two, Nat.log2_eq_log_two]
  exact Nat.sub_le_sub_right (Nat.log_mono_right h) 52

theorem roundSteps_mono {a b den : Nat} (hden : 0 < den) (h : a ≤ b) :
    roundSteps a den ≤ roundSteps b den := by
  rcases Nat.lt_or_eq_of_le (excess_mono (Nat.div_le_div_right (c := den) h)) with hlt | heq
  · calc roundSteps a den ≤ 2 ^ (53 + excess (a / den)) := roundSteps_le hden
      _ ≤ 2 ^ (52 + excess (b / den)) := Nat.pow_le_pow_right (by decide) (by omega)
      _ ≤ roundSteps b den := le_roundSteps hden (by omega)
  · rw [roundSteps, roundSteps, heq]
    exact Nat.mul_le_mul_right _ (nearestEven_mono _ h)

theorem isFinite_ofRatio (negative : Bool) (num den : Nat) :
    (ofRatio negative num den).isFinite = true ↔ roundSteps (one * num) den < tooLarge := by
  rw [ofRatio, ofSteps]
  split_ifs with h <;> simp [isFinite, h]

/-- A quotient is in range if a greater one is, whatever the signs. -/
theorem isFinite_ofRatio_of_le {negative negative' : Bool} {a b den : Nat} (hden : 0 < den) (h : a ≤ b)
    (hb : (ofRatio negative b den).isFinite = true) : (ofRatio negative' a den).isFinite = true := by
  rw [isFinite_ofRatio] at hb ⊢
  exact (roundSteps_mono hden (Nat.mul_le_mul_left _ h)).trans_lt hb

end CommandFlow.Binary64
