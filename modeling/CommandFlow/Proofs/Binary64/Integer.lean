import CommandFlow.Proofs.Value.Written

/-!
# Integers of the format

The integers up to `2⁵³` in absolute value are numbers of the format, so arithmetic on them is that of the integers as
long as the result is one of them.

* `Binary64.IsSmall` : such an integer; `Binary64.toInt?_ofInt_of_isSmall` : it is its own number;
* `Binary64.lt_of_toInt?` : integers are ordered as integers;
* `Binary64.toInt?_add`, `toInt?_sub`, `toInt?_mul` : sums, differences and products that are small are exact;
  `Binary64.toInt?_div`, `Binary64.toInt?_rem` : so are quotients without a remainder, and all remainders.
-/

namespace CommandFlow.Binary64

/-- An integer that is not greater than `2⁵³` in absolute value. -/
def IsSmall (i : Int) : Prop := i.natAbs ≤ 2 ^ 53

theorem excess_le {k n : Nat} (h : n < 2 ^ 53) : excess (2 ^ k * n) ≤ k := by
  by_contra hgt
  have hpow : 2 ^ (52 + excess (2 ^ k * n)) < 2 ^ (k + 53) :=
    calc 2 ^ (52 + excess (2 ^ k * n)) ≤ 2 ^ k * n := two_pow_excess_le (by omega)
      _ < 2 ^ k * 2 ^ 53 := Nat.mul_lt_mul_of_pos_left h (Nat.two_pow_pos k)
      _ = 2 ^ (k + 53) := (Nat.pow_add 2 k 53).symm
  have hexponent := (Nat.pow_lt_pow_iff_right (by decide)).mp hpow
  omega

theorem isStored_of_le {n : Nat} (h : n ≤ 2 ^ 53) : IsStored (one * n) := by
  have hrange : one * 2 ^ 53 < tooLarge := by decide +kernel
  refine ⟨(Nat.mul_le_mul_left one h).trans_lt hrange, ?_⟩
  rcases Nat.lt_or_eq_of_le h with hlt | rfl
  · obtain ⟨k, hk⟩ : ∃ k, one = 2 ^ k := ⟨1074, by decide +kernel⟩
    have hdvd : 2 ^ excess (2 ^ k * n) ∣ 2 ^ k := Nat.pow_dvd_pow 2 (excess_le hlt)
    rw [hk]
    exact hdvd.mul_right n
  · decide +kernel

/-- What is rounded and is a small integer is that integer. -/
theorem toInt?_ofSteps (negative : Bool) {num den n : Nat} (hn : n ≤ 2 ^ 53)
    (h : roundSteps num den = roundSteps (one * n) 1) :
    (ofSteps negative (roundSteps num den)).toInt? = some (signed negative n) := by
  have hstored := isStored_of_le hn
  rw [h, roundSteps_of_isStored hstored, ofSteps, if_pos hstored.inRange, toInt?_finite]

theorem toInt?_ofRatio (negative : Bool) {n : Nat} (hn : n ≤ 2 ^ 53) :
    (ofRatio negative n 1).toInt? = some (signed negative n) := by
  rw [ofRatio, toInt?_ofSteps negative hn rfl]

theorem toInt?_zero (negative : Bool) : (finite negative 0).toInt? = some 0 := by
  have hzero := toInt?_finite negative 0
  rw [Nat.mul_zero] at hzero
  rw [hzero]
  cases negative <;> rfl

theorem signed_decide_natAbs (i : Int) : signed (i < 0) i.natAbs = i := by
  unfold signed
  split
  · rename_i hneg
    have := of_decide_eq_true hneg
    omega
  · rename_i hneg
    have : ¬ i < 0 := by simpa using hneg
    omega

theorem toInt?_ofInt_of_isSmall {i : Int} (h : IsSmall i) : (ofInt i).toInt? = some i := by
  rw [ofInt, toInt?_ofRatio _ h, signed_decide_natAbs]

/-! ## Order -/

theorem signed_mul (negative : Bool) (m n : Nat) : signed negative (m * n) = m * signed negative n := by
  cases negative <;> simp [signed]

section
variable {x y : Binary64} {a b : Int} (hx : x.toInt? = some a) (hy : y.toInt? = some b)

include hx in
theorem isZero_of_toInt? : x.isZero = decide (a = 0) := by
  obtain ⟨s, m, rfl, rfl⟩ := exists_of_toInt? hx
  have hzero : signed s m = 0 ↔ m = 0 := by rw [← Int.natAbs_eq_zero, natAbs_signed]
  have hsteps : one * m = 0 ↔ m = 0 := by
    rw [Nat.mul_eq_zero, or_iff_right one_pos.ne']
  rw [isZero, Bool.eq_iff_iff, beq_iff_eq, decide_eq_true_eq, hsteps, hzero]

include hx hy in
theorem lt_of_toInt? : x.lt y = decide (a < b) := by
  obtain ⟨s, m, rfl, rfl⟩ := exists_of_toInt? hx
  obtain ⟨t, n, rfl, rfl⟩ := exists_of_toInt? hy
  have hone : (0 : Int) < one := Int.natCast_pos.mpr one_pos
  rw [lt, signed_mul, signed_mul, decide_eq_decide]
  exact Int.mul_lt_mul_left hone

/-! ## Arithmetic -/

include hx in
theorem toInt?_neg : x.neg.toInt? = some (-a) := by
  obtain ⟨s, m, rfl, rfl⟩ := exists_of_toInt? hx
  rw [neg, toInt?_finite]
  cases s <;> simp [signed]

include hx hy

theorem toInt?_add (h : IsSmall (a + b)) : (x.add y).toInt? = some (a + b) := by
  obtain ⟨s, m, rfl, rfl⟩ := exists_of_toInt? hx
  obtain ⟨t, n, rfl, rfl⟩ := exists_of_toInt? hy
  have hsum : signed s (one * m) + signed t (one * n) = one * (signed s m + signed t n) := by
    rw [signed_mul, signed_mul, Int.mul_add]
  have hone : (0 : Int) < one := Int.natCast_pos.mpr one_pos
  unfold add
  dsimp only
  rw [hsum]
  generalize signed s m + signed t n = c at h
  rcases eq_or_ne c 0 with rfl | hc
  · rw [Int.mul_zero, if_pos rfl]
    exact toInt?_zero _
  · have hsign : decide ((one : Int) * c < 0) = decide (c < 0) := by
      have hlt := Int.mul_lt_mul_left (b := c) (c := 0) hone
      rwa [Int.mul_zero, ← decide_eq_decide] at hlt
    rw [if_neg (mul_ne_zero hone.ne' hc), Int.natAbs_mul, Int.natAbs_natCast, hsign, toInt?_ofSteps _ h rfl,
      signed_decide_natAbs]

theorem toInt?_sub (h : IsSmall (a - b)) : (x.sub y).toInt? = some (a - b) := by
  rw [Int.sub_eq_add_neg] at h ⊢
  exact toInt?_add hx (toInt?_neg hy) h

theorem toInt?_mul (h : IsSmall (a * b)) : (x.mul y).toInt? = some (a * b) := by
  obtain ⟨s, m, rfl, rfl⟩ := exists_of_toInt? hx
  obtain ⟨t, n, rfl, rfl⟩ := exists_of_toInt? hy
  have hproduct : signed s m * signed t n = signed (s != t) (m * n) := by
    cases s <;> cases t <;> simp [signed]
  have hsteps : roundSteps (one * m * (one * n)) one = roundSteps (one * (m * n)) 1 := by
    calc roundSteps (one * m * (one * n)) one = roundSteps (one * (one * (m * n))) (one * 1) := by ring_nf
      _ = roundSteps (one * (m * n)) 1 := roundSteps_mul_left one_pos _ _
  rw [hproduct] at h ⊢
  have hsmall : m * n ≤ 2 ^ 53 := by
    rw [IsSmall, natAbs_signed] at h
    exact h
  exact toInt?_ofSteps _ hsmall hsteps

theorem toInt?_div (hb : b ≠ 0) {q : Int} (hq : IsSmall q) (h : a = b * q) : (x.div y).toInt? = some q := by
  obtain ⟨s, m, rfl, rfl⟩ := exists_of_toInt? hx
  obtain ⟨t, n, rfl, rfl⟩ := exists_of_toInt? hy
  have hn : n ≠ 0 := by
    rintro rfl
    exact hb (by cases t <;> rfl)
  have hm : m = n * q.natAbs := by
    rw [← natAbs_signed s m, h, Int.natAbs_mul, natAbs_signed]
  have hquotient : signed (s != t) q.natAbs = q := by
    refine Int.eq_of_mul_eq_mul_left hb ?_
    rw [← h, hm]
    cases s <;> cases t <;> simp [signed]
  have hsteps : roundSteps (one * (one * m)) (one * n) = roundSteps (one * q.natAbs) 1 := by
    calc roundSteps (one * (one * m)) (one * n) = roundSteps (one * m) n := roundSteps_mul_left one_pos _ _
      _ = roundSteps (n * (one * q.natAbs)) (n * 1) := by rw [hm, Nat.mul_one, Nat.mul_left_comm]
      _ = roundSteps (one * q.natAbs) 1 := roundSteps_mul_left (Nat.pos_of_ne_zero hn) _ _
  rw [div, if_neg (Nat.mul_ne_zero one_pos.ne' hn), toInt?_ofSteps _ hq hsteps, hquotient]

theorem toInt?_rem (hb : b ≠ 0) : (x.rem y).toInt? = some (a.tmod b) := by
  obtain ⟨s, m, rfl, rfl⟩ := exists_of_toInt? hx
  obtain ⟨t, n, rfl, rfl⟩ := exists_of_toInt? hy
  have hn : n ≠ 0 := by
    rintro rfl
    exact hb (by cases t <;> rfl)
  have hmod : (m : Int).tmod n = (m % n : Nat) := rfl
  rw [rem, if_neg (Nat.mul_ne_zero one_pos.ne' hn), Nat.mul_mod_mul_left, toInt?_finite]
  cases s <;> cases t <;> simp [signed, Int.tmod_neg, Int.neg_tmod, hmod]

end

end CommandFlow.Binary64
