import CommandFlow.Proofs.Binary64.Decimal

/-!
# The shortest digits read back

* `Binary64.IsStored` : a number of steps that the format holds; `Binary64.roundSteps_of_isStored` : it is its own
  rounding; `Binary64.isStored_roundSteps` : and every rounding in range is one;
* `Binary64.IsAround` : a quotient within the neighbourhood of a number; `Binary64.roundSteps_of_isAround` : it is
  rounded to that number;
* `Binary64.readsBack_of_onGrid?` : what is found on a grid lies in the neighbourhood;
  `Binary64.isSome_onGrid?_last` : on the last grid of the search there is something to find;
* `Binary64.ofDecimal_shortest` : so the shortest digits are those of the number.
-/

namespace CommandFlow.Binary64

/-! ## Half a step -/

/-- Rounding gives the integer within half a step of which the quotient lies; the ends of that range belong to the
even ones. -/
theorem nearestEven_eq {num den k : Nat} (hden : 0 < den) (hlow : 2 * (k * den) ≤ 2 * num + den)
    (hhigh : 2 * num ≤ 2 * (k * den) + den)
    (hodd : k % 2 = 1 → 2 * (k * den) < 2 * num + den ∧ 2 * num < 2 * (k * den) + den) :
    nearestEven num den = k := by
  have hdiv := Nat.div_add_mod num den
  have hmod := Nat.mod_lt num hden
  rcases Nat.lt_or_ge num (k * den) with hlt | hge
  · -- the quotient is below `k`, so it is rounded up
    obtain ⟨j, rfl⟩ : ∃ j, k = j + 1 := ⟨k - 1, by rcases k with _ | k <;> simp_all⟩
    have hsucc : (j + 1) * den = j * den + den := Nat.succ_mul j den
    rw [hsucc] at hlt hlow hhigh hodd
    have hquotient : num / den = j := by
      rw [Nat.div_eq_iff hden]
      constructor <;> omega
    rw [hquotient, Nat.mul_comm den j] at hdiv
    unfold nearestEven
    dsimp only
    rw [hquotient]
    split_ifs <;> omega
  · have hquotient : num / den = k := by
      rw [Nat.div_eq_iff hden]
      constructor <;> omega
    rw [hquotient, Nat.mul_comm den k] at hdiv
    unfold nearestEven
    dsimp only
    rw [hquotient]
    split_ifs <;> omega

/-! ## Numbers of the format -/

/-- The number of steps is in range and has no more than 53 significant bits. -/
structure IsStored (steps : Nat) : Prop where
  inRange : steps < tooLarge
  dvd : 2 ^ excess steps ∣ steps

theorem lt_two_pow_excess (n : Nat) : n < 2 ^ (53 + excess n) :=
  Nat.lt_log2_self.trans_le (Nat.pow_le_pow_right (by decide) (by unfold excess; omega))

theorem two_pow_excess_le {n : Nat} (h : 0 < excess n) : 2 ^ (52 + excess n) ≤ n := by
  have hne : n ≠ 0 := by
    rintro rfl
    simp [excess] at h
  refine (Nat.pow_le_pow_right (by decide) ?_).trans (Nat.log2_self_le hne)
  unfold excess at h ⊢
  omega

theorem excess_eq {n e : Nat} (hlow : e = 0 ∨ 2 ^ (52 + e) ≤ n) (hhigh : n < 2 ^ (53 + e)) : excess n = e := by
  rcases Nat.eq_zero_or_pos n with rfl | hpos
  · rcases hlow with rfl | hlow
    · simp [excess]
    · exact absurd hlow (Nat.not_le.mpr (Nat.pow_pos (by decide)))
  · have hlt : n.log2 < 53 + e := (Nat.log2_lt hpos.ne').mpr hhigh
    unfold excess
    rcases hlow with rfl | hlow
    · omega
    · have hle : 52 + e ≤ n.log2 := (Nat.le_log2 hpos.ne').mpr hlow
      omega

theorem roundSteps_of_isStored {steps : Nat} (h : IsStored steps) : roundSteps steps 1 = steps := by
  have hgrid : 0 < 1 * 2 ^ excess steps := Nat.mul_pos Nat.one_pos (Nat.pow_pos (by decide))
  have hdiv : steps / 2 ^ excess steps * (1 * 2 ^ excess steps) = steps := by
    rw [Nat.one_mul, Nat.div_mul_cancel h.dvd]
  have hnearest : nearestEven steps (1 * 2 ^ excess steps) = steps / 2 ^ excess steps :=
    Nat.le_antisymm (nearestEven_le hgrid hdiv.ge) (le_nearestEven hgrid hdiv.le)
  rw [roundSteps, Nat.div_one, Nat.pow_eq, hnearest, Nat.div_mul_cancel h.dvd]

theorem two_pow_excess_dvd_roundSteps (num : Nat) {den : Nat} (hden : 0 < den) :
    2 ^ excess (roundSteps num den) ∣ roundSteps num den := by
  set e := excess (num / den) with he
  have hle : roundSteps num den ≤ 2 ^ (53 + e) := roundSteps_le hden
  rcases Nat.lt_or_eq_of_le hle with hlt | heq
  · refine (Nat.pow_dvd_pow 2 ?_).trans ⟨nearestEven num (den * 2 ^ e), Nat.mul_comm _ _⟩
    by_contra hgt
    have hbig : 2 ^ (52 + excess (roundSteps num den)) ≤ roundSteps num den := two_pow_excess_le (by omega)
    have hpow : 2 ^ (53 + e) ≤ 2 ^ (52 + excess (roundSteps num den)) := Nat.pow_le_pow_right (by decide) (by omega)
    omega
  · have hexcess : excess (2 ^ (53 + e)) = e + 1 :=
      excess_eq (.inr (Nat.pow_le_pow_right (by decide) (by omega))) (Nat.pow_lt_pow_right (by decide) (by omega))
    rw [heq, hexcess]
    exact Nat.pow_dvd_pow 2 (by omega)

/-- What is rounded and in range is a number of the format. -/
theorem isStored_roundSteps {num den : Nat} (hden : 0 < den) (h : roundSteps num den < tooLarge) :
    IsStored (roundSteps num den) :=
  ⟨h, two_pow_excess_dvd_roundSteps num hden⟩

/-! ## Neighbourhoods -/

/-- A power of two below which the steps are half as wide as above it. -/
def IsHalved (steps : Nat) : Prop := 0 < excess steps ∧ steps = 2 ^ (52 + excess steps)

theorem log2_eq_of_excess_pos {steps : Nat} (h : 0 < excess steps) : steps.log2 = 52 + excess steps := by
  unfold excess at h ⊢
  omega

theorem neighbourhood_low_of_isHalved {steps : Nat} (h : IsHalved steps) :
    (neighbourhood steps).1 = 4 * steps - 2 ^ excess steps := by
  obtain ⟨he, hpower⟩ := h
  have hhalf : 2 * (2 ^ excess steps / 2) = 2 ^ excess steps := Nat.mul_div_cancel' (dvd_pow_self 2 he.ne')
  have hwide : 1 < 2 ^ excess steps := Nat.one_lt_pow he.ne' (by decide)
  simp only [neighbourhood, Nat.pow_eq, log2_eq_of_excess_pos he, ← hpower, hwide, decide_true, Bool.and_true,
    reduceIte, hhalf]

theorem neighbourhood_low_of_not_isHalved {steps : Nat} (h : ¬ IsHalved steps) :
    (neighbourhood steps).1 = 4 * steps - 2 * 2 ^ excess steps := by
  simp only [neighbourhood, Nat.pow_eq, Bool.and_eq_true, decide_eq_true_eq]
  rw [if_neg]
  rintro ⟨hpower, hwide⟩
  have he : 0 < excess steps := by
    by_contra hzero
    simp [Nat.eq_zero_of_not_pos hzero] at hwide
  rw [log2_eq_of_excess_pos he] at hpower
  exact h ⟨he, hpower⟩

theorem neighbourhood_high (steps : Nat) : (neighbourhood steps).2.1 = 4 * steps + 2 * 2 ^ excess steps := rfl

theorem neighbourhood_ends_eq_false {steps m : Nat} (hm : steps = m * 2 ^ excess steps) (hodd : m % 2 = 1) :
    (neighbourhood steps).2.2 = false := by
  have hquotient : steps / 2 ^ excess steps = m := Nat.div_eq_of_eq_mul_left (Nat.pow_pos (by decide)) hm
  simp [neighbourhood, hquotient, hodd]

/-- Other numbers are above the power of two of their steps. -/
theorem two_pow_lt_of_not_isHalved {steps m : Nat} (hm : steps = m * 2 ^ excess steps) (he : 0 < excess steps)
    (h : ¬ IsHalved steps) : 2 ^ 52 < m := by
  have hne : m ≠ 2 ^ 52 := by
    rintro rfl
    exact h ⟨he, hm.trans (Nat.pow_add _ _ _).symm⟩
  refine Nat.lt_of_le_of_ne (Nat.le_of_mul_le_mul_right ?_ (Nat.two_pow_pos (excess steps))) hne.symm
  rw [← hm, ← Nat.pow_add]
  exact two_pow_excess_le he

/-- The quotient, in steps, is one of the values around `steps` that round to it. -/
structure IsAround (steps num den : Nat) : Prop where
  low : (neighbourhood steps).1 * den ≤ 4 * num
  high : 4 * num ≤ (neighbourhood steps).2.1 * den
  ends : (neighbourhood steps).2.2 = false →
    (neighbourhood steps).1 * den < 4 * num ∧ 4 * num < (neighbourhood steps).2.1 * den

theorem excess_div_eq {num den e : Nat} (hden : 0 < den) (hlow : e = 0 ∨ 2 ^ (52 + e) * den ≤ num)
    (hhigh : num < 2 ^ (53 + e) * den) : excess (num / den) = e :=
  excess_eq (hlow.imp_right (Nat.le_div_iff_mul_le hden).mpr) ((Nat.div_lt_iff_lt_mul hden).mpr hhigh)

theorem roundSteps_eq_mul {num den k e : Nat} (hden : 0 < den) (he : excess (num / den) = e)
    (hlow : 2 * (k * (den * 2 ^ e)) ≤ 2 * num + den * 2 ^ e) (hhigh : 2 * num ≤ 2 * (k * (den * 2 ^ e)) + den * 2 ^ e)
    (hodd : k % 2 = 1 →
      2 * (k * (den * 2 ^ e)) < 2 * num + den * 2 ^ e ∧ 2 * num < 2 * (k * (den * 2 ^ e)) + den * 2 ^ e) :
    roundSteps num den = k * 2 ^ e := by
  rw [roundSteps, he]
  exact congrArg (· * 2 ^ e) (nearestEven_eq (Nat.mul_pos hden (Nat.pow_pos (by decide))) hlow hhigh hodd)

/-- Below a power of two the steps are half as wide as above it. -/
theorem roundSteps_of_halved {steps num den : Nat} (hden : 0 < den) (he : 0 < excess steps)
    (hpower : steps = 2 ^ (52 + excess steps)) (hlt : num < steps * den)
    (hlow : 4 * (steps * den) ≤ 4 * num + den * 2 ^ excess steps) : roundSteps num den = steps := by
  obtain ⟨e, hexcess⟩ : ∃ e, excess steps = e + 1 := ⟨excess steps - 1, by omega⟩
  rw [hexcess] at hpower hlow
  have hsteps : steps * den = 2 ^ 53 * (den * 2 ^ e) := by
    rw [hpower]
    ring
  have hpow : den * 2 ^ (e + 1) = 2 * (den * 2 ^ e) := by ring
  rw [hsteps, hpow] at hlow
  rw [hsteps] at hlt
  have hround : roundSteps num den = 2 ^ 53 * 2 ^ e := by
    refine roundSteps_eq_mul hden (excess_div_eq hden ?_ ?_) (by omega) (by omega) (by omega)
    · right
      have hhalf : 2 ^ (52 + e) * den = 2 ^ 52 * (den * 2 ^ e) := by ring
      rw [hhalf]
      omega
    · calc num < 2 ^ 53 * (den * 2 ^ e) := hlt
        _ = 2 ^ (53 + e) * den := by ring
  rw [hround, hpower]
  ring

theorem roundSteps_of_even {steps num den m : Nat} (hden : 0 < den) (hm : steps = m * 2 ^ excess steps)
    (hlow : 2 * (m * (den * 2 ^ excess steps)) ≤ 2 * num + den * 2 ^ excess steps)
    (hhigh : 2 * num ≤ 2 * (m * (den * 2 ^ excess steps)) + den * 2 ^ excess steps)
    (hodd : m % 2 = 1 → 2 * (m * (den * 2 ^ excess steps)) < 2 * num + den * 2 ^ excess steps ∧
      2 * num < 2 * (m * (den * 2 ^ excess steps)) + den * 2 ^ excess steps)
    (hleast : excess steps = 0 ∨ 2 ^ 52 * (den * 2 ^ excess steps) ≤ num) : roundSteps num den = steps := by
  have hlt : m < 2 ^ 53 := by
    have hbound := lt_two_pow_excess steps
    rw [Nat.pow_add] at hbound
    exact Nat.lt_of_mul_lt_mul_right (hm.symm.trans_lt hbound)
  have hmost : (m + 1) * (den * 2 ^ excess steps) ≤ 2 ^ 53 * (den * 2 ^ excess steps) := Nat.mul_le_mul_right _ hlt
  have hgrid : 0 < den * 2 ^ excess steps := Nat.mul_pos hden (Nat.pow_pos (by decide))
  rw [Nat.succ_mul] at hmost
  have hround : roundSteps num den = m * 2 ^ excess steps := by
    refine roundSteps_eq_mul hden (excess_div_eq hden ?_ ?_) hlow hhigh hodd
    · refine hleast.imp_right fun h => ?_
      calc 2 ^ (52 + excess steps) * den = 2 ^ 52 * (den * 2 ^ excess steps) := by ring
        _ ≤ num := h
    · calc num < 2 ^ 53 * (den * 2 ^ excess steps) := by omega
        _ = 2 ^ (53 + excess steps) * den := by ring
  rw [hround, ← hm]

theorem roundSteps_of_isAround {steps num den : Nat} (hsteps : 2 ^ excess steps ∣ steps) (hden : 0 < den)
    (h : IsAround steps num den) : roundSteps num den = steps := by
  obtain ⟨m, hm⟩ : ∃ m, steps = m * 2 ^ excess steps := exists_eq_mul_left_of_dvd hsteps
  obtain ⟨hlow, hhigh, hends⟩ := h
  have hproduct : steps * den = m * (den * 2 ^ excess steps) := by
    rw [Nat.mul_comm den, ← Nat.mul_assoc, ← hm]
  have hupper : (neighbourhood steps).2.1 * den =
    4 * (m * (den * 2 ^ excess steps)) + 2 * (den * 2 ^ excess steps) := by
    rw [neighbourhood_high, ← hproduct]
    ring
  have hopen (hodd : m % 2 = 1) := hends (neighbourhood_ends_eq_false hm hodd)
  rw [hupper] at hhigh hopen
  by_cases hhalved : IsHalved steps
  · have hlower : (neighbourhood steps).1 * den = 4 * (steps * den) - den * 2 ^ excess steps := by
      rw [neighbourhood_low_of_isHalved hhalved, Nat.sub_mul, Nat.mul_assoc, Nat.mul_comm den]
    rw [hlower] at hlow
    obtain ⟨he, hpower⟩ := hhalved
    rcases Nat.lt_or_ge num (steps * den) with hlt | hge
    · exact roundSteps_of_halved hden he hpower hlt (by omega)
    · have hleast : 2 ^ 52 * (den * 2 ^ excess steps) ≤ num := by
        calc 2 ^ 52 * (den * 2 ^ excess steps) = 2 ^ (52 + excess steps) * den := by ring
          _ ≤ steps * den := Nat.mul_le_mul_right den (two_pow_excess_le he)
          _ ≤ num := hge
      rw [hproduct] at hge
      exact roundSteps_of_even hden hm (by omega) (by omega) (by omega) (.inr hleast)
  · have hlower : (neighbourhood steps).1 * den =
        4 * (m * (den * 2 ^ excess steps)) - 2 * (den * 2 ^ excess steps) := by
      rw [neighbourhood_low_of_not_isHalved hhalved, ← hproduct, Nat.sub_mul, Nat.mul_assoc, Nat.mul_assoc,
        Nat.mul_comm den]
    rw [hlower] at hlow hopen
    refine roundSteps_of_even hden hm (by omega) (by omega) (by omega) ((Nat.eq_zero_or_pos _).imp_right fun he => ?_)
    have hleast : (2 ^ 52 + 1) * (den * 2 ^ excess steps) ≤ m * (den * 2 ^ excess steps) :=
      Nat.mul_le_mul_right _ (two_pow_lt_of_not_isHalved hm he hhalved)
    rw [Nat.succ_mul] at hleast
    omega

/-! ## The search -/

/-- The decimal is one of the values around `steps`, its ends among them where they belong. -/
def readsBack (steps : Nat) (exponent : Int) (digits : Nat) : Bool :=
  let (low, high, closed) := neighbourhood steps
  let up := Nat.pow 10 exponent.toNat * (4 * one)
  let down := Nat.pow 10 (-exponent).toNat
  if closed then low * down ≤ digits * up && digits * up ≤ high * down
  else low * down < digits * up && digits * up < high * down

theorem isAround_of_readsBack {steps digits : Nat} {exponent : Int} (h : readsBack steps exponent digits = true) :
    IsAround steps (one * (digits * 10 ^ exponent.toNat)) (10 ^ (-exponent).toNat) := by
  have hscale : digits * (10 ^ exponent.toNat * (4 * one)) = 4 * (one * (digits * 10 ^ exponent.toNat)) := by ring
  simp only [readsBack, Nat.pow_eq, hscale] at h
  split at h
  · rename_i hclosed
    simp only [Bool.and_eq_true, decide_eq_true_eq] at h
    exact ⟨h.1, h.2, fun hopen => absurd hclosed (by simp [hopen])⟩
  · simp only [Bool.and_eq_true, decide_eq_true_eq] at h
    exact ⟨h.1.le, h.2.le, fun _ => h⟩

/-- The grid is asked for the two decimals next to `steps`. -/
theorem exists_onGrid?_eq (steps : Nat) (exponent : Int) : ∃ ceilingNearer : Bool,
    let floor := 4 * steps * 10 ^ (-exponent).toNat / (10 ^ exponent.toNat * (4 * one))
    onGrid? steps exponent =
      if readsBack steps exponent floor && !(readsBack steps exponent (floor + 1) && ceilingNearer) then some floor
      else if readsBack steps exponent (floor + 1) then some (floor + 1)
      else none :=
  ⟨_, rfl⟩

theorem readsBack_of_onGrid? {steps digits : Nat} {exponent : Int} (h : onGrid? steps exponent = some digits) :
    readsBack steps exponent digits = true := by
  obtain ⟨ceilingNearer, heq⟩ := exists_onGrid?_eq steps exponent
  rw [h] at heq
  dsimp only at heq
  split_ifs at heq with hfloor hceiling
  · cases heq
    exact (Bool.and_eq_true_iff.mp hfloor).1
  · cases heq
    exact hceiling

theorem one_pos : 0 < one := by decide +kernel

/-- A grid that is no wider than the values below `steps` that round to it holds one of them. -/
theorem isSome_onGrid? {steps : Nat} {exponent : Int}
    (h : (neighbourhood steps).1 * 10 ^ (-exponent).toNat + 10 ^ exponent.toNat * (4 * one) ≤
      4 * steps * 10 ^ (-exponent).toNat) : (onGrid? steps exponent).isSome := by
  obtain ⟨ceilingNearer, heq⟩ := exists_onGrid?_eq steps exponent
  set up := 10 ^ exponent.toNat * (4 * one) with hup
  set down := 10 ^ (-exponent).toNat with hdown
  have hpos : 0 < up := Nat.mul_pos (Nat.pow_pos (by decide)) (Nat.mul_pos (by decide) one_pos)
  have hgrid : 0 < 2 * 2 ^ excess steps := Nat.mul_pos (by decide) (Nat.pow_pos (by decide))
  have hhigh : 4 * steps * down < (neighbourhood steps).2.1 * down :=
    Nat.mul_lt_mul_of_pos_right (Nat.lt_add_of_pos_right hgrid) (Nat.pow_pos (by decide))
  have hdiv := Nat.div_add_mod (4 * steps * down) up
  have hmod := Nat.mod_lt (4 * steps * down) hpos
  rw [Nat.mul_comm] at hdiv
  have hfloor : readsBack steps exponent (4 * steps * down / up) = true := by
    simp only [readsBack, Nat.pow_eq, ← hup, ← hdown]
    have hlow : (neighbourhood steps).1 * down < 4 * steps * down / up * up := by omega
    have hlt : 4 * steps * down / up * up < (neighbourhood steps).2.1 * down :=
      (Nat.div_mul_le_self _ _).trans_lt hhigh
    split
    · simp [hlow.le, hlt.le]
    · simp [hlow, hlt]
  rw [heq, hfloor]
  split_ifs with hrejected hceiling
  · rfl
  · rfl
  · simp [hceiling] at hrejected

theorem onGrid?_searchGrid {steps fuel i : Nat} {exponent : Int} (hi : i < fuel)
    (h : (onGrid? steps (exponent - i)).isSome) :
    onGrid? steps (searchGrid steps fuel exponent).2 = some (searchGrid steps fuel exponent).1 := by
  induction fuel generalizing i exponent with
  | zero => exact absurd hi (Nat.not_lt_zero i)
  | succ fuel ih =>
    unfold searchGrid
    cases hgrid : onGrid? steps exponent with
    | some digits => exact hgrid
    | none =>
      cases i with
      | zero => simp [hgrid] at h
      | succ i =>
        refine ih (Nat.lt_of_succ_lt_succ hi) (i := i) ?_
        rwa [Nat.cast_succ, Int.add_comm, ← Int.sub_sub] at h

/-! ## Powers of two and of ten -/

theorem ten_pow_le (k : Nat) : 10 ^ k ≤ 2 ^ (10 * (k / 3) + 4 * (k % 3)) := by
  calc 10 ^ k = (10 ^ 3) ^ (k / 3) * 10 ^ (k % 3) := by rw [← Nat.pow_mul, ← Nat.pow_add, Nat.div_add_mod]
    _ ≤ (2 ^ 10) ^ (k / 3) * (2 ^ 4) ^ (k % 3) :=
      Nat.mul_le_mul (Nat.pow_le_pow_left (by decide) _) (Nat.pow_le_pow_left (by decide) _)
    _ = 2 ^ (10 * (k / 3) + 4 * (k % 3)) := by rw [← Nat.pow_mul, ← Nat.pow_mul, ← Nat.pow_add]

theorem two_pow_le (n : Nat) : 2 ^ n ≤ 10 ^ (28 * (n / 93) + (n % 93 / 3 + 1)) := by
  calc 2 ^ n = (2 ^ 93) ^ (n / 93) * 2 ^ (n % 93) := by rw [← Nat.pow_mul, ← Nat.pow_add, Nat.div_add_mod]
    _ ≤ (10 ^ 28) ^ (n / 93) * (2 ^ 3) ^ (n % 93 / 3 + 1) := by
      refine Nat.mul_le_mul (Nat.pow_le_pow_left (by decide) _) ?_
      rw [← Nat.pow_mul]
      exact Nat.pow_le_pow_right (by decide) (by omega)
    _ ≤ (10 ^ 28) ^ (n / 93) * 10 ^ (n % 93 / 3 + 1) := Nat.mul_le_mul_left _ (Nat.pow_le_pow_left (by decide) _)
    _ = 10 ^ (28 * (n / 93) + (n % 93 / 3 + 1)) := by rw [← Nat.pow_mul, ← Nat.pow_add]

theorem log2_lt_of_lt {n k : Nat} (hn : 0 < n) (h : n < 2 ^ k) : n.log2 < k := (Nat.log2_lt hn.ne').mpr h

theorem four_mul_one : 4 * one = 2 ^ 1076 := by decide +kernel

theorem neighbourhood_low_add_le {steps : Nat} (hpos : 0 < steps) :
    (neighbourhood steps).1 + 2 ^ excess steps ≤ 4 * steps := by
  have hgrid : 2 ^ excess steps ≤ steps :=
    (Nat.pow_le_pow_right (by decide) (Nat.sub_le _ _)).trans (Nat.log2_self_le hpos.ne')
  by_cases hhalved : IsHalved steps
  · rw [neighbourhood_low_of_isHalved hhalved]
    omega
  · rw [neighbourhood_low_of_not_isHalved hhalved]
    omega

theorem isSome_onGrid?_last {steps : Nat} (hpos : 0 < steps) (hrange : steps < tooLarge) :
    (onGrid? steps (startExponent steps - (23 : Nat))).isSome := by
  rw [tooLarge_eq] at hrange
  have hlog : steps.log2 < 2098 := log2_lt_of_lt hpos hrange
  apply isSome_onGrid?
  set exponent := startExponent steps - (23 : Nat) with hexponent
  have hfine : 10 ^ exponent.toNat * 2 ^ 1076 ≤ 2 ^ excess steps * 10 ^ (-exponent).toNat := by
    unfold startExponent at hexponent
    rcases Int.lt_or_le exponent 0 with hneg | hnonneg
    · have hzero : exponent.toNat = 0 := by omega
      rw [hzero, Nat.pow_zero, Nat.one_mul]
      calc 2 ^ 1076 ≤ 2 ^ (excess steps + (1076 - excess steps)) := Nat.pow_le_pow_right (by decide) (by omega)
        _ = 2 ^ excess steps * 2 ^ (1076 - excess steps) := Nat.pow_add _ _ _
        _ ≤ 2 ^ excess steps * 10 ^ (-exponent).toNat := by
          refine Nat.mul_le_mul_left _ ((two_pow_le _).trans (Nat.pow_le_pow_right (by decide) ?_))
          unfold excess
          omega
    · have hzero : (-exponent).toNat = 0 := by omega
      rw [hzero, Nat.pow_zero, Nat.mul_one]
      calc 10 ^ exponent.toNat * 2 ^ 1076
          ≤ 2 ^ (10 * (exponent.toNat / 3) + 4 * (exponent.toNat % 3)) * 2 ^ 1076 :=
            Nat.mul_le_mul_right _ (ten_pow_le _)
        _ = 2 ^ (10 * (exponent.toNat / 3) + 4 * (exponent.toNat % 3) + 1076) := (Nat.pow_add _ _ _).symm
        _ ≤ 2 ^ excess steps := by
          refine Nat.pow_le_pow_right (by decide) ?_
          unfold excess
          omega
  calc (neighbourhood steps).1 * 10 ^ (-exponent).toNat + 10 ^ exponent.toNat * (4 * one)
      ≤ (neighbourhood steps).1 * 10 ^ (-exponent).toNat + 2 ^ excess steps * 10 ^ (-exponent).toNat := by
        rw [four_mul_one]
        exact Nat.add_le_add_left hfine _
    _ = ((neighbourhood steps).1 + 2 ^ excess steps) * 10 ^ (-exponent).toNat := (Nat.add_mul _ _ _).symm
    _ ≤ 4 * steps * 10 ^ (-exponent).toNat := Nat.mul_le_mul_right _ (neighbourhood_low_add_le hpos)

/-! ## Reading back -/

/-- The shortest digits of a number are read as the number. -/
theorem ofDecimal_shortest (negative : Bool) {steps : Nat} (hpos : 0 < steps) (h : IsStored steps) :
    ofDecimal negative (shortest steps).1 (shortest steps).2 = finite negative steps := by
  have hfound : onGrid? steps (shortest steps).2 = some (shortest steps).1 :=
    onGrid?_searchGrid (i := 23) (by decide) (isSome_onGrid?_last hpos h.inRange)
  have haround := isAround_of_readsBack (readsBack_of_onGrid? hfound)
  rw [ofDecimal_eq_ofRatio, ofRatio, roundSteps_of_isAround h.dvd (Nat.pow_pos (by decide)) haround, ofSteps,
    if_pos h.inRange]

end CommandFlow.Binary64
