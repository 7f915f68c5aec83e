import CommandFlow.Proofs.Binary64.Rounding
import CommandFlow.Proofs.Except
import CommandFlow.Value.Number

/-!
# Integers out of range

* `Binary64.integerBound` : the least integer that is too large; `Binary64.isFinite_ofInt_iff` : an integer has a number
  exactly if it lies below, whatever its sign;
* `Value.IsTooLarge` : such an integer, or a text that writes one in hexadecimal digits;
  `Value.toNumber_eq_error_iff` : these are the values that have no number;
* `Value.isBlank_eq_error_iff` : whether a value is blank has no answer for such an integer alone.
-/

namespace CommandFlow

namespace Binary64

/-- The least integer that is rounded to infinity, `2¹⁰²⁴ - 2⁹⁷⁰`: half way between the greatest number of the format
and the next power of two. -/
def integerBound : Nat := (Nat.pow 2 54 - 1) * Nat.pow 2 970

theorem integerBound_pos : 0 < integerBound := by decide +kernel

theorem roundSteps_pred_integerBound : roundSteps (one * integerBound.pred) 1 < tooLarge := by decide +kernel

theorem roundSteps_integerBound : ¬ roundSteps (one * integerBound) 1 < tooLarge := by decide +kernel

theorem isFinite_ofInt_iff (i : Int) : (ofInt i).isFinite = true ↔ i.natAbs < integerBound := by
  constructor
  · intro h
    by_contra hge
    have hbound : (ofRatio false integerBound 1).isFinite = true :=
      isFinite_ofRatio_of_le Nat.one_pos (Nat.not_lt.mp hge) h
    exact roundSteps_integerBound ((isFinite_ofRatio _ _ _).mp hbound)
  · intro h
    have hlast := (isFinite_ofRatio false _ _).mpr roundSteps_pred_integerBound
    exact isFinite_ofRatio_of_le Nat.one_pos (Nat.le_pred_of_lt h) hlast

end Binary64

namespace Value

theorem numberOfInt_eq_error_iff (i : Int) (e : IntegerFault) :
    numberOfInt i = .error e ↔ e = .tooLarge ∧ Binary64.integerBound ≤ i.natAbs := by
  have hfinite := Binary64.isFinite_ofInt_iff i
  unfold numberOfInt
  dsimp only
  split_ifs with h
  · simp [hfinite.mp h]
  · simpa [eq_comm] using fun _ => Nat.not_lt.mp fun hlt => h (hfinite.mpr hlt)

theorem numeral_read?_of_readHex? {cs : List Char} {n : Nat} (h : Text.readHex? cs = some n) :
    Text.Numeral.read? cs = none := by
  unfold Text.readHex? at h
  split at h
  · rename_i mark digits
    split_ifs at h with hmark
    simp only [Bool.and_eq_true, Bool.or_eq_true, beq_iff_eq] at hmark
    rcases hmark.1 with rfl | rfl
    · rfl
    · rfl
  · cases h

/-- An integer out of range, or a text that writes one in hexadecimal digits. -/
def IsTooLarge : Value → Prop
  | int i => Binary64.integerBound ≤ i.natAbs
  | text s => ∃ n, Text.readHex? (Text.stripChars s.toList) = some n ∧ Binary64.integerBound ≤ n
  | _ => False

theorem numberOfText_eq_error_iff (cs : List Char) (e : IntegerFault) :
    numberOfText cs = .error e ↔ e = .tooLarge ∧ ∃ n, Text.readHex? cs = some n ∧ Binary64.integerBound ≤ n := by
  unfold numberOfText
  cases hhex : Text.readHex? cs with
  | none =>
    simp only [reduceCtorEq, false_and, exists_false, and_false, iff_false]
    split_ifs
    · simp
    all_goals cases Text.Numeral.read? cs <;> simp
  | some n =>
    have hnumeral := numeral_read?_of_readHex? hhex
    have hne : cs.isEmpty = false := by
      cases cs with
      | nil => cases hhex
      | cons c rest => rfl
    simp [hne, hnumeral, numberOfInt_eq_error_iff]

/-- The values that have no number are the integers out of range. -/
theorem toNumber_eq_error_iff (v : Value) (e : IntegerFault) :
    v.toNumber = .error e ↔ e = .tooLarge ∧ v.IsTooLarge := by
  cases v with
  | int i => exact numberOfInt_eq_error_iff i e
  | text s => exact numberOfText_eq_error_iff _ e
  | _ => simp [toNumber, IsTooLarge]

theorem exists_toNumber_of_not_isTooLarge {v : Value} (h : ¬ v.IsTooLarge) : ∃ x, v.toNumber = .ok x := by
  cases hnumber : v.toNumber with
  | ok x => exact ⟨x, rfl⟩
  | error e => exact absurd ((toNumber_eq_error_iff v e).mp hnumber).2 h

theorem isBlank_eq_error_iff (v : Value) (e : IntegerFault) :
    v.isBlank = .error e ↔ e = .tooLarge ∧ ∃ i, v = int i ∧ Binary64.integerBound ≤ i.natAbs := by
  cases v with
  | int i =>
    simp only [isBlank, int.injEq, exists_eq_left']
    split_ifs with hzero
    · subst hzero
      simpa using fun _ => Binary64.integerBound_pos.ne'
    · rw [← numberOfInt_eq_error_iff]
      exact map_eq_error
  | _ => simp [isBlank]

end Value

end CommandFlow
