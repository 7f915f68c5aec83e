import CommandFlow.Proofs.Value.Representable

/-!
# Integers that are too long

* `Value.IsShort` : an integer that is not too long for a text; `Value.isWritable_int_iff` : these can be written;
  `Value.IsShort.of_mem` : so can what lies between two of them, and `Value.leastLong` is one that cannot;
* `Value.isWritable_of_isRepresentable` : a value that a document can hold can be written.
-/

namespace CommandFlow.Value

/-- The integer has at most as many digits as a text of it may have. -/
def IsShort (i : Int) : Prop := Binary64.decimalLength i.natAbs ≤ Json.digitLimit

instance (i : Int) : Decidable (IsShort i) := inferInstanceAs (Decidable (_ ≤ _))

theorem isShort_iff {i : Int} : IsShort i ↔ i.natAbs < 10 ^ Json.digitLimit :=
  Binary64.decimalLength_le_iff (by decide)

theorem isWritable_int_iff {i : Int} : (int i).isWritable = true ↔ IsShort i := by
  rw [isWritable, decide_eq_true_iff, IsShort]

theorem write_int {i : Int} (h : IsShort i) : (int i).write = .ok (integerText i) :=
  write_of_isWritable (isWritable_int_iff.mpr h)

theorem write_int_of_not_isShort {i : Int} (h : ¬ IsShort i) : (int i).write = .error .tooLong :=
  ifShort_eq_error.mpr ⟨Bool.eq_false_of_not_eq_true (isWritable_int_iff.not.mpr h), rfl⟩

/-- What lies between integers that are not too long is not too long. -/
theorem IsShort.of_mem {least most value : Int} (hleast : IsShort least) (hmost : IsShort most)
    (h : least ≤ value ∧ value ≤ most) : IsShort value := by
  rw [isShort_iff] at *
  omega

/-- The least natural number that is too long: a one and 4300 zeros. -/
@[irreducible] def leastLong : Int := (10 ^ Json.digitLimit : Nat)

theorem ten_pow_le_leastLong {k : Nat} (h : k ≤ Json.digitLimit) : ((10 ^ k : Nat) : Int) ≤ leastLong := by
  rw [leastLong]
  exact Int.ofNat_le.mpr (Nat.pow_le_pow_right (by decide) h)

theorem not_isShort_leastLong : ¬ IsShort leastLong := by
  rw [isShort_iff, leastLong, Int.natAbs_natCast]
  exact lt_irrefl _

mutual

/-- A document holds no integer that is too long. -/
theorem isWritable_of_isRepresentable {v : Value} (h : v.IsRepresentable) : v.isWritable = true :=
  match v, h with
  | .int _, h => isWritable_int_iff.mpr h
  | .list _, h => areWritable_of_areRepresentable h
  | .object _, h => areWritableMembers_of_areRepresentable h.2
  | .null, _ => rfl
  | .bool _, _ => rfl
  | .float _, _ => rfl
  | .text _, _ => rfl

theorem areWritable_of_areRepresentable {items : List Value} (h : AreRepresentable items) : areWritable items = true :=
  match items, h with
  | [], _ => rfl
  | _ :: _, h => Bool.and_eq_true_iff.mpr
      ⟨isWritable_of_isRepresentable h.1, areWritable_of_areRepresentable h.2⟩

theorem areWritableMembers_of_areRepresentable {members : List (String × Value)} (h : AreRepresentableMembers members) :
    areWritableMembers members = true :=
  match members, h with
  | [], _ => rfl
  | _ :: _, h => Bool.and_eq_true_iff.mpr
      ⟨isWritable_of_isRepresentable h.1, areWritableMembers_of_areRepresentable h.2⟩

end

end CommandFlow.Value
