import CommandFlow.Json.Fault
import CommandFlow.Proofs.Entries
import CommandFlow.Proofs.Value.Written

/-!
# Values that a document can hold

* `Value.IsRepresentable` : every number in the value is one of the format or an integer that is not too long, and the
  names of every object differ;
* `Binary64.inFormat_ofRatio` : what is rounded is a number of the format; `Value.inFormat_of_toNumber` : so is the
  number of a representable value; `Value.isRepresentable_ofNumber` : and such a number is a representable value.
-/

namespace CommandFlow

/-! ## Numbers of the format -/

namespace Binary64

theorem isStored_zero : IsStored 0 := by
  have hrange : 0 < tooLarge := by decide +kernel
  exact ⟨hrange, Nat.dvd_zero _⟩

theorem inFormat_ofRatio (negative : Bool) (num : Nat) {den : Nat} (hden : 0 < den) :
    (ofRatio negative num den).InFormat := by
  rw [ofRatio, ofSteps]
  by_cases h : roundSteps (one * num) den < tooLarge
  · rw [if_pos h]
    exact inFormat_finite (isStored_roundSteps hden h) negative
  · rw [if_neg h]
    exact inFormat_of_isFinite_eq_false rfl

theorem inFormat_ofInt (i : Int) : (ofInt i).InFormat := by
  rw [ofInt]
  exact inFormat_ofRatio _ _ Nat.one_pos

theorem inFormat_ofDecimal (negative : Bool) (digits : Nat) (exponent : Int) :
    (ofDecimal negative digits exponent).InFormat := by
  rw [ofDecimal_eq_ofRatio]
  exact inFormat_ofRatio _ _ (Nat.pow_pos (by decide))

theorem decimalLength_le_iff {n k : Nat} (hk : 0 < k) : decimalLength n ≤ k ↔ n < 10 ^ k :=
  Nat.length_toDigits_le_iff (by decide) hk

theorem tooLarge_le_one_mul_ten_pow : tooLarge ≤ one * 10 ^ Json.digitLimit := by
  have hlimit : 310 ≤ Json.digitLimit := by decide
  exact tooLarge_le_one_mul.trans (Nat.mul_le_mul_left one (Nat.pow_le_pow_right (by decide) hlimit))

/-- An integer of the format is not too long. -/
theorem decimalLength_le_of_toInt? {x : Binary64} (hx : x.InFormat) {i : Int} (h : x.toInt? = some i) :
    decimalLength i.natAbs ≤ Json.digitLimit := by
  obtain ⟨negative, n, rfl, rfl⟩ := exists_of_toInt? h
  rw [decimalLength_le_iff (by decide), natAbs_signed]
  exact Nat.lt_of_mul_lt_mul_left (hx.isStored.inRange.trans_le tooLarge_le_one_mul_ten_pow)

end Binary64

/-! ## Values -/

mutual

/-- Numbers with a point are of the format, integers are not too long, and the names of every object differ. -/
def Value.IsRepresentable : Value → Prop
  | .int i => Binary64.decimalLength i.natAbs ≤ Json.digitLimit
  | .float x => x.InFormat
  | .list items => Value.AreRepresentable items
  | .object members => (Entries.names members).Nodup ∧ Value.AreRepresentableMembers members
  | _ => True

def Value.AreRepresentable : List Value → Prop
  | [] => True
  | v :: rest => v.IsRepresentable ∧ Value.AreRepresentable rest

def Value.AreRepresentableMembers : List (String × Value) → Prop
  | [] => True
  | (_, v) :: rest => v.IsRepresentable ∧ Value.AreRepresentableMembers rest

end

namespace Value

theorem areRepresentableMembers_iff {members : List (String × Value)} :
    AreRepresentableMembers members ↔ ∀ member ∈ members, member.2.IsRepresentable := by
  induction members with
  | nil => simp [AreRepresentableMembers]
  | cons member members ih =>
    obtain ⟨name, v⟩ := member
    simp [AreRepresentableMembers, ih]

theorem inFormat_of_numberOfInt {i : Int} {x : Binary64} (h : numberOfInt i = .ok x) : x.InFormat := by
  rw [numberOfInt] at h
  cases hfinite : (Binary64.ofInt i).isFinite with
  | false => simp [hfinite] at h
  | true =>
    simp only [hfinite, reduceIte, Except.ok.injEq] at h
    exact h ▸ Binary64.inFormat_ofInt i

theorem inFormat_of_numberOfText {cs : List Char} {x : Binary64} (h : numberOfText cs = .ok x) : x.InFormat := by
  unfold numberOfText at h
  split at h
  · obtain rfl := Except.ok.inj h
    exact Binary64.inFormat_finite Binary64.isStored_zero false
  split at h
  · obtain rfl := Except.ok.inj h
    exact Binary64.inFormat_ofDecimal _ _ _
  split at h
  · exact inFormat_of_numberOfInt h
  split_ifs at h <;>
  · obtain rfl := Except.ok.inj h
    exact Binary64.inFormat_of_isFinite_eq_false rfl

theorem inFormat_of_toNumber {v : Value} (hv : v.IsRepresentable) {x : Binary64} (h : v.toNumber = .ok x) :
    x.InFormat := by
  cases v with
  | int i =>
    rw [toNumber] at h
    exact inFormat_of_numberOfInt h
  | text s =>
    rw [toNumber] at h
    exact inFormat_of_numberOfText h
  | bool b =>
    obtain rfl := Except.ok.inj h
    exact Binary64.inFormat_ofInt _
  | float y =>
    obtain rfl := Except.ok.inj h
    exact hv
  | _ =>
    obtain rfl := Except.ok.inj h
    exact Binary64.inFormat_of_isFinite_eq_false rfl

theorem isRepresentable_ofNumber {x : Binary64} (hx : x.InFormat) : (ofNumber x).IsRepresentable := by
  unfold ofNumber
  split
  · rename_i i hi
    exact Binary64.decimalLength_le_of_toInt? hx hi
  · exact hx

end Value

end CommandFlow
