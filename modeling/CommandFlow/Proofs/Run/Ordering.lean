import CommandFlow.Condition
import CommandFlow.Proofs.Value.Integer

/-!
# Numbers in conditions

* `Operator.compareNumbers_of_ok` : two values are compared as their numbers;
* `Binary64.lt_nan`, `Binary64.nan_lt` : not-a-number is neither less nor greater than anything;
* `Operator.orders_integers` : integers are compared as integers, however they are written, and a text that is no number
  is neither greater nor less than anything.
-/

namespace CommandFlow

namespace Binary64

@[simp] theorem nan_lt (x : Binary64) : nan.lt x = false := by
  cases x <;> rfl

@[simp] theorem lt_nan (x : Binary64) : x.lt nan = false := by
  cases x <;> rfl

end Binary64

namespace Operator

theorem compareNumbers_of_ok (less : Binary64 → Binary64 → Bool) {left right : Value} {x y : Binary64}
    (hleft : left.toNumber = .ok x) (hright : right.toNumber = .ok y) :
    compareNumbers less left right = .ok (less x y) := by
  rw [compareNumbers, hleft, hright]
  rfl

section
variable {a b : Int} (ha : Binary64.IsSmall a) (hb : Binary64.IsSmall b) {v w : Value} (hv : v.Holds a) (hw : w.Holds b)

include ha hb hv hw

theorem greaterThan_holds : greaterThan.holds v w = .ok (decide (a > b)) := by
  obtain ⟨x, hleft, hx⟩ := hv.exists_toNumber ha
  obtain ⟨y, hright, hy⟩ := hw.exists_toNumber hb
  rw [holds, compareNumbers_of_ok _ hleft hright, Binary64.lt_of_toInt? hy hx]

theorem lessThan_holds : lessThan.holds v w = .ok (decide (a < b)) := by
  obtain ⟨x, hleft, hx⟩ := hv.exists_toNumber ha
  obtain ⟨y, hright, hy⟩ := hw.exists_toNumber hb
  rw [holds, compareNumbers_of_ok _ hleft hright, Binary64.lt_of_toInt? hx hy]

end

/-- The values whose number is not-a-number are in no order with any other that has a number. -/
theorem holds_of_nan {operator : Operator} (hoperator : operator ∈ [greaterThan, lessThan]) {v u : Value} {y : Binary64}
    (hv : v.toNumber = .ok .nan) (hu : u.toNumber = .ok y) :
    operator.holds v u = .ok false ∧ operator.holds u v = .ok false := by
  rw [List.mem_pair] at hoperator
  rcases hoperator with rfl | rfl <;> simp [holds, compareNumbers_of_ok _ hv hu, compareNumbers_of_ok _ hu hv]

/-- Integers up to `2⁵³` are compared as integers, whether they are held as such or written, in decimal or hexadecimal
digits. A text that is neither blank nor any number is neither greater nor less than anything that has a number. -/
theorem orders_integers :
    (∀ (a b : Int) (v w : Value), Binary64.IsSmall a → Binary64.IsSmall b → v.Holds a → w.Holds b →
      greaterThan.holds v w = .ok (decide (a > b)) ∧ lessThan.holds v w = .ok (decide (a < b))) ∧
    ∀ (s : String) (u : Value) (y : Binary64), (∃ c ∈ s.toList, Text.isBlank c = false) →
      ¬ Text.IsNumber (Text.stripChars s.toList) → u.toNumber = .ok y →
      ∀ operator ∈ [greaterThan, lessThan],
        operator.holds (.text s) u = .ok false ∧ operator.holds u (.text s) = .ok false := by
  constructor
  · intro a b v w ha hb hv hw
    exact ⟨greaterThan_holds ha hb hv hw, lessThan_holds ha hb hv hw⟩
  · rintro s u y ⟨c, hc, hblank⟩ hnumber hu operator hoperator
    have hstrip : Text.stripChars s.toList ≠ [] := by
      intro hnil
      simp [Text.stripChars_eq_nil_iff.mp hnil c hc] at hblank
    exact holds_of_nan hoperator ((Value.toNumber_text_eq_nan_iff s).mpr ⟨hstrip, hnumber⟩) hu

/-- An integer with blanks, a sign and leading zeros against one in hexadecimal digits; and a text that only begins with
a number against the infinity. -/
theorem orders_integers_spelled :
    let v : Value := .text " -0042\t"
    let w : Value := .text "0X1f"
    Binary64.IsSmall (-42) ∧ Binary64.IsSmall 31 ∧ v.Holds (-42) ∧ w.Holds 31 ∧
      greaterThan.holds v w = .ok false ∧ lessThan.holds v w = .ok true ∧
      (∃ c ∈ "12abc".toList, Text.isBlank c = false) ∧ ¬ Text.IsNumber (Text.stripChars "12abc".toList) ∧
      lessThan.holds (.text "12abc") (.float (.infinite false)) = .ok false := by
  intro v w
  have hv : v.Holds (-42) := by
    have hdigits : Text.HasValues Text.digitValue? "0042".toList [0, 0, 4, 2] := Text.mapM_eq_some_iff.mp (by decide)
    have hbefore : ∀ c ∈ [' '], Text.isBlank c = true := List.all_eq_true.mp rfl
    have hafter : ∀ c ∈ ['\t'], Text.isBlank c = true := List.all_eq_true.mp rfl
    exact .text hbefore hafter (.decimal .minus hdigits (by decide))
  have hw : w.Holds 31 := by
    have hdigits : Text.HasValues Text.hexValue? "1f".toList [1, 15] := Text.mapM_eq_some_iff.mp (by decide)
    have hblank : ∀ c ∈ ([] : List Char), Text.isBlank c = true := by simp
    exact .text hblank hblank (.hexadecimal (.inr rfl) hdigits (by decide))
  have hnumber : ¬ Text.IsNumber (Text.stripChars "12abc".toList) := by
    rw [Text.IsNumber, ← Text.isNumeral_iff, ← Text.isSome_readHex?_iff]
    decide
  have hblank : ∃ c ∈ "12abc".toList, Text.isBlank c = false := ⟨'1', by decide, by decide⟩
  have hsmall : Binary64.IsSmall (-42) ∧ Binary64.IsSmall 31 := by
    constructor <;> norm_num [Binary64.IsSmall]
  obtain ⟨hgreater, hless⟩ := orders_integers.1 _ _ v w hsmall.1 hsmall.2 hv hw
  have hinfinite : (Value.float (.infinite false)).toNumber = .ok (.infinite false) := rfl
  exact ⟨hsmall.1, hsmall.2, hv, hw, hgreater, hless, hblank, hnumber,
    (orders_integers.2 "12abc" _ _ hblank hnumber hinfinite lessThan (by simp)).1⟩

end Operator

end CommandFlow
