import CommandFlow.Proofs.Binary64.Written
import CommandFlow.Proofs.Text.Blank
import CommandFlow.Proofs.Value.Range

/-!
# The number that a value's text writes

* `Binary64.InFormat` : a number that the format holds; `Binary64.toInt?_ofInt` : where it is an integer, it is that
  integer's number, but for the sign of zero;
* `Value.numberOfText_chars` : the number of a spelling; `Value.toNumber_integerText`, `Value.toNumber_floatText` : the
  text of a number is read as that number;
* `Value.writtenNumber`, `Value.toNumber_toText` : so the text of a value is read as its number, but for null and the
  truth values, which write no numeral, and for integers out of range, which are infinite then.
-/

namespace CommandFlow

namespace Binary64

/-- A number that the format holds. -/
def InFormat (x : Binary64) : Prop := ∀ negative steps, x = finite negative steps → IsStored steps

theorem InFormat.isStored {negative : Bool} {steps : Nat} (h : (finite negative steps).InFormat) : IsStored steps :=
  h negative steps rfl

theorem inFormat_finite {steps : Nat} (h : IsStored steps) (negative : Bool) : (finite negative steps).InFormat := by
  rintro _ _ ⟨⟩
  exact h

theorem inFormat_of_isFinite_eq_false {x : Binary64} (h : x.isFinite = false) : x.InFormat := by
  rintro _ _ rfl
  cases h

theorem ofDecimal_zero_power (negative : Bool) (n : Nat) : ofDecimal negative n 0 = ofRatio negative n 1 := by
  rw [ofDecimal_eq_ofRatio]
  exact congrArg (ofRatio negative · 1) (Nat.mul_one n)

theorem natAbs_signed (negative : Bool) (n : Nat) : (signed negative n).natAbs = n := by
  cases negative <;> simp [signed]

theorem exists_of_toInt? {x : Binary64} {i : Int} (h : x.toInt? = some i) :
    ∃ negative n, x = finite negative (one * n) ∧ i = signed negative n := by
  unfold toInt? at h
  split at h
  · rename_i negative steps
    split_ifs at h with hmod
    refine ⟨negative, steps / one, ?_, (Option.some.inj h).symm⟩
    rw [Nat.mul_div_cancel' (Nat.dvd_of_mod_eq_zero hmod)]
  · cases h

theorem toInt?_finite (negative : Bool) (n : Nat) : (finite negative (one * n)).toInt? = some (signed negative n) := by
  rw [toInt?, if_pos (Nat.mul_mod_right one n), Nat.mul_div_cancel_left n one_pos]

/-- An integer of the format is the number of that integer, but for the sign of zero. -/
theorem toInt?_ofInt {x : Binary64} (hx : x.InFormat) {i : Int} (h : x.toInt? = some i) :
    (ofInt i).toInt? = some i := by
  obtain ⟨negative, n, rfl, rfl⟩ := exists_of_toInt? h
  have hstored : roundSteps (one * n) 1 = one * n := roundSteps_of_isStored hx.isStored
  rw [ofInt, natAbs_signed, ofRatio, hstored, ofSteps, if_pos hx.isStored.inRange, toInt?_finite, Option.some.injEq]
  rcases Nat.eq_zero_or_pos n with rfl | hpos
  · cases negative <;> rfl
  · cases negative
    · simp [signed]
    · simp [signed, hpos]

end Binary64

namespace Value

open Text

theorem numberOfText_chars {s : Spelling} (h : s.IsProper) (negative : Bool) :
    numberOfText ((if negative then ['-'] else []) ++ s.chars) = .ok (.ofDecimal negative s.digits s.power) := by
  have hne : ((if negative then ['-'] else []) ++ s.chars).isEmpty = false := by
    obtain ⟨d, rest, -, hchars⟩ := h.exists_chars_eq_cons
    simp [hchars]
  rw [numberOfText, hne, h.read?_chars]
  rfl

theorem toNumber_chars {s : Spelling} (h : s.IsProper) (negative : Bool) :
    (text (String.ofList ((if negative then ['-'] else []) ++ s.chars))).toNumber =
      .ok (.ofDecimal negative s.digits s.power) := by
  rw [toNumber, String.toList_ofList, h.stripChars_chars, numberOfText_chars h]

/-- The text of an integer is read as its number, also out of range. -/
theorem toNumber_integerText (i : Int) : (text (integerText i)).toNumber = .ok (.ofInt i) := by
  obtain ⟨s, hproper, -, htext, hdigits, hpower, -⟩ := exists_spelling_integerText i
  have hread := toNumber_chars hproper (i < 0)
  simp only [decide_eq_true_eq] at hread
  rw [htext, hread, hdigits, hpower, Binary64.ofDecimal_zero_power]
  rfl

theorem toNumber_finite (negative : Bool) {steps : Nat} (h : Binary64.IsStored steps) :
    (text (Binary64.finite negative steps).text).toNumber = .ok (.finite negative steps) := by
  obtain ⟨s, hproper, -, hchars, hnumber⟩ := Binary64.exists_spelling_magnitudeText h
  rw [Binary64.text, hchars, toNumber_chars hproper, hnumber]

theorem toNumber_floatText {x : Binary64} (hx : x.InFormat) :
    (text (floatText x)).toNumber.map ofNumber = .ok (ofNumber x) := by
  unfold floatText
  split
  · rfl
  · rfl
  · rfl
  · rename_i negative steps
    split
    · rename_i i hi
      rw [toNumber_integerText, Except.map, ofNumber, ofNumber, hi, Binary64.toInt?_ofInt hx hi]
    · rw [toNumber_finite negative hx.isStored, Except.map]

/-! ## Other texts -/

/-- A text that opens with a bracket or a brace writes no number. -/
theorem toNumber_of_bracket {c : Char} (hc : c = '[' ∨ c = '\x7b') (cs : List Char) :
    (text (String.ofList (c :: cs))).toNumber = .ok .nan := by
  rw [toNumber, String.toList_ofList, stripChars_cons (by rcases hc with rfl | rfl <;> decide)]
  rcases hc with rfl | rfl <;> rfl

theorem literal_list (items : List Value) :
    literal (list items) = String.ofList ('[' :: ((", ".intercalate (literals items)).toList ++ [']'])) := by
  apply String.toList_inj.mp
  simp [literal]

theorem literal_object (members : List (String × Value)) :
    literal (object members) =
      String.ofList ('\x7b' :: ((", ".intercalate (memberLiterals members)).toList ++ ['\x7d'])) := by
  apply String.toList_inj.mp
  simp [literal]

def writtenNumber : Value → Except IntegerFault Binary64
  | null => .ok .zero
  | bool _ => .ok .nan
  | int i => .ok (.ofInt i)
  | v => v.toNumber

theorem writtenNumber_eq {v : Value} (hnull : v ≠ null) (hbool : ∀ b, v ≠ bool b) (hrange : ¬ v.IsTooLarge) :
    v.writtenNumber = v.toNumber := by
  cases v with
  | null => exact absurd rfl hnull
  | bool b => exact absurd rfl (hbool b)
  | int i =>
    have hfinite : (Binary64.ofInt i).isFinite = true := (Binary64.isFinite_ofInt_iff i).mpr (Nat.not_le.mp hrange)
    simp only [writtenNumber, toNumber, numberOfInt, hfinite, reduceIte]
  | _ => rfl

/-- The value's own floating-point number, if it is one, is one of the format. -/
def InFormat (v : Value) : Prop := ∀ x, v = float x → x.InFormat

/-- The text of a value is read as the number that it writes, but for the sign of zero. -/
theorem toNumber_toText {v : Value} (hv : v.InFormat) :
    (text v.toText).toNumber.map ofNumber = v.writtenNumber.map ofNumber := by
  cases v with
  | null => rfl
  | bool b => cases b <;> rfl
  | int i => exact congrArg (Except.map ofNumber) (toNumber_integerText i)
  | float x => exact toNumber_floatText (hv x rfl)
  | text s => rfl
  | list items =>
    have htext : (list items).toText = literal (list items) := rfl
    rw [htext, literal_list, toNumber_of_bracket (.inl rfl)]
    rfl
  | object members =>
    have htext : (object members).toText = literal (object members) := rfl
    rw [htext, literal_object, toNumber_of_bracket (.inr rfl)]
    rfl

end Value

end CommandFlow
