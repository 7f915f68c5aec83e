import CommandFlow.Proofs.Binary64.Integer
import CommandFlow.Proofs.Text.Numeral

/-!
# Values that hold an integer

* `Value.Holds` : the value is an integer, or a text that writes one; `Value.Holds.exists_toNumber` : its number is that
  integer, if it is small;
* `Text.IsNumber` : the texts that are some number; `Value.toNumber_text_eq_nan_iff` : all others but the blank ones are
  not-a-number.
-/

namespace CommandFlow

theorem Binary64.isFinite_of_toInt? {x : Binary64} {i : Int} (h : x.toInt? = some i) : x.isFinite = true := by
  obtain ⟨negative, n, rfl, -⟩ := exists_of_toInt? h
  rfl

/-! ## Integers -/

namespace Value

open Text

/-- The integer itself, or a text that writes it, with blanks around it. -/
inductive Holds : Value → Int → Prop where
  | int (i : Int) : Holds (.int i) i
  | text {before after cs : List Char} {i : Int} (hbefore : ∀ c ∈ before, Text.isBlank c = true)
      (hafter : ∀ c ∈ after, Text.isBlank c = true) (hcs : WritesInteger cs i) :
      Holds (.text (String.ofList (before ++ (cs ++ after)))) i

theorem exists_numberOfInt {i : Int} (hi : Binary64.IsSmall i) :
    ∃ x, numberOfInt i = .ok x ∧ x.toInt? = some i := by
  have hnumber := Binary64.toInt?_ofInt_of_isSmall hi
  refine ⟨.ofInt i, ?_, hnumber⟩
  rw [numberOfInt, Binary64.isFinite_of_toInt? hnumber]
  rfl

theorem exists_numberOfText {cs : List Char} {i : Int} (h : WritesInteger cs i) (hi : Binary64.IsSmall i) :
    ∃ x, numberOfText cs = .ok x ∧ x.toInt? = some i := by
  cases h with
  | @decimal sign digits ds hsign hdigits hne =>
    have hread := read?_whole hsign hdigits .none hne
    have hds : ds ≠ [] := hne ∘ hdigits.eq_nil_iff.mpr
    rw [List.append_nil, Numeral.ofParts?, if_neg (by simp [hds])] at hread
    refine ⟨.ofRatio (sign = ['-']) (ofDigits 10 ds) 1, ?_, ?_⟩
    · rw [numberOfText, if_neg (by simp [hne]), hread]
      simp [readExponent?, Binary64.ofNumeral, Binary64.ofDecimal_zero_power]
    · have hsmall : ofDigits 10 ds ≤ 2 ^ 53 := by
        rw [Binary64.IsSmall] at hi
        exact (Binary64.natAbs_signed _ _).symm.trans_le hi
      exact Binary64.toInt?_ofRatio _ hsmall
  | @hexadecimal mark digits ds hmark hdigits hne =>
    obtain ⟨x, hnumber, hx⟩ := exists_numberOfInt hi
    have hread := readHex?_of_hasValues hmark hdigits hne
    refine ⟨x, ?_, hx⟩
    rw [numberOfText, if_neg (by simp), numeral_read?_of_readHex? hread, hread]
    exact hnumber

/-- The number of a value that holds a small integer is that integer. -/
theorem Holds.exists_toNumber {v : Value} {i : Int} (h : v.Holds i) (hi : Binary64.IsSmall i) :
    ∃ x, v.toNumber = .ok x ∧ x.toInt? = some i := by
  cases h with
  | int =>
    rw [toNumber]
    exact exists_numberOfInt hi
  | text hbefore hafter hcs =>
    have hstrip := stripChars_eq_self fun c hc => (hcs.isBlank_eq_false hc).1
    rw [toNumber, String.toList_ofList, stripChars_blanks hbefore hafter, hstrip]
    exact exists_numberOfText hcs hi

end Value

/-! ## Other texts -/

def Text.infinityWords : List (List Char) := ["Infinity".toList, "+Infinity".toList, "-Infinity".toList]

/-- The characters are a numeral, a hexadecimal one, or a word for an infinity. -/
def Text.IsNumber (cs : List Char) : Prop := IsNumeral cs ∨ IsHexadecimal cs ∨ cs ∈ infinityWords

theorem Binary64.ofRatio_ne_nan (negative : Bool) (num den : Nat) : ofRatio negative num den ≠ nan := by
  rw [ofRatio, ofSteps]
  split <;> simp

namespace Value

open Text

theorem numberOfInt_ne_nan (i : Int) : numberOfInt i ≠ .ok .nan := by
  rw [numberOfInt]
  split
  · exact fun h => Binary64.ofRatio_ne_nan _ _ _ (Except.ok.inj h)
  · simp

/-- Not-a-number is the number of exactly those texts that are neither blank nor any number. -/
theorem numberOfText_eq_nan_iff (cs : List Char) : numberOfText cs = .ok .nan ↔ cs ≠ [] ∧ ¬ IsNumber cs := by
  rw [IsNumber, ← isNumeral_iff, ← isSome_readHex?_iff, isNumeral, numberOfText]
  cases cs with
  | nil => simp [Binary64.zero]
  | cons c rest =>
    rw [if_neg (by simp)]
    cases hnumeral : Numeral.read? (c :: rest) with
    | some n =>
      have hne : Binary64.ofNumeral n ≠ .nan := by
        rw [Binary64.ofNumeral, Binary64.ofDecimal_eq_ofRatio]
        exact Binary64.ofRatio_ne_nan _ _ _
      simp [hne]
    | none =>
      cases hhex : readHex? (c :: rest) with
      | some n => simpa using numberOfInt_ne_nan n
      | none =>
        simp only [infinityWords, List.mem_cons, List.not_mem_nil, or_false]
        split_ifs with hplus hminus
        · simp only [Bool.or_eq_true, decide_eq_true_eq] at hplus
          tauto
        · simp [hminus]
        · simp_all

/-- Not-a-number is the number of exactly those texts that are neither blank nor any number. -/
theorem toNumber_text_eq_nan_iff (s : String) :
    (text s).toNumber = .ok .nan ↔ stripChars s.toList ≠ [] ∧ ¬ IsNumber (stripChars s.toList) :=
  numberOfText_eq_nan_iff _

end Value

end CommandFlow
