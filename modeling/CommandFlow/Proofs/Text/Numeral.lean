import CommandFlow.Proofs.Text.Blank
import CommandFlow.Text.Numeral
import Mathlib.Data.List.Forall2

/-!
# Texts that are numbers

* `Text.HasValues` : a row of characters and the values of its digits; `Text.takeDigits_eq_iff` : what is taken from the
  front of a text is the longest such row;
* `Text.IsNumeral` : a sign, digits with a point, and an exponent; `Text.isNumeral_iff` : these are the texts that are
  read as a numeral; `Text.IsHexadecimal`, `Text.isSome_readHex?_iff` : and those that are read as a hexadecimal one;
* `Text.WritesInteger` : the texts that write an integer; there are no blanks in them.
-/

namespace CommandFlow.Text

/-! ## Rows of digits -/

/-- The characters are digits, and have the values. -/
def HasValues (value? : Char → Option Nat) (cs : List Char) (ds : List Nat) : Prop :=
  List.Forall₂ (fun c d => value? c = some d) cs ds

theorem mapM_eq_some_iff {value? : Char → Option Nat} {cs : List Char} {ds : List Nat} :
    cs.mapM value? = some ds ↔ HasValues value? cs ds := by
  unfold HasValues
  induction cs generalizing ds with
  | nil => simp [eq_comm]
  | cons c cs ih =>
    rw [List.mapM_cons, List.forall₂_cons_left_iff]
    constructor
    · intro h
      obtain ⟨d, hd, hrest⟩ := Option.bind_eq_some_iff.mp h
      obtain ⟨es, hes, heq⟩ := Option.bind_eq_some_iff.mp hrest
      exact ⟨d, es, hd, ih.mp hes, (Option.some.inj heq).symm⟩
    · rintro ⟨d, es, hd, hes, rfl⟩
      rw [hd, ih.mpr hes]
      rfl

theorem HasValues.eq_nil_iff {value? : Char → Option Nat} {cs : List Char} {ds : List Nat}
    (h : HasValues value? cs ds) :
    cs = [] ↔ ds = [] := by
  rw [← List.length_eq_zero_iff, ← List.length_eq_zero_iff, List.Forall₂.length_eq h]

/-- Every character is a digit exactly if the row has values. -/
theorem exists_hasValues_iff {value? : Char → Option Nat} {cs : List Char} :
    (∃ ds, HasValues value? cs ds) ↔ ∀ c ∈ cs, (value? c).isSome = true := by
  unfold HasValues
  induction cs with
  | nil => simp
  | cons c cs ih =>
    rw [List.forall_mem_cons, ← ih, Option.isSome_iff_exists]
    simp only [List.forall₂_cons_left_iff]
    constructor
    · rintro ⟨_, d, ds, hd, hds, -⟩
      exact ⟨⟨d, hd⟩, ds, hds⟩
    · rintro ⟨⟨d, hd⟩, ds, hds⟩
      exact ⟨_, d, ds, hd, hds, rfl⟩

theorem takeDigits_cons_of_some {c : Char} {d : Nat} (h : digitValue? c = some d) (cs : List Char) :
    takeDigits (c :: cs) = (d :: (takeDigits cs).1, (takeDigits cs).2) := by
  rw [takeDigits, h]

theorem takeDigits_cons_of_none {c : Char} (h : digitValue? c = none) (cs : List Char) :
    takeDigits (c :: cs) = ([], c :: cs) := by
  rw [takeDigits, h]

/-- What is taken from the front of a text is a row of digits before something that is none. -/
theorem takeDigits_eq_iff {cs rest : List Char} {ds : List Nat} :
    takeDigits cs = (ds, rest) ↔
      ∃ taken, HasValues digitValue? taken ds ∧ cs = taken ++ rest ∧ ∀ c ∈ rest.head?, digitValue? c = none := by
  constructor
  · intro h
    induction cs generalizing ds with
    | nil =>
      cases h
      exact ⟨[], .nil, rfl, by simp⟩
    | cons c cs ih =>
      cases hvalue : digitValue? c with
      | none =>
        rw [takeDigits_cons_of_none hvalue] at h
        cases h
        exact ⟨[], .nil, rfl, by simpa using hvalue⟩
      | some d =>
        rw [takeDigits_cons_of_some hvalue] at h
        cases h
        obtain ⟨taken, htaken, heq, hrest⟩ := ih rfl
        exact ⟨c :: taken, .cons hvalue htaken, congrArg (c :: ·) heq, hrest⟩
  · rintro ⟨taken, htaken, rfl, hrest⟩
    unfold HasValues at htaken
    induction htaken with
    | nil =>
      cases rest with
      | nil => rfl
      | cons c rest => exact takeDigits_cons_of_none (hrest c rfl) rest
    | cons hvalue _ ih => rw [List.cons_append, takeDigits_cons_of_some hvalue, ih]

theorem takeDigits_of_hasValues {cs : List Char} {ds : List Nat} (h : HasValues digitValue? cs ds) :
    takeDigits cs = (ds, []) :=
  takeDigits_eq_iff.mpr ⟨cs, h, (List.append_nil cs).symm, by simp⟩

/-! ## Numerals -/

/-- A sign, or none. -/
inductive IsSign : List Char → Prop where
  | none : IsSign []
  | plus : IsSign ['+']
  | minus : IsSign ['-']

/-- Digits, and maybe a point before, between or after them. -/
inductive IsMantissa : List Char → Prop where
  | whole {digits : List Char} (hdigits : ∀ c ∈ digits, isDigit c = true) (hne : digits ≠ []) : IsMantissa digits
  | pointed {digits fraction : List Char} (hdigits : ∀ c ∈ digits, isDigit c = true)
      (hfraction : ∀ c ∈ fraction, isDigit c = true) (hne : digits ≠ [] ∨ fraction ≠ []) :
      IsMantissa (digits ++ '.' :: fraction)

/-- A mark, a sign where wanted, and digits; or nothing. -/
inductive IsExponent : List Char → Prop where
  | none : IsExponent []
  | some {mark : Char} {sign digits : List Char} (hmark : mark = 'e' ∨ mark = 'E') (hsign : IsSign sign)
      (hdigits : ∀ c ∈ digits, isDigit c = true) (hne : digits ≠ []) : IsExponent (mark :: (sign ++ digits))

/-- A numeral, with digits of any script. -/
def IsNumeral (cs : List Char) : Prop :=
  ∃ sign mantissa exponent, IsSign sign ∧ IsMantissa mantissa ∧ IsExponent exponent ∧
    cs = sign ++ (mantissa ++ exponent)

def IsHexadecimal (cs : List Char) : Prop :=
  ∃ mark digits, (mark = 'x' ∨ mark = 'X') ∧ digits ≠ [] ∧ (∀ c ∈ digits, isHexDigit c = true) ∧
    cs = '0' :: mark :: digits

theorem exists_takeSign (cs : List Char) :
    ∃ sign negative, IsSign sign ∧ takeSign cs = (negative, cs.drop sign.length) ∧
      cs = sign ++ cs.drop sign.length := by
  unfold takeSign
  split
  · exact ⟨['-'], true, .minus, rfl, rfl⟩
  · exact ⟨['+'], false, .plus, rfl, rfl⟩
  · exact ⟨[], false, .none, rfl, rfl⟩

theorem takeSign_append {sign cs : List Char} (hsign : IsSign sign) (hcs : ∀ c ∈ cs.head?, c ≠ '-' ∧ c ≠ '+') :
    takeSign (sign ++ cs) = (decide (sign = ['-']), cs) := by
  cases hsign with
  | none =>
    rw [List.nil_append]
    unfold takeSign
    split
    · exact absurd rfl (hcs '-' rfl).1
    · exact absurd rfl (hcs '+' rfl).2
    · rfl
  | plus => rfl
  | minus => rfl

theorem ne_sign_of_isDigit {c : Char} (h : isDigit c = true) : c ≠ '-' ∧ c ≠ '+' := by
  constructor <;>
  · rintro rfl
    revert h
    decide

theorem head?_ne_sign {digits : List Char} (hdigits : ∀ c ∈ digits, isDigit c = true) (hne : digits ≠ [])
    (rest : List Char) :
    ∀ c ∈ (digits ++ rest).head?, c ≠ '-' ∧ c ≠ '+' := by
  obtain ⟨d, digits, rfl⟩ := List.exists_cons_of_ne_nil hne
  rintro c ⟨⟩
  exact ne_sign_of_isDigit (hdigits d List.mem_cons_self)

/-- An exponent is read from a mark, a sign and digits. -/
theorem isSome_readExponent? {mark : Char} {sign digits : List Char} {ds : List Nat} (hmark : mark = 'e' ∨ mark = 'E')
    (hsign : IsSign sign) (hdigits : HasValues digitValue? digits ds) (hne : digits ≠ []) :
    (readExponent? (mark :: (sign ++ digits))).isSome = true := by
  have hstart := head?_ne_sign (exists_hasValues_iff.mp ⟨ds, hdigits⟩) hne []
  rw [List.append_nil] at hstart
  have hmark' : (mark == 'e' || mark == 'E') = true := by simpa using hmark
  obtain ⟨e, es, rfl⟩ := List.exists_cons_of_ne_nil (hne ∘ hdigits.eq_nil_iff.mpr)
  rw [readExponent?, if_pos hmark', takeSign_append hsign hstart]
  dsimp only
  rw [takeDigits_of_hasValues hdigits]
  rfl

theorem isSome_readExponent?_iff (cs : List Char) : (readExponent? cs).isSome = true ↔ IsExponent cs := by
  constructor
  · intro h
    unfold readExponent? at h
    split at h
    · exact .none
    · rename_i mark rest
      split_ifs at h with hmark
      · obtain ⟨sign, negative, hsign, htake, hrest⟩ := exists_takeSign rest
        rw [htake] at h
        dsimp only at h
        split at h
        · cases h
        · rename_i ds hne hdigits
          obtain ⟨taken, htaken, heq, -⟩ := takeDigits_eq_iff.mp hdigits
          rw [List.append_nil] at heq
          rw [hrest, heq]
          refine .some (by simpa using hmark) hsign (exists_hasValues_iff.mp ⟨ds, htaken⟩) ?_
          rw [ne_eq, htaken.eq_nil_iff]
          rintro rfl
          exact hne rfl
        · cases h
      · cases h
  · intro h
    cases h with
    | none => rfl
    | some hmark hsign hdigits hne =>
      obtain ⟨ds, hvalues⟩ := exists_hasValues_iff.mpr hdigits
      exact isSome_readExponent? hmark hsign hvalues hne

theorem isSome_ofParts?_iff (negative : Bool) (whole fraction : List Nat) (rest : List Char) :
    (Numeral.ofParts? negative whole fraction rest).isSome = true ↔
      (whole ≠ [] ∨ fraction ≠ []) ∧ IsExponent rest := by
  rw [← isSome_readExponent?_iff, Numeral.ofParts?]
  cases whole <;> cases fraction <;> simp

/-- What follows the digits of a numeral begins neither with a digit nor with a point. -/
theorem head?_exponent {cs : List Char} (h : IsExponent cs) {c : Char} (hc : c ∈ cs.head?) :
    digitValue? c = none ∧ c ≠ '.' := by
  cases h with
  | none => cases hc
  | some hmark =>
    cases hc
    rcases hmark with rfl | rfl <;> decide

section
variable {sign digits exponent : List Char} {ds : List Nat} (hsign : IsSign sign)
  (hdigits : HasValues digitValue? digits ds) (hexponent : IsExponent exponent)

include hsign hdigits hexponent

theorem read?_whole (hne : digits ≠ []) :
    Numeral.read? (sign ++ (digits ++ exponent)) = Numeral.ofParts? (sign = ['-']) ds [] exponent := by
  have hstart := head?_ne_sign (exists_hasValues_iff.mp ⟨ds, hdigits⟩) hne exponent
  have hrow : takeDigits (digits ++ exponent) = (ds, exponent) :=
    takeDigits_eq_iff.mpr ⟨digits, hdigits, rfl, fun c hc => (head?_exponent hexponent hc).1⟩
  rw [Numeral.read?, takeSign_append hsign hstart]
  dsimp only
  rw [hrow]
  split
  · rename_i heq
    obtain ⟨-, rfl⟩ := Prod.mk.inj heq
    exact absurd rfl (head?_exponent hexponent (c := '.') rfl).2
  · rename_i heq
    obtain ⟨rfl, rfl⟩ := Prod.mk.inj heq
    rfl

theorem read?_pointed {fraction : List Char} {es : List Nat} (hfraction : HasValues digitValue? fraction es) :
    Numeral.read? (sign ++ (digits ++ '.' :: fraction ++ exponent)) =
      Numeral.ofParts? (sign = ['-']) ds es exponent := by
  have hstart : ∀ c ∈ (digits ++ '.' :: fraction ++ exponent).head?, c ≠ '-' ∧ c ≠ '+' := by
    cases digits with
    | nil =>
      rintro c ⟨⟩
      decide
    | cons d rest =>
      rw [List.append_assoc]
      exact head?_ne_sign (exists_hasValues_iff.mp ⟨ds, hdigits⟩) (List.cons_ne_nil d rest) _
  have hrow : takeDigits (digits ++ '.' :: (fraction ++ exponent)) = (ds, '.' :: (fraction ++ exponent)) :=
    takeDigits_eq_iff.mpr ⟨digits, hdigits, rfl, by rintro c ⟨⟩; decide⟩
  have hrest : takeDigits (fraction ++ exponent) = (es, exponent) :=
    takeDigits_eq_iff.mpr ⟨fraction, hfraction, rfl, fun c hc => (head?_exponent hexponent hc).1⟩
  rw [Numeral.read?, takeSign_append hsign hstart, List.append_assoc, List.cons_append]
  dsimp only
  rw [hrow]
  show Numeral.ofParts? _ ds (takeDigits (fraction ++ exponent)).1 (takeDigits (fraction ++ exponent)).2 = _
  rw [hrest]

end

/-- What is read as a numeral is a sign, digits with a point where wanted, and an exponent. -/
theorem isNumeral_of_read? {cs : List Char} (h : isNumeral cs = true) : IsNumeral cs := by
  unfold isNumeral Numeral.read? at h
  obtain ⟨sign, negative, hsign, htake, hcs⟩ := exists_takeSign cs
  rw [htake] at h
  dsimp only at h
  split at h
  · rename_i whole afterPoint hwhole
    obtain ⟨digits, hdigits, hunsigned, -⟩ := takeDigits_eq_iff.mp hwhole
    cases hfraction : takeDigits afterPoint with
    | mk ds rest =>
      obtain ⟨fraction, hvalues, hafter, -⟩ := takeDigits_eq_iff.mp hfraction
      rw [hfraction] at h
      obtain ⟨hne, hexponent⟩ := (isSome_ofParts?_iff _ _ _ _).mp h
      refine ⟨sign, digits ++ '.' :: fraction, rest, hsign, ?_, hexponent, ?_⟩
      · refine .pointed (exists_hasValues_iff.mp ⟨whole, hdigits⟩) (exists_hasValues_iff.mp ⟨ds, hvalues⟩) ?_
        exact hne.imp (· ∘ hdigits.eq_nil_iff.mp) (· ∘ hvalues.eq_nil_iff.mp)
      · rw [List.append_assoc, List.cons_append, ← hafter, ← hunsigned]
        exact hcs
  · rename_i whole rest _ hwhole
    obtain ⟨digits, hdigits, hunsigned, -⟩ := takeDigits_eq_iff.mp hwhole
    obtain ⟨hne, hexponent⟩ := (isSome_ofParts?_iff _ _ _ _).mp h
    refine ⟨sign, digits, rest, hsign, .whole (exists_hasValues_iff.mp ⟨whole, hdigits⟩) ?_, hexponent, ?_⟩
    · simpa [hdigits.eq_nil_iff] using hne
    · rw [← hunsigned]
      exact hcs

theorem IsNumeral.isNumeral {cs : List Char} (h : IsNumeral cs) : isNumeral cs = true := by
  obtain ⟨sign, mantissa, exponent, hsign, hmantissa, hexponent, rfl⟩ := h
  rw [Text.isNumeral]
  cases hmantissa with
  | whole hdigits hne =>
    obtain ⟨ds, hvalues⟩ := exists_hasValues_iff.mpr hdigits
    rw [read?_whole hsign hvalues hexponent hne, isSome_ofParts?_iff]
    exact ⟨.inl (hne ∘ hvalues.eq_nil_iff.mpr), hexponent⟩
  | pointed hdigits hfraction hne =>
    obtain ⟨ds, hvalues⟩ := exists_hasValues_iff.mpr hdigits
    obtain ⟨es, hafter⟩ := exists_hasValues_iff.mpr hfraction
    rw [read?_pointed hsign hvalues hexponent hafter, isSome_ofParts?_iff]
    exact ⟨hne.imp (· ∘ hvalues.eq_nil_iff.mpr) (· ∘ hafter.eq_nil_iff.mpr), hexponent⟩

theorem isNumeral_iff (cs : List Char) : isNumeral cs = true ↔ IsNumeral cs :=
  ⟨isNumeral_of_read?, IsNumeral.isNumeral⟩

theorem readHex?_of_hasValues {mark : Char} {digits : List Char} {ds : List Nat} (hmark : mark = 'x' ∨ mark = 'X')
    (hdigits : HasValues hexValue? digits ds) (hne : digits ≠ []) :
    readHex? ('0' :: mark :: digits) = some (ofDigits 16 ds) := by
  have hform : ((mark == 'x' || mark == 'X') && !digits.isEmpty) = true := by simpa [hne] using hmark
  rw [readHex?, if_pos hform, mapM_eq_some_iff.mpr hdigits]
  rfl

theorem isSome_readHex?_iff (cs : List Char) : (readHex? cs).isSome = true ↔ IsHexadecimal cs := by
  constructor
  · intro h
    unfold readHex? at h
    split at h
    · rename_i mark digits
      split_ifs at h with hmark
      · rw [Bool.and_eq_true] at hmark
        rw [Option.isSome_map, Option.isSome_iff_exists] at h
        obtain ⟨ds, hds⟩ := h
        exact ⟨mark, digits, by simpa using hmark.1, by simpa using hmark.2,
          exists_hasValues_iff.mp ⟨ds, mapM_eq_some_iff.mp hds⟩, rfl⟩
      · cases h
    · cases h
  · rintro ⟨mark, digits, hmark, hne, hdigits, rfl⟩
    obtain ⟨ds, hds⟩ := exists_hasValues_iff.mpr hdigits
    rw [readHex?_of_hasValues hmark hds hne]
    rfl

/-! ## Integers -/

/-- The characters write an integer: decimal digits of any script, after a sign where wanted, or hexadecimal digits of
either case after their mark. Zeros may lead. -/
inductive WritesInteger : List Char → Int → Prop where
  | decimal {sign digits : List Char} {ds : List Nat} (hsign : IsSign sign) (hdigits : HasValues digitValue? digits ds)
      (hne : digits ≠ []) : WritesInteger (sign ++ digits) (withSign (sign = ['-']) (ofDigits 10 ds))
  | hexadecimal {mark : Char} {digits : List Char} {ds : List Nat} (hmark : mark = 'x' ∨ mark = 'X')
      (hdigits : HasValues hexValue? digits ds) (hne : digits ≠ []) :
      WritesInteger ('0' :: mark :: digits) (ofDigits 16 ds)

theorem isBlank_eq_false_of_isDigit {c : Char} (h : isDigit c = true) : isBlank c = false := by
  have hapart : ∀ start ∈ zeros, ∀ range ∈ blankRanges, range.2 < start ∨ start + 10 ≤ range.1 := by decide +kernel
  rw [isDigit, digitValue?, Option.isSome_map, List.find?_isSome] at h
  obtain ⟨start, hstart, hc⟩ := h
  rw [Bool.and_eq_true, decide_eq_true_eq, decide_eq_true_eq] at hc
  rw [isBlank, inRanges, List.any_eq_false]
  intro range hrange
  have := hapart start hstart range hrange
  simp only [Bool.and_eq_true, decide_eq_true_eq, not_and]
  omega

theorem toNat_of_isHexDigit {c : Char} (h : isHexDigit c = true) :
    0x30 ≤ c.toNat ∧ c.toNat ≤ 0x39 ∨ 0x61 ≤ c.toNat ∧ c.toNat ≤ 0x66 ∨ 0x41 ≤ c.toNat ∧ c.toNat ≤ 0x46 := by
  rw [isHexDigit, hexValue?] at h
  simp only [Bool.and_eq_true, decide_eq_true_eq, Char.le_def, UInt32.le_iff_toNat_le] at h
  split_ifs at h with hdigit hlower hupper
  · exact .inl hdigit
  · exact .inr (.inl hlower)
  · exact .inr (.inr hupper)
  · cases h

theorem isBlank_eq_false_of_isHexDigit {c : Char} (h : isHexDigit c = true) : isBlank c = false := by
  have hrange := toNat_of_isHexDigit h
  simp only [isBlank, inRanges, blankRanges, List.any_cons, List.any_nil, Bool.or_false, Bool.or_eq_false_iff,
    Bool.and_eq_false_iff, decide_eq_false_iff_not]
  omega

/-- What writes an integer has no blanks, and nothing in it opens a placeholder. -/
theorem WritesInteger.isBlank_eq_false {cs : List Char} {i : Int} (h : WritesInteger cs i) {c : Char} (hc : c ∈ cs) :
    isBlank c = false ∧ c ≠ '\x7b' := by
  have hdigit {c : Char} (h : isDigit c = true) : isBlank c = false ∧ c ≠ '\x7b' := by
    refine ⟨isBlank_eq_false_of_isDigit h, ?_⟩
    rintro rfl
    revert h
    decide
  cases h with
  | @decimal sign digits ds hsign hdigits _ =>
    rcases List.mem_append.mp hc with hc | hc
    · cases hsign with
      | none => cases hc
      | plus =>
        obtain rfl := List.mem_singleton.mp hc
        decide
      | minus =>
        obtain rfl := List.mem_singleton.mp hc
        decide
    · exact hdigit (exists_hasValues_iff.mp ⟨ds, hdigits⟩ c hc)
  | @hexadecimal mark digits ds hmark hdigits _ =>
    rcases List.mem_cons.mp hc with rfl | hc
    · decide
    rcases List.mem_cons.mp hc with rfl | hc
    · rcases hmark with rfl | rfl <;> decide
    · have hhex : isHexDigit c = true := exists_hasValues_iff.mp ⟨ds, hdigits⟩ c hc
      refine ⟨isBlank_eq_false_of_isHexDigit hhex, ?_⟩
      rintro rfl
      revert hhex
      decide

end CommandFlow.Text
