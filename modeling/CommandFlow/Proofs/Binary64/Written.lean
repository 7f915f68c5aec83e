import CommandFlow.Proofs.Binary64.Shortest
import CommandFlow.Proofs.Text.Spelling
import CommandFlow.Value.Text

/-!
# Written numbers

* `Binary64.IsSpelt` : the characters are a spelling of a decimal, with a point or an exponent;
* `Binary64.isSpelt_small`, `isSpelt_large`, `isSpelt_between`, `isSpelt_power` : the layouts of a row of digits;
  `Binary64.Style.isSpelt_write` : so every style spells the decimal that it writes;
* `Binary64.exists_spelling_magnitudeText` : the written form of a number of the format spells that number;
* `Value.exists_spelling_integerText` : an integer is written as a row of digits.
-/

namespace CommandFlow

open Text

namespace Binary64

/-! ## Layouts -/

/-- The characters spell a decimal, with a point or an exponent. -/
def IsSpelt (cs : List Char) (digits : Nat) (exponent : Int) : Prop :=
  ∃ s : Spelling, s.IsProper ∧ s.IsFractional ∧ cs = s.chars ∧
    ∀ negative, ofDecimal negative s.digits s.power = ofDecimal negative digits exponent

/-- The digits of an exponent may be padded on the left. -/
theorem Style.exists_exponent (style : Style) (exponent : Int) : ∃ es : List Nat,
    IsDigits es ∧ es ≠ [] ∧ withSign (exponent < 0) (ofDigits 10 es) = exponent ∧
      style.writeExponent exponent = 'e' :: (if exponent < 0 then '-' else '+') :: row es := by
  obtain ⟨ds, hds, hchars⟩ := exists_isRow exponent.natAbs
  refine ⟨List.replicate (style.exponentDigits - ds.length) 0 ++ ds, (isDigits_replicate_zero _).append hds.digits,
    by simp [hds.ne_nil], ?_, ?_⟩
  · rw [ofDigits_zeros_append, hds.value, withSign]
    split
    · rename_i hneg
      have hlt : exponent < 0 := of_decide_eq_true hneg
      omega
    · rename_i hnonneg
      have hle : ¬ exponent < 0 := of_decide_eq_false (by simpa using hnonneg)
      omega
  · rw [Style.writeExponent, hchars, row_append, row_replicate_zero]
    simp only [row, List.length_map]

section
variable {d : Nat} {rest : List Nat} {digits : Nat} (hds : IsRow (d :: rest) digits) (hd : d ≠ 0)

include hds in
theorem isSpelt_small (zeros : Nat) :
    IsSpelt ('0' :: '.' :: (List.replicate zeros '0' ++ row (d :: rest))) digits
      (-(zeros + (d :: rest).length : Nat)) := by
  refine ⟨⟨[0], some (List.replicate zeros 0 ++ d :: rest), none⟩, ⟨by simp [IsDigits], ?_, by simp, .inl rfl⟩,
    .inl rfl, ?_, ?_⟩
  · rintro fs ⟨⟩
    exact ⟨(isDigits_replicate_zero zeros).append hds.digits, by simp⟩
  · simp [Spelling.chars, Spelling.fractionChars, Spelling.exponentChars, row, Nat.digitChar]
  · intro negative
    have hdigits : Spelling.digits ⟨[0], some (List.replicate zeros 0 ++ d :: rest), none⟩ = digits :=
      (ofDigits_zeros_append 10 (zeros + 1) (d :: rest)).trans hds.value
    have hpower : Spelling.power ⟨[0], some (List.replicate zeros 0 ++ d :: rest), none⟩ =
        -(zeros + (d :: rest).length : Nat) := by
      simp [Spelling.power, Spelling.fraction]
    rw [hdigits, hpower]

include hds hd

theorem isSpelt_large (zeros : Nat) :
    IsSpelt (row (d :: rest) ++ List.replicate zeros '0' ++ ['.', '0']) digits zeros := by
  refine ⟨⟨d :: rest ++ List.replicate zeros 0, some [0], none⟩,
    ⟨hds.digits.append (isDigits_replicate_zero zeros), ?_, by simp, .inr ⟨d, _, rfl, hd⟩⟩, .inl rfl, ?_, ?_⟩
  · rintro fs ⟨⟩
    exact ⟨by simp [IsDigits], by simp⟩
  · simp [Spelling.chars, Spelling.fractionChars, Spelling.exponentChars, row, Nat.digitChar]
  · intro negative
    have hdigits : Spelling.digits ⟨d :: rest ++ List.replicate zeros 0, some [0], none⟩ =
      digits * 10 ^ (zeros + 1) := by
      rw [← hds.value, ← ofDigits_append_zeros, List.replicate_succ', ← List.append_assoc]
      rfl
    have hpower : Spelling.power ⟨d :: rest ++ List.replicate zeros 0, some [0], none⟩ =
      (zeros : Int) - (zeros + 1 : Nat) := by
      simp [Spelling.power, Spelling.fraction]
    rw [hdigits, hpower, ofDecimal_mul_pow]

theorem isSpelt_between {point : Nat} (hpos : 0 < point) (hlt : point < (d :: rest).length) :
    IsSpelt ((row (d :: rest)).take point ++ '.' :: (row (d :: rest)).drop point) digits
      (point - (d :: rest).length : Int) := by
  obtain ⟨k, rfl⟩ : ∃ k, point = k + 1 := ⟨point - 1, by omega⟩
  refine ⟨⟨d :: rest.take k, some (rest.drop k), none⟩, ⟨?_, ?_, by simp, .inr ⟨d, _, rfl, hd⟩⟩, .inl rfl, ?_, ?_⟩
  · exact fun e he => hds.digits e (List.mem_of_mem_take (i := k + 1) he)
  · rintro fs ⟨⟩
    refine ⟨fun e he => hds.digits e (List.mem_cons_of_mem d (List.mem_of_mem_drop he)), ?_⟩
    simpa using hlt
  · simp [Spelling.chars, Spelling.fractionChars, Spelling.exponentChars, row, List.map_take, List.map_drop]
  · intro negative
    have hdigits : Spelling.digits ⟨d :: rest.take k, some (rest.drop k), none⟩ = digits := by
      rw [← hds.value, Spelling.digits, Spelling.fraction, Option.getD_some, List.cons_append, List.take_append_drop]
    have hpower : Spelling.power ⟨d :: rest.take k, some (rest.drop k), none⟩ =
      ((k + 1 : Nat) - (d :: rest).length : Int) := by
      simp only [List.length_cons] at hlt ⊢
      simp only [Spelling.power, Spelling.fraction, Option.elim_none, Option.getD_some, List.length_drop]
      omega
    rw [hdigits, hpower]

/-- The point stands after the first digit, if others follow, and a power of ten after the last one. -/
theorem isSpelt_power (style : Style) (leading : Int) :
    IsSpelt (row [d] ++ ((if rest = [] then [] else '.' :: row rest) ++ style.writeExponent leading)) digits
      (leading - rest.length) := by
  obtain ⟨es, hes, hne, hvalue, hchars⟩ := style.exists_exponent leading
  have hdigit : IsDigits [d] := fun e he => hds.digits e (List.mem_cons.mpr (.inl (List.mem_singleton.mp he)))
  refine ⟨⟨[d], if rest = [] then none else some rest, some (leading < 0, es)⟩, ⟨hdigit, ?_, ?_, .inr ⟨d, [], rfl, hd⟩⟩,
    .inr rfl, ?_, ?_⟩
  · intro fs hfs
    split at hfs
    · cases hfs
    · rename_i hrest
      cases hfs
      exact ⟨fun e he => hds.digits e (List.mem_cons_of_mem d he), hrest⟩
  · rintro e ⟨⟩
    exact ⟨hes, hne⟩
  · rw [hchars]
    split <;> simp [Spelling.chars, Spelling.fractionChars, Spelling.exponentChars]
  · intro negative
    have hfraction : Spelling.fraction ⟨[d], if rest = [] then none else some rest, some (leading < 0, es)⟩ = rest := by
      rw [Spelling.fraction]
      split
      · rename_i hrest
        exact hrest.symm
      · rfl
    have hdigits : Spelling.digits ⟨[d], if rest = [] then none else some rest, some (leading < 0, es)⟩ = digits := by
      rw [Spelling.digits, hfraction, ← hds.value]
      rfl
    rw [hdigits, Spelling.power, hfraction, Option.elim_some, hvalue]

end

/-- Every style spells the decimal that it writes. -/
theorem Style.isSpelt_write (style : Style) {digits : Nat} (hpos : 0 < digits) (exponent : Int) :
    IsSpelt (style.write digits exponent) digits exponent := by
  obtain ⟨ds, hds, hchars⟩ := exists_isRow digits
  obtain ⟨d, rest, rfl, hd⟩ : ∃ d rest, ds = d :: rest ∧ d ≠ 0 := by
    refine hds.lead.resolve_left ?_
    rintro rfl
    exact hpos.ne hds.value
  have hlength : (row (d :: rest)).length = rest.length + 1 := List.length_map _
  unfold Style.write
  rw [hchars]
  dsimp only
  rw [hlength]
  split_ifs with hpositional hsmall hlarge
  · obtain ⟨zeros, hzeros⟩ := Int.eq_ofNat_of_zero_le (Int.neg_nonneg.mpr hsmall)
    have hexponent : exponent = -(zeros + (d :: rest).length : Nat) := by
      rw [List.length_cons]
      omega
    rw [hzeros, Int.toNat_natCast, hexponent]
    exact isSpelt_small hds zeros
  · obtain ⟨zeros, rfl⟩ := Int.eq_ofNat_of_zero_le (show 0 ≤ exponent by omega)
    have hzeros : ((zeros : Int) + (rest.length + 1 : Nat)).toNat - (rest.length + 1) = zeros := by omega
    rw [hzeros]
    exact isSpelt_large hds hd zeros
  · obtain ⟨point, hpoint⟩ := Int.eq_ofNat_of_zero_le (show 0 ≤ exponent + (rest.length + 1 : Nat) by omega)
    have hexponent : exponent = point - (d :: rest).length := by
      rw [List.length_cons]
      omega
    rw [hpoint, Int.toNat_natCast, hexponent]
    exact isSpelt_between hds hd (by omega) (by rw [List.length_cons]; omega)
  · have hexponent : exponent = exponent + (rest.length + 1 : Nat) - 1 - rest.length := by omega
    have hspelt := isSpelt_power hds hd style (exponent + (rest.length + 1 : Nat) - 1)
    rw [← hexponent] at hspelt
    cases rest <;> exact hspelt

/-! ## Numbers -/

/-- The written form of the absolute value of a number of the format spells that number. -/
theorem exists_spelling_magnitudeText {steps : Nat} (h : IsStored steps) : ∃ s : Spelling,
    s.IsProper ∧ s.IsFractional ∧ magnitudeText steps = s.chars ∧
      ∀ negative, ofDecimal negative s.digits s.power = finite negative steps := by
  rcases Nat.eq_zero_or_pos steps with rfl | hpos
  · exact ⟨⟨[0], some [0], none⟩, ⟨by simp [IsDigits], by simp [IsDigits], by simp, .inl rfl⟩, .inl rfl, rfl,
      fun _ => rfl⟩
  · have hdigits : 0 < (shortest steps).1 := by
      refine Nat.pos_of_ne_zero fun hzero => ?_
      have hread := ofDecimal_shortest false hpos h
      rw [hzero] at hread
      injection hread with _ hsteps
      exact hpos.ne hsteps
    obtain ⟨s, hproper, hfractional, hchars, hnumber⟩ := numberStyle.isSpelt_write hdigits (shortest steps).2
    refine ⟨s, hproper, hfractional, ?_, fun negative => (hnumber negative).trans (ofDecimal_shortest negative hpos h)⟩
    rw [magnitudeText, if_neg hpos.ne']
    exact hchars

end Binary64

theorem Value.exists_spelling_integerText (i : Int) : ∃ s : Spelling, s.IsProper ∧ ¬ s.IsFractional ∧
    integerText i = String.ofList ((if i < 0 then ['-'] else []) ++ s.chars) ∧ s.digits = i.natAbs ∧ s.power = 0 ∧
      s.whole.length = Binary64.decimalLength i.natAbs := by
  obtain ⟨ds, hds, hchars⟩ := exists_isRow i.natAbs
  refine ⟨⟨ds, none, none⟩, ⟨hds.digits, by simp, by simp, hds.lead⟩, by simp [Spelling.IsFractional], ?_, ?_, rfl, ?_⟩
  · rw [integerText, hchars, Spelling.chars, Spelling.fractionChars, Spelling.exponentChars]
    simp
  · rw [← hds.value, Spelling.digits, Spelling.fraction]
    simp
  · have hlength := congrArg List.length hchars
    rw [row, List.length_map] at hlength
    exact hlength.symm

end CommandFlow
