import CommandFlow.Json.Reader
import CommandFlow.Proofs.Text.Spelling

/-!
# Numbers of JSON

* `Json.EndsNumber` : what may follow a number without being taken for a part of it;
* `Json.takeWhole_append`, `Json.takeFraction_append`, `Json.takeExponent_append` : the parts of a spelling are taken
  from the front of a text, one after the other;
* `Json.readNumber_of_isFractional`, `Json.readNumber_of_not_isFractional` : so a spelling is read as the number of its
  decimal where it has a point or an exponent, and else as an integer;
* `Json.readAtom_chars` : it is not taken for a word.
-/

namespace CommandFlow.Json

open Text

/-- No digit follows, no point and no mark of an exponent. -/
def EndsNumber (rest : List Char) : Prop :=
  ∀ c ∈ rest.head?, ('0' ≤ c && c ≤ '9') = false ∧ c ≠ '.' ∧ c ≠ 'e' ∧ c ≠ 'E'

theorem endsNumber_nil : EndsNumber [] := by simp [EndsNumber]

theorem takeDigits_row {ds : List Nat} (hds : IsDigits ds) {rest : List Char}
    (hrest : ∀ c ∈ rest.head?, ('0' ≤ c && c ≤ '9') = false) : takeDigits (row ds ++ rest) = (ds, rest) := by
  induction ds with
  | nil =>
    cases rest with
    | nil => rfl
    | cons c rest => simp only [row, List.map_nil, List.nil_append, takeDigits, hrest c rfl, Bool.false_eq_true,
      reduceIte]
  | cons d ds ih =>
    have hd : d < 10 := hds d List.mem_cons_self
    have htail := ih fun e he => hds e (List.mem_cons_of_mem d he)
    have hdigit : ('0' ≤ Nat.digitChar d && Nat.digitChar d ≤ '9') = true ∧ (Nat.digitChar d).toNat - 0x30 = d := by
      interval_cases d <;> decide
    rw [row, List.map_cons, List.cons_append, takeDigits, if_pos hdigit.1, hdigit.2]
    show (d :: (takeDigits (row ds ++ rest)).1, (takeDigits (row ds ++ rest)).2) = _
    rw [htail]

/-! ## The parts of a spelling -/

section
variable {s : Spelling} (h : s.IsProper) {rest : List Char} (hrest : EndsNumber rest)

include h

theorem takeWhole_append {after : List Char} (hafter : ∀ c ∈ after.head?, ('0' ≤ c && c ≤ '9') = false) :
    takeWhole (row s.whole ++ after) = (some s.whole, after) := by
  have htake := takeDigits_row h.whole hafter
  rcases h.lead with hzero | ⟨d, ds, hwhole, hd⟩
  · rw [hzero]
    rfl
  · have hlt : d < 10 := h.whole d (by simp [hwhole])
    rw [hwhole] at htake ⊢
    have hne : Nat.digitChar d ≠ '0' := by interval_cases d <;> simp_all
    rw [takeWhole]
    · rw [htake]
    · rintro _ heq
      exact hne (List.cons.inj heq).1

include hrest

omit h in
theorem head_exponentChars : ∀ c ∈ (s.exponentChars ++ rest).head?, ('0' ≤ c && c ≤ '9') = false ∧ c ≠ '.' := by
  intro c hc
  rw [Spelling.exponentChars] at hc
  cases hexponent : s.exponent? with
  | none =>
    rw [hexponent, Option.elim_none, List.nil_append] at hc
    exact ⟨(hrest c hc).1, (hrest c hc).2.1⟩
  | some e =>
    rw [hexponent] at hc
    obtain rfl : 'e' = c := Option.some.inj hc
    decide

omit h in
theorem head_fractionChars :
    ∀ c ∈ (s.fractionChars ++ (s.exponentChars ++ rest)).head?, ('0' ≤ c && c ≤ '9') = false := by
  intro c hc
  rw [Spelling.fractionChars] at hc
  cases hfraction : s.fraction? with
  | none =>
    rw [hfraction, Option.elim_none, List.nil_append] at hc
    exact (head_exponentChars hrest c hc).1
  | some ds =>
    rw [hfraction] at hc
    obtain rfl : '.' = c := Option.some.inj hc
    decide

theorem takeFraction_append :
    takeFraction (s.fractionChars ++ (s.exponentChars ++ rest)) = (s.fraction?, s.exponentChars ++ rest) := by
  have hhead := head_exponentChars (s := s) hrest
  rw [Spelling.fractionChars]
  cases hfraction : s.fraction? with
  | none =>
    rw [Option.elim_none, List.nil_append]
    unfold takeFraction
    split
    · rename_i heq
      exact absurd rfl (hhead '.' (by rw [heq]; rfl)).2
    · rfl
  | some ds =>
    obtain ⟨hds, hne⟩ := h.fraction ds hfraction
    obtain ⟨d, others, rfl⟩ := List.exists_cons_of_ne_nil hne
    have htake := takeDigits_row hds fun c hc => (hhead c hc).1
    rw [Option.elim_some, List.cons_append, takeFraction, htake]

theorem takeExponent_append : takeExponent (s.exponentChars ++ rest) =
    (s.exponent?.map fun e => withSign e.1 (ofDigits 10 e.2), rest) := by
  rw [Spelling.exponentChars]
  cases hexponent : s.exponent? with
  | none =>
    rw [Option.elim_none, List.nil_append]
    cases rest with
    | nil => rfl
    | cons c rest =>
      obtain ⟨-, -, hlower, hupper⟩ := hrest c rfl
      simp [takeExponent, hlower, hupper]
  | some e =>
    obtain ⟨negative, ds⟩ := e
    obtain ⟨hds, hne⟩ := h.exponent _ hexponent
    obtain ⟨d, others, rfl⟩ := List.exists_cons_of_ne_nil hne
    have htake := takeDigits_row hds fun c hc => (hrest c hc).1
    cases negative <;>
    · simp only [Option.elim_some, List.cons_append, takeExponent, Bool.false_eq_true, reduceIte, htake,
        Option.map_some]
      rfl

/-- A spelling with a point or an exponent is a floating-point number. -/
theorem readNumber_of_isFractional (hfractional : s.IsFractional) (negative : Bool) (all : List Char) :
    readNumber negative all (s.chars ++ rest) = .ok (.float (.ofDecimal negative s.digits s.power), rest) := by
  have hsome : (s.fraction?.isNone && (s.exponent?.map fun e => withSign e.1 (ofDigits 10 e.2)).isNone) = false := by
    rcases hfractional with hfraction | hexponent
    · simp [Option.isSome_iff_ne_none.mp hfraction]
    · simp [hexponent]
  rw [readNumber, Spelling.chars, List.append_assoc, List.append_assoc, takeWhole_append h (head_fractionChars hrest)]
  simp only [takeFraction_append h hrest, takeExponent_append h hrest, hsome, Bool.false_eq_true, reduceIte]
  rw [Spelling.digits, Spelling.power, Spelling.fraction]
  cases s.exponent? <;> rfl

theorem readNumber_of_not_isFractional (hfractional : ¬ s.IsFractional) (hlength : s.whole.length ≤ digitLimit)
    (negative : Bool) (all : List Char) :
    readNumber negative all (s.chars ++ rest) = .ok (.int (withSign negative s.digits), rest) := by
  obtain ⟨hfraction, hexponent⟩ := not_or.mp hfractional
  rw [Bool.not_eq_true, Option.isSome_eq_false_iff, Option.isNone_iff_eq_none] at hfraction hexponent
  rw [readNumber, Spelling.chars, List.append_assoc, List.append_assoc, takeWhole_append h (head_fractionChars hrest)]
  simp only [takeFraction_append h hrest, takeExponent_append h hrest, hfraction, hexponent, Option.map_none,
    Option.isNone_none, Bool.and_true, reduceIte, Nat.not_lt.mpr hlength]
  rw [Spelling.digits, Spelling.fraction, hfraction, Option.getD_none, List.append_nil]
  rfl

end

/-! ## Atoms -/

theorem readAtom_chars {s : Spelling} (h : s.IsProper) (negative : Bool) (rest : List Char) :
    readAtom ((if negative then ['-'] else []) ++ s.chars ++ rest) =
      readNumber negative ((if negative then ['-'] else []) ++ s.chars ++ rest) (s.chars ++ rest) := by
  obtain ⟨d, others, hd, hchars⟩ := h.exists_chars_eq_cons
  rw [hchars]
  cases negative <;> interval_cases d <;> rfl

end CommandFlow.Json
