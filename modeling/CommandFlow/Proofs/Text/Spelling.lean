import CommandFlow.Text.Numeral
import CommandFlow.Binary64.Decimal
import Mathlib.Data.List.Induction
import Mathlib.Tactic.IntervalCases

/-!
# Spellings of numerals

* `Text.row` : a row of digits as it is written; `Text.IsRow` : the digits of a number; every number has some;
* `Text.Spelling` : the way a number without a sign is written, with a point and an exponent where wanted;
  `Spelling.digits`, `Spelling.power` : what it spells;
* `Text.Spelling.IsProper.read?_chars` : a spelling is read as what it spells.
-/

namespace CommandFlow.Text

/-! ## Rows of digits -/

theorem ofDigits_concat (base : Nat) (ds : List Nat) (d : Nat) :
    ofDigits base (ds ++ [d]) = ofDigits base ds * base + d := by
  rw [ofDigits, List.foldl_append]
  rfl

theorem ofDigits_append (base : Nat) (ds es : List Nat) :
    ofDigits base (ds ++ es) = ofDigits base ds * base ^ es.length + ofDigits base es := by
  induction es using List.reverseRecOn with
  | nil => simp [ofDigits]
  | append_singleton es e ih =>
    rw [← List.append_assoc, ofDigits_concat, ih, ofDigits_concat, List.length_append, Nat.pow_add,
      List.length_singleton,
      Nat.pow_one, Nat.add_mul, Nat.mul_assoc, Nat.add_assoc]

theorem ofDigits_replicate_zero (base k : Nat) : ofDigits base (List.replicate k 0) = 0 := by
  induction k with
  | zero => rfl
  | succ k ih => rw [List.replicate_succ', ofDigits_concat, ih, Nat.zero_mul]

theorem ofDigits_zeros_append (base k : Nat) (ds : List Nat) :
    ofDigits base (List.replicate k 0 ++ ds) = ofDigits base ds := by
  rw [ofDigits_append, ofDigits_replicate_zero, Nat.zero_mul, Nat.zero_add]

theorem ofDigits_append_zeros (base : Nat) (ds : List Nat) (k : Nat) :
    ofDigits base (ds ++ List.replicate k 0) = ofDigits base ds * base ^ k := by
  rw [ofDigits_append, ofDigits_replicate_zero, List.length_replicate, Nat.add_zero]

def row (ds : List Nat) : List Char := ds.map Nat.digitChar

theorem row_append (ds es : List Nat) : row (ds ++ es) = row ds ++ row es := List.map_append

theorem row_replicate_zero (k : Nat) : row (List.replicate k 0) = List.replicate k '0' := List.map_replicate

def IsDigits (ds : List Nat) : Prop := ∀ d ∈ ds, d < 10

theorem isDigits_replicate_zero (k : Nat) : IsDigits (List.replicate k 0) := by
  intro d hd
  rw [List.eq_of_mem_replicate hd]
  decide

theorem IsDigits.append {ds es : List Nat} (hds : IsDigits ds) (hes : IsDigits es) : IsDigits (ds ++ es) :=
  fun d hd => (List.mem_append.mp hd).elim (hds d) (hes d)

theorem ofDigits_lt {ds : List Nat} (h : IsDigits ds) : ofDigits 10 ds < 10 ^ ds.length := by
  induction ds using List.reverseRecOn with
  | nil => decide
  | append_singleton ds d ih =>
    have hd : d < 10 := h d (by simp)
    have hds := ih fun e he => h e (List.mem_append_left _ he)
    rw [ofDigits_concat, List.length_append, List.length_singleton, Nat.pow_succ]
    omega

theorem digitValue?_digitChar {d : Nat} (h : d < 10) : digitValue? (Nat.digitChar d) = some d := by
  interval_cases d <;> decide

theorem isBlank_eq_false_of_mem_row {ds : List Nat} (h : IsDigits ds) {c : Char} (hc : c ∈ row ds) :
    isBlank c = false := by
  obtain ⟨d, hd, rfl⟩ := List.mem_map.mp hc
  have hlt : d < 10 := h d hd
  interval_cases d <;> decide

theorem takeDigits_row {ds : List Nat} (hds : IsDigits ds) {rest : List Char}
    (hrest : ∀ c ∈ rest.head?, digitValue? c = none) : takeDigits (row ds ++ rest) = (ds, rest) := by
  induction ds with
  | nil =>
    cases rest with
    | nil => rfl
    | cons c rest => simp [row, takeDigits, hrest c rfl]
  | cons d ds ih =>
    have hd : d < 10 := hds d List.mem_cons_self
    have htail := ih fun e he => hds e (List.mem_cons_of_mem d he)
    rw [row, List.map_cons, List.cons_append, takeDigits, digitValue?_digitChar hd]
    show (d :: (takeDigits (row ds ++ rest)).1, (takeDigits (row ds ++ rest)).2) = _
    rw [htail]

/-- The digits of a number: no zero leads but the one of zero itself. -/
structure IsRow (ds : List Nat) (n : Nat) : Prop where
  digits : IsDigits ds
  value : ofDigits 10 ds = n
  lead : ds = [0] ∨ ∃ d rest, ds = d :: rest ∧ d ≠ 0

theorem IsRow.ne_nil {ds : List Nat} {n : Nat} (h : IsRow ds n) : ds ≠ [] := by
  rcases h.lead with rfl | ⟨d, rest, rfl, -⟩ <;> simp

theorem exists_isRow (n : Nat) : ∃ ds, IsRow ds n ∧ Binary64.naturalDigits n = row ds := by
  induction n using Nat.strongRecOn with
  | _ n ih =>
    rcases Nat.lt_or_ge n 10 with hlt | hge
    · refine ⟨[n], ⟨by simpa [IsDigits] using hlt, by simp [ofDigits], ?_⟩, Nat.toDigits_of_lt_base hlt⟩
      rcases Nat.eq_zero_or_pos n with rfl | hpos
      · exact .inl rfl
      · exact .inr ⟨n, [], rfl, hpos.ne'⟩
    · obtain ⟨ds, hds, hchars⟩ := ih (n / 10) (by omega)
      refine ⟨ds ++ [n % 10], ⟨?_, ?_, ?_⟩, ?_⟩
      · intro d hd
        rcases List.mem_append.mp hd with hd | hd
        · exact hds.digits d hd
        · obtain rfl := List.mem_singleton.mp hd
          exact Nat.mod_lt n (by decide)
      · rw [ofDigits_concat, hds.value, Nat.div_add_mod']
      · rcases hds.lead with rfl | ⟨d, rest, rfl, hd⟩
        · have hzero := hds.value
          simp only [ofDigits, List.foldl_cons, List.foldl_nil] at hzero
          omega
        · exact .inr ⟨d, rest ++ [n % 10], rfl, hd⟩
      · rw [Binary64.naturalDigits, Nat.toDigits_of_base_le (by decide) hge, row, List.map_append]
        exact congrArg (· ++ _) hchars

/-! ## Spellings -/

/-- The way a number without a sign is written: digits, those after a point, and an exponent with its sign. -/
structure Spelling where
  whole : List Nat
  fraction? : Option (List Nat)
  exponent? : Option (Bool × List Nat)

namespace Spelling

def fraction (s : Spelling) : List Nat := s.fraction?.getD []

/-- The number without its point and its exponent. -/
def digits (s : Spelling) : Nat := ofDigits 10 (s.whole ++ s.fraction)

def power (s : Spelling) : Int :=
  (s.exponent?.elim 0 fun e => withSign e.1 (ofDigits 10 e.2)) - s.fraction.length

def fractionChars (s : Spelling) : List Char := s.fraction?.elim [] fun ds => '.' :: row ds

def exponentChars (s : Spelling) : List Char :=
  s.exponent?.elim [] fun e => 'e' :: (if e.1 then '-' else '+') :: row e.2

def chars (s : Spelling) : List Char := row s.whole ++ (s.fractionChars ++ s.exponentChars)

def IsFractional (s : Spelling) : Prop := s.fraction?.isSome ∨ s.exponent?.isSome

/-- There are digits wherever there can be some, and no zero leads but a single one. -/
structure IsProper (s : Spelling) : Prop where
  whole : IsDigits s.whole
  fraction : ∀ ds ∈ s.fraction?, IsDigits ds ∧ ds ≠ []
  exponent : ∀ e ∈ s.exponent?, IsDigits e.2 ∧ e.2 ≠ []
  lead : s.whole = [0] ∨ ∃ d rest, s.whole = d :: rest ∧ d ≠ 0

variable {s : Spelling} (h : s.IsProper)

include h

theorem IsProper.whole_ne_nil : s.whole ≠ [] := by
  rcases h.lead with hzero | ⟨d, rest, hwhole, -⟩ <;> simp_all

theorem IsProper.exists_chars_eq_cons : ∃ d rest, d < 10 ∧ s.chars = Nat.digitChar d :: rest := by
  obtain ⟨d, rest, hwhole⟩ := List.exists_cons_of_ne_nil h.whole_ne_nil
  refine ⟨d, row rest ++ (s.fractionChars ++ s.exponentChars), h.whole d (by simp [hwhole]), ?_⟩
  simp [chars, hwhole, row]

theorem IsProper.isBlank_eq_false_of_mem_chars {c : Char} (hc : c ∈ s.chars) : isBlank c = false := by
  rw [chars, fractionChars, exponentChars] at hc
  rcases List.mem_append.mp hc with hc | hc
  · exact isBlank_eq_false_of_mem_row h.whole hc
  rcases List.mem_append.mp hc with hc | hc
  · cases hfraction : s.fraction? with
    | none => simp [hfraction] at hc
    | some ds =>
      rw [hfraction, Option.elim_some] at hc
      rcases List.mem_cons.mp hc with rfl | hc
      · decide
      · exact isBlank_eq_false_of_mem_row (h.fraction ds hfraction).1 hc
  · cases hexponent : s.exponent? with
    | none => simp [hexponent] at hc
    | some e =>
      rw [hexponent, Option.elim_some] at hc
      rcases List.mem_cons.mp hc with rfl | hc
      · decide
      rcases List.mem_cons.mp hc with rfl | hc
      · split <;> decide
      · exact isBlank_eq_false_of_mem_row (h.exponent e hexponent).1 hc

theorem IsProper.stripChars_chars (negative : Bool) :
    stripChars ((if negative then ['-'] else []) ++ s.chars) = (if negative then ['-'] else []) ++ s.chars := by
  refine stripChars_eq_self fun c hc => ?_
  rcases List.mem_append.mp hc with hc | hc
  · cases negative with
    | true =>
      obtain rfl := List.mem_singleton.mp hc
      decide
    | false => cases hc
  · exact h.isBlank_eq_false_of_mem_chars hc

theorem IsProper.readExponent?_exponentChars :
    readExponent? s.exponentChars = some (s.exponent?.elim 0 fun e => withSign e.1 (ofDigits 10 e.2)) := by
  rw [exponentChars]
  cases hexponent : s.exponent? with
  | none => rfl
  | some e =>
    obtain ⟨negative, ds⟩ := e
    obtain ⟨hds, hne⟩ := h.exponent _ hexponent
    obtain ⟨d, rest, rfl⟩ := List.exists_cons_of_ne_nil hne
    have htake : takeDigits (row (d :: rest) ++ []) = (d :: rest, []) := takeDigits_row hds (by simp)
    rw [List.append_nil] at htake
    cases negative <;>
    · simp only [Option.elim_some, readExponent?, takeSign, Bool.false_eq_true, reduceIte, htake]
      rfl

omit h in
theorem eq_of_mem_head?_exponentChars {c : Char} (hc : c ∈ s.exponentChars.head?) : c = 'e' := by
  rw [exponentChars] at hc
  cases hexponent : s.exponent? with
  | none => simp [hexponent] at hc
  | some e => simpa [hexponent] using hc.symm

theorem IsProper.takeSign_chars (negative : Bool) :
    takeSign ((if negative then ['-'] else []) ++ s.chars) = (negative, s.chars) := by
  cases negative with
  | true => rfl
  | false =>
    obtain ⟨d, rest, hd, hchars⟩ := h.exists_chars_eq_cons
    rw [hchars]
    interval_cases d <;> rfl

/-- A spelling with a sign before it is read as what it spells. -/
theorem IsProper.read?_chars (negative : Bool) :
    Numeral.read? ((if negative then ['-'] else []) ++ s.chars) = some ⟨negative, s.digits, s.power⟩ := by
  have hexponent : ∀ c ∈ s.exponentChars.head?, digitValue? c = none := by
    intro c hc
    rw [eq_of_mem_head?_exponentChars hc]
    decide
  have hparts : Numeral.ofParts? negative s.whole s.fraction s.exponentChars =
      some ⟨negative, s.digits, s.power⟩ := by
    rw [Numeral.ofParts?, if_neg (by simp [h.whole_ne_nil]), h.readExponent?_exponentChars]
    rfl
  rw [Numeral.read?, h.takeSign_chars]
  dsimp only
  rw [chars, fractionChars]
  rw [Spelling.fraction] at hparts
  cases hfraction : s.fraction? with
  | none =>
    rw [hfraction, Option.getD_none] at hparts
    rw [Option.elim_none, List.nil_append, takeDigits_row h.whole hexponent]
    cases hchars : s.exponentChars with
    | nil => rwa [hchars] at hparts
    | cons c rest =>
      obtain rfl : c = 'e' := eq_of_mem_head?_exponentChars (s := s) (by simp [hchars])
      rwa [hchars] at hparts
  | some ds =>
    rw [hfraction, Option.getD_some] at hparts
    have htake : takeDigits (row s.whole ++ '.' :: (row ds ++ s.exponentChars)) =
        (s.whole, '.' :: (row ds ++ s.exponentChars)) := takeDigits_row h.whole (by rintro c ⟨⟩; decide)
    rw [Option.elim_some, List.cons_append, htake]
    simp only [takeDigits_row (h.fraction ds hfraction).1 hexponent]
    exact hparts

end Spelling

end CommandFlow.Text
