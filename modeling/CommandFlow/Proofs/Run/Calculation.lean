import CommandFlow.Proofs.Run.Operands
import CommandFlow.Proofs.Value.Integer

/-!
# Calculations with integers

* `Value.IsLiteral` : an operand that is an integer or writes one, and names no variable;
  `Value.IsLiteral.exists_filledNumber` : its number is that integer;
* `MathOperation.Gives` : what an operation on two integers gives, where that is an integer;
  `MathOperation.toInt?_apply` : the same on the numbers of the integers;
* `Node.calculates_integers` : so a calculation stores it, and never fails.
-/

namespace CommandFlow

/-! ## Operands -/

theorem filledNumber_of_named?_eq_none {s : String} {bindings : Variables} (hopen : '\x7b' ∉ s.toList)
    (hnamed : (Value.text s).named? bindings = none) (context : Context) :
    filledNumber (.text s) bindings context = (Value.text s).toNumber := by
  have hfill : Template.fillValue (.text s) bindings context = .ok (.text s) :=
    congrArg (Except.map Value.text) (Template.fill_of_not_mem hopen bindings context)
  rw [Value.named?] at hnamed
  rw [filledNumber_of_fillValue hfill, operandNumber, Template.interpolate_of_not_mem hopen]
  split
  · rename_i w hw
    cases hnamed.symm.trans hw
  · rw [Value.toNumber, Text.strip, String.toList_ofList, Text.stripChars_stripChars, Value.toNumber]

namespace Value

/-- An operand that is an integer, or a text that writes it and does not name a variable. -/
structure IsLiteral (v : Value) (i : Int) (bindings : Variables) : Prop where
  holds : v.Holds i
  unnamed : ∀ s, v = .text s → v.named? bindings = none

theorem IsLiteral.exists_filledNumber {v : Value} {i : Int} {bindings : Variables} (h : v.IsLiteral i bindings)
    (hi : Binary64.IsSmall i) (context : Context) :
    ∃ x, filledNumber v bindings context = .ok x ∧ x.toInt? = some i := by
  obtain ⟨x, hnumber, hx⟩ := h.holds.exists_toNumber hi
  refine ⟨x, ?_, hx⟩
  rw [← hnumber]
  cases h.holds with
  | int => exact filledNumber_of_fillValue rfl
  | @text before after cs _ hbefore hafter hcs =>
    refine filledNumber_of_named?_eq_none ?_ (h.unnamed _ rfl) context
    rw [String.toList_ofList, List.mem_append, List.mem_append, not_or, not_or]
    exact ⟨not_mem_of_isBlank hbefore, fun hmem => (hcs.isBlank_eq_false hmem).2 rfl, not_mem_of_isBlank hafter⟩

theorem toText_float_of_toInt? {x : Binary64} {i : Int} (h : x.toInt? = some i) : (float x).toText = integerText i := by
  obtain ⟨negative, n, rfl, -⟩ := Binary64.exists_of_toInt? h
  rw [toText, floatText, h]

theorem ofNumber_of_toInt? {x : Binary64} {i : Int} (h : x.toInt? = some i) : ofNumber x = int i := by
  rw [ofNumber, h]

end Value

/-! ## Operations -/

namespace MathOperation

/-- What an operation on two integers gives, where that is an integer: a small sum, difference or product, the quotient
of a division that leaves no remainder, the remainder of the division that rounds to zero, and zero for a division by
zero. -/
inductive Gives (a b : Int) : MathOperation → Int → Prop where
  | sum (h : Binary64.IsSmall (a + b)) : Gives a b add (a + b)
  | difference (h : Binary64.IsSmall (a - b)) : Gives a b subtract (a - b)
  | product (h : Binary64.IsSmall (a * b)) : Gives a b multiply (a * b)
  | quotient {q : Int} (hb : b ≠ 0) (h : a = b * q) : Gives a b divide q
  | remainder (hb : b ≠ 0) : Gives a b modulo (a.tmod b)
  | zero {operation : MathOperation} (hb : b = 0) (h : operation = divide ∨ operation = modulo) : Gives a b operation 0

theorem isSmall_of_mul {b q : Int} (hb : b ≠ 0) (h : Binary64.IsSmall (b * q)) : Binary64.IsSmall q := by
  rw [Binary64.IsSmall, Int.natAbs_mul] at h
  have hone : 1 ≤ b.natAbs := Int.natAbs_pos.mpr hb
  exact (Nat.le_mul_of_pos_left _ hone).trans h

theorem toInt?_apply {a b r : Int} {operation : MathOperation} (h : operation.Gives a b r) (ha : Binary64.IsSmall a)
    {x y : Binary64} (hx : x.toInt? = some a) (hy : y.toInt? = some b) :
    (operation.apply x y).toInt? = some r := by
  have hzero := Binary64.isZero_of_toInt? hy
  cases h with
  | sum h => exact Binary64.toInt?_add hx hy h
  | difference h => exact Binary64.toInt?_sub hx hy h
  | product h => exact Binary64.toInt?_mul hx hy h
  | quotient hb h =>
    rw [apply, hzero, decide_eq_false hb]
    exact Binary64.toInt?_div hx hy hb (isSmall_of_mul hb (h ▸ ha)) h
  | remainder hb =>
    rw [apply, hzero, decide_eq_false hb]
    exact Binary64.toInt?_rem hx hy hb
  | zero hb h =>
    rcases h with rfl | rfl
    · rw [apply, hzero, decide_eq_true hb]
      exact Binary64.toInt?_zero _
    · rw [apply, hzero, decide_eq_true hb]
      exact Binary64.toInt?_zero _

end MathOperation

/-! ## Nodes -/

/-- What a calculation leaves: the variable, and the calculation written out. -/
def calculated (target : String) (a b : Int) (operation : MathOperation) (r : Int) : Outcome where
  bindings := [(target, .int r)]
  detail := .text s!"{Value.integerText a} {operation.name} {Value.integerText b} = {Value.integerText r}"

section
variable (arithmetic : Arithmetic) {bindings : Variables} {context : Context} {x y : Binary64}
  (hleft : filledNumber arithmetic.left bindings context = .ok x)
  (hright : filledNumber arithmetic.right bindings context = .ok y)

include hleft hright

theorem Arithmetic.exists_outcome : ∃ outcome, arithmetic.outcome bindings context = .ok outcome := by
  rw [outcome, hleft, hright]
  exact ⟨_, rfl⟩

theorem Arithmetic.outcome_of_toInt? {a b r : Int} (hx : x.toInt? = some a) (hy : y.toInt? = some b)
    (hr : (arithmetic.operation.apply x y).toInt? = some r) :
    arithmetic.outcome bindings context = .ok (calculated arithmetic.target a b arithmetic.operation r) := by
  rw [outcome, hleft, hright]
  simp only [inRange, Except.mapError, bind, Except.bind, pure, Except.pure, Value.ofNumber_of_toInt? hr,
    Value.toText_float_of_toInt? hx, Value.toText_float_of_toInt? hy]
  rfl

end

/-- The remainder of the division that rounds to zero is less than the divisor and has the sign of the dividend. -/
theorem tmod_spec {b : Int} (hb : b ≠ 0) (a : Int) :
    ∃ q, a = q * b + a.tmod b ∧ (a.tmod b).natAbs < b.natAbs ∧ (a.tmod b = 0 ∨ (a.tmod b).sign = a.sign) := by
  refine ⟨a.tdiv b, (Int.tdiv_mul_add_tmod a b).symm, ?_, ?_⟩
  · rw [Int.natAbs_tmod]
    exact Nat.mod_lt _ (Int.natAbs_pos.mpr hb)
  · rw [or_iff_not_imp_left]
    intro hne
    have ha : a ≠ 0 := by
      rintro rfl
      exact hne (Int.zero_tmod b)
    rcases Int.le_total 0 a with hpos | hneg
    · have hnonneg := Int.tmod_nonneg b hpos
      rw [Int.sign_eq_one_of_pos (by omega), Int.sign_eq_one_of_pos (by omega)]
    · have hnonpos := Int.tmod_nonneg b (Int.neg_nonneg_of_nonpos hneg)
      rw [Int.neg_tmod] at hnonpos
      rw [Int.sign_eq_neg_one_of_neg (by omega), Int.sign_eq_neg_one_of_neg (by omega)]

/-- A calculation with integers up to `2⁵³`, given as such or written, never fails. Sums, differences and products up to
`2⁵³` are stored as integers, as are quotients without a remainder and remainders; a division by zero stores zero. -/
theorem Node.calculates_integers {a b : Int} (ha : Binary64.IsSmall a) (hb : Binary64.IsSmall b) {left right : Value}
    {bindings : Variables} (hleft : left.IsLiteral a bindings) (hright : right.IsLiteral b bindings)
    (id : String) (position : Position) (target : String) (context : Context) (declared : Entries Declaration)
    (generator : Generator) :
    let calculation (operation : MathOperation) :=
      (Node.mk id position (.mathOperation ⟨operation, left, right, target⟩)).outcome bindings context declared
        generator
    let stores (operation : MathOperation) (r : Int) : Prop :=
      calculation operation = (.ok (calculated target a b operation r), generator)
    (Binary64.IsSmall (a + b) → stores .add (a + b)) ∧
    (Binary64.IsSmall (a - b) → stores .subtract (a - b)) ∧
    (Binary64.IsSmall (a * b) → stores .multiply (a * b)) ∧
    (b ≠ 0 → ∃ q r, stores .modulo r ∧ a = q * b + r ∧ |r| < |b| ∧ (r = 0 ∨ r.sign = a.sign)) ∧
    (b ≠ 0 → ∀ q, a = b * q → stores .divide q) ∧
    (b = 0 → stores .divide 0 ∧ stores .modulo 0) ∧
    ∀ operation, ∃ outcome, calculation operation = (.ok outcome, generator) := by
  intro calculation stores
  obtain ⟨x, hleft, hx⟩ := hleft.exists_filledNumber ha context
  obtain ⟨y, hright, hy⟩ := hright.exists_filledNumber hb context
  have hstores {operation : MathOperation} {r : Int} (h : operation.Gives a b r) : stores operation r := by
    have houtcome := Arithmetic.outcome_of_toInt? ⟨operation, left, right, target⟩ hleft hright hx hy
      (MathOperation.toInt?_apply h ha hx hy)
    exact congrArg (·, generator) houtcome
  refine ⟨fun h => hstores (.sum h), fun h => hstores (.difference h), fun h => hstores (.product h), ?_,
    fun hb q h => hstores (.quotient hb h), fun hb => ⟨hstores (.zero hb (.inl rfl)), hstores (.zero hb (.inr rfl))⟩,
      ?_⟩
  · intro hb
    obtain ⟨q, hq, hlt, hsign⟩ := tmod_spec hb a
    refine ⟨q, a.tmod b, hstores (.remainder hb), hq, ?_, hsign⟩
    rw [Int.abs_eq_natAbs, Int.abs_eq_natAbs]
    exact Int.ofNat_lt.mpr hlt
  · intro operation
    obtain ⟨outcome, houtcome⟩ := Arithmetic.exists_outcome ⟨operation, left, right, target⟩ hleft hright
    exact ⟨outcome, congrArg (·, generator) houtcome⟩

/-- The product and the quotient of an integer and a text, beside a variable that neither names. -/
theorem Node.calculates_integers_spelled :
    let bindings : Variables := [("3", .int 1)]
    let left : Value := .int (-21)
    let right : Value := .text " +0003\n"
    let position : Position := ⟨.zero, .zero⟩
    let generator : Generator := ⟨#[], 0⟩
    let calculation (operation : MathOperation) :=
      (Node.mk "n" position (.mathOperation ⟨operation, left, right, "r"⟩)).outcome bindings .standIn [] generator
    Binary64.IsSmall (-21) ∧ Binary64.IsSmall 3 ∧ Binary64.IsSmall (-21 * 3) ∧ (3 : Int) ≠ 0 ∧ (-21 : Int) = 3 * (-7) ∧
      left.IsLiteral (-21) bindings ∧ right.IsLiteral 3 bindings ∧
      calculation .multiply = (.ok (calculated "r" (-21) 3 .multiply (-63)), generator) ∧
      calculation .divide = (.ok (calculated "r" (-21) 3 .divide (-7)), generator) := by
  intro bindings left right position generator calculation
  have hsmall : Binary64.IsSmall (-21) ∧ Binary64.IsSmall 3 ∧ Binary64.IsSmall (-21 * 3) := by
    refine ⟨?_, ?_, ?_⟩ <;> norm_num [Binary64.IsSmall]
  have hleft : left.IsLiteral (-21) bindings := ⟨.int _, by simp [left]⟩
  have hright : right.IsLiteral 3 bindings := by
    have hdigits : Text.HasValues Text.digitValue? "0003".toList [0, 0, 0, 3] := Text.mapM_eq_some_iff.mp (by decide)
    have hbefore : ∀ c ∈ [' '], Text.isBlank c = true := List.all_eq_true.mp rfl
    have hafter : ∀ c ∈ ['\n'], Text.isBlank c = true := List.all_eq_true.mp rfl
    refine ⟨.text hbefore hafter (.decimal .plus hdigits (by decide)), ?_⟩
    rintro s -
    show (Value.text " +0003\n").named? [("3", .int 1)] = none
    decide
  obtain ⟨-, -, hproduct, -, hquotient, -, -⟩ :=
    Node.calculates_integers hsmall.1 hsmall.2.1 hleft hright "n" position "r"
    .standIn [] generator
  exact ⟨hsmall.1, hsmall.2.1, hsmall.2.2, by decide, by decide, hleft, hright, hproduct hsmall.2.2,
    hquotient (by decide) (-7) (by decide)⟩

end CommandFlow
