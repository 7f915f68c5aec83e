import CommandFlow.Proofs.Template.Placement
import CommandFlow.Proofs.Value.Written

/-!
# The operands of a calculation

An operand names a variable by its bare name, or by its name between double braces.

* `operandNumber_bare` : the bare name is the number of the variable;
* `Value.named?` : the variable that the text of a value names;
  `operandNumber_braced` : between braces it is the number of that variable, if there is one, and else the number that
  the text writes;
* `filledNumber_bare`, `filledNumber_braced` : the same for an operand that has to be filled in first;
* `operandNumber_spellings` : so both are one number where the text of the variable names no other one;
  `operandNumber_ne` shows that it may name one.
-/

namespace CommandFlow

/-- The variable that the text of a value names, if it is a single word. -/
def Value.named? (v : Value) (bindings : Variables) : Option Value :=
  let word := Text.strip v.toText
  if isSingleWord word then Entries.get? bindings word else none

theorem not_mem_of_isBlank {cs : List Char} (h : ∀ c ∈ cs, Text.isBlank c = true) : '\x7b' ∉ cs := by
  intro hmem
  have hblank := h _ hmem
  revert hblank
  decide

theorem forall_isWord {name : List Char} (h : isSingleWord (String.ofList name) = true) :
    ∀ c ∈ name, Text.isWord c = true := by
  rw [isSingleWord, String.toList_ofList, Bool.and_eq_true] at h
  exact List.all_eq_true.mp h.2

theorem filledNumber_of_fillValue {v w : Value} {bindings : Variables} {context : Context}
    (h : Template.fillValue v bindings context = .ok w) :
    filledNumber v bindings context = operandNumber v bindings context := by
  rw [filledNumber, h]
  rfl

section
variable {before after : List Char} (hbefore : ∀ c ∈ before, Text.isBlank c = true)
  (hafter : ∀ c ∈ after, Text.isBlank c = true) {bindings : Variables} {v : Value}

include hbefore hafter

theorem not_mem_bare {name : List Char} (hname : isSingleWord (String.ofList name) = true) :
    '\x7b' ∉ (String.ofList (before ++ (name ++ after))).toList := by
  rw [String.toList_ofList, List.mem_append, List.mem_append, not_or, not_or]
  refine ⟨not_mem_of_isBlank hbefore, fun hmem => ?_, not_mem_of_isBlank hafter⟩
  have hopen := forall_isWord hname _ hmem
  revert hopen
  decide

theorem filledNumber_bare {name : List Char} (hname : isSingleWord (String.ofList name) = true) (context : Context) :
    filledNumber (.text (String.ofList (before ++ (name ++ after)))) bindings context =
      operandNumber (.text (String.ofList (before ++ (name ++ after)))) bindings context :=
  filledNumber_of_fillValue (congrArg (Except.map Value.text)
    (Template.fill_of_not_mem (not_mem_bare hbefore hafter hname) bindings context))

theorem filledNumber_braced {p : Template.Placeholder} (hp : p.IsProper)
    (hvalue : Entries.get? bindings (String.ofList p.name) = some v) (context : Context) :
    filledNumber (.text (String.ofList (before ++ (p.source ++ after)))) bindings context =
      if v.isWritable then operandNumber (.text (String.ofList (before ++ (p.source ++ after)))) bindings context
      else .error .tooLong := by
  have hblank {cs : List Char} (h : ∀ c ∈ cs, Text.isBlank c = true) :
      Template.isFillable (String.ofList cs) bindings context = true :=
    Template.isFillable_of_not_mem (by simpa using not_mem_of_isBlank h) bindings context
  have hlookup : Template.lookup (String.ofList p.name) bindings context = some v := by
    rw [Template.lookup, hvalue]
  have hfillable : Template.isFillable (String.ofList (before ++ (p.source ++ after))) bindings context =
    v.isWritable := by
    rw [Template.isFillable_append_of_lookup hp hlookup, hblank hbefore, hblank hafter, Bool.true_and, Bool.and_true]
  rw [filledNumber, Template.fillValue, Template.fill, hfillable]
  generalize operandNumber _ bindings context = number
  cases v.isWritable <;> rfl

theorem operandNumber_bare {name : List Char} (hname : isSingleWord (String.ofList name) = true)
    (hvalue : Entries.get? bindings (String.ofList name) = some v) (context : Context) :
    operandNumber (.text (String.ofList (before ++ (name ++ after)))) bindings context = v.toNumber := by
  have hword := forall_isWord hname
  have hopen := not_mem_bare hbefore hafter hname
  have hstrip : Text.strip (String.ofList (before ++ (name ++ after))) = String.ofList name := by
    rw [Text.strip, String.toList_ofList, Text.stripChars_blanks hbefore hafter, Text.stripChars_eq_self]
    intro c hc
    cases hblank : Text.isBlank c with
    | false => rfl
    | true => exact absurd (hword c hc) (by simp [Text.isWord_eq_false_of_isBlank hblank])
  rw [operandNumber, Template.interpolate_of_not_mem hopen, hstrip]
  simp only [hname, reduceIte, hvalue]

theorem operandNumber_braced {p : Template.Placeholder} (hp : p.IsProper)
    (hvalue : Entries.get? bindings (String.ofList p.name) = some v) (context : Context) :
    operandNumber (.text (String.ofList (before ++ (p.source ++ after)))) bindings context =
      (v.named? bindings).elim (Value.text v.toText).toNumber Value.toNumber := by
  have hblank {cs : List Char} (h : ∀ c ∈ cs, Text.isBlank c = true) :
      Template.interpolate (String.ofList cs) bindings context = String.ofList cs :=
    Template.interpolate_of_not_mem (by simpa using not_mem_of_isBlank h) bindings context
  have hlookup : Template.lookup (String.ofList p.name) bindings context = some v := by
    rw [Template.lookup, hvalue]
  have htext : Template.interpolate (String.ofList (before ++ (p.source ++ after))) bindings context =
      String.ofList (before ++ (v.toText.toList ++ after)) := by
    rw [Template.interpolate_append_of_lookup hp hlookup, hblank hbefore, hblank hafter, String.ofList_append,
      String.ofList_append, String.ofList_toList]
  have hstrip : Text.strip (String.ofList (before ++ (v.toText.toList ++ after))) = Text.strip v.toText := by
    rw [Text.strip, String.toList_ofList, Text.stripChars_blanks hbefore hafter, Text.strip]
  have hagain : (Value.text (Text.strip v.toText)).toNumber = (Value.text v.toText).toNumber := by
    rw [Value.toNumber, Text.strip, String.toList_ofList, Text.stripChars_stripChars, Value.toNumber]
  rw [operandNumber, htext, hstrip, Value.named?]
  split
  · rename_i w hw
    rw [hw, Option.elim_some]
  · rename_i hw
    rw [hw, Option.elim_none, hagain]

end

/-- The bare name of a variable, with blanks around it, is the number of the variable, once. The name between double
braces, with blanks inside and outside, is the same number, but for the sign of zero, where the variable is neither null
nor a truth value nor an integer out of range and its text is not the name of a variable; else it is the number of the
variable that the text names or, if it names none, the number that the text writes. Only a variable with an integer that
is too long for a text cannot be filled in between braces. -/
theorem operandNumber_spellings {p : Template.Placeholder} (hp : p.IsProper)
    (hname : isSingleWord (String.ofList p.name) = true) {before after : List Char}
    (hbefore : ∀ c ∈ before, Text.isBlank c = true) (hafter : ∀ c ∈ after, Text.isBlank c = true)
    {bindings : Variables} {v : Value} (hvalue : Entries.get? bindings (String.ofList p.name) = some v)
    (hformat : v.InFormat) (context : Context) :
    let bare := operandNumber (.text (String.ofList (before ++ (p.name ++ after)))) bindings context
    let braced := operandNumber (.text (String.ofList (before ++ (p.source ++ after)))) bindings context
    bare = v.toNumber ∧
    (v.named? bindings = none ∧ v ≠ .null ∧ (∀ b, v ≠ .bool b) ∧ ¬ v.IsTooLarge →
      braced.map Value.ofNumber = bare.map Value.ofNumber) ∧
    braced.map Value.ofNumber =
      ((v.named? bindings).elim v.writtenNumber Value.toNumber).map Value.ofNumber ∧
    filledNumber (.text (String.ofList (before ++ (p.name ++ after)))) bindings context = bare ∧
    filledNumber (.text (String.ofList (before ++ (p.source ++ after)))) bindings context =
      if v.isWritable then braced else .error .tooLong := by
  intro bare braced
  have hbare : bare = v.toNumber := operandNumber_bare hbefore hafter hname hvalue context
  have hbraced : braced.map Value.ofNumber =
      ((v.named? bindings).elim v.writtenNumber Value.toNumber).map Value.ofNumber := by
    have hnumber : braced = (v.named? bindings).elim (Value.text v.toText).toNumber Value.toNumber :=
      operandNumber_braced hbefore hafter hp hvalue context
    rw [hnumber]
    cases v.named? bindings with
    | none => exact Value.toNumber_toText hformat
    | some w => rfl
  refine ⟨hbare, ?_, hbraced, filledNumber_bare hbefore hafter hname context,
    filledNumber_braced hbefore hafter hp hvalue context⟩
  rintro ⟨hnone, hnull, hbool, hrange⟩
  rw [hbraced, hbare, hnone, Option.elim_none, Value.writtenNumber_eq hnull hbool hrange]

/-- A text with blanks around a numeral, in a variable between variables that are not named. -/
theorem operandNumber_spellings_text :
    let p : Template.Placeholder := ⟨[' '], ['n', '1'], ['\t']⟩
    let bindings : Variables := [("7", .null), ("n1", .text "+7.50 "), ("n", .bool true)]
    p.IsProper ∧ isSingleWord (String.ofList p.name) = true ∧ Text.isBlank ' ' = true ∧
      Entries.get? bindings (String.ofList p.name) = some (.text "+7.50 ") ∧ (Value.text "+7.50 ").InFormat ∧
      operandNumber (.text (String.ofList ([' '] ++ (p.name ++ [' '])))) bindings .standIn =
        .ok (.finite false (15 * Nat.pow 2 1073)) ∧
      (operandNumber (.text (String.ofList ([' '] ++ (p.source ++ [' '])))) bindings .standIn).map Value.ofNumber =
        (operandNumber (.text (String.ofList ([' '] ++ (p.name ++ [' '])))) bindings .standIn).map Value.ofNumber := by
  intro p bindings
  have hp : p.IsProper := ⟨List.all_eq_true.mp rfl, ⟨List.cons_ne_nil _ _, List.all_eq_true.mp rfl⟩,
    List.all_eq_true.mp rfl⟩
  have hname : isSingleWord (String.ofList p.name) = true := by decide
  have hblank : ∀ c ∈ [' '], Text.isBlank c = true := List.all_eq_true.mp rfl
  have hvalue : Entries.get? bindings (String.ofList p.name) = some (.text "+7.50 ") := rfl
  have hsame := operandNumber_spellings hp hname hblank hblank hvalue nofun .standIn
  have hnumber : (Value.text "+7.50 ").toNumber = .ok (.finite false (15 * Nat.pow 2 1073)) := by decide +kernel
  refine ⟨hp, hname, by decide, hvalue, nofun, hsame.1.trans hnumber,
    hsame.2.1 ⟨by decide +kernel, by simp, by simp, ?_⟩⟩
  intro hrange
  cases hnumber.symm.trans ((Value.toNumber_eq_error_iff _ .tooLarge).mpr ⟨rfl, hrange⟩)

/-- A variable that holds the name of another one: the bare name is no number, the name between braces is the number of
the other. -/
theorem operandNumber_ne :
    let p : Template.Placeholder := ⟨[], ['a'], []⟩
    let bindings : Variables := [("a", .text "b"), ("b", .int 5)]
    operandNumber (.text (String.ofList p.name)) bindings .standIn = .ok .nan ∧
      operandNumber (.text (String.ofList p.source)) bindings .standIn = .ok (.ofInt 5) := by
  intro p bindings
  have hp : p.IsProper := ⟨by simp [p], ⟨List.cons_ne_nil _ _, List.all_eq_true.mp rfl⟩, by simp [p]⟩
  have hnone : ∀ c ∈ ([] : List Char), Text.isBlank c = true := by simp
  have hvalue : Entries.get? bindings (String.ofList p.name) = some (.text "b") := rfl
  have hbare := operandNumber_bare hnone hnone (by decide) hvalue .standIn
  have hbraced := operandNumber_braced hnone hnone hp hvalue .standIn
  simp only [List.nil_append, List.append_nil] at hbare hbraced
  rw [hbare, hbraced]
  decide +kernel

end CommandFlow
