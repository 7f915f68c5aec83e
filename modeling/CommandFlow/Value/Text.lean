import CommandFlow.Value.Basic
import CommandFlow.Binary64.Decimal
import CommandFlow.Json.Fault
import CommandFlow.Text.Quoted

/-!
# The text of a value

* `literal` : the form of a value inside a list or an object, texts quoted;
* `plain` : the same, but a text on its own as it is;
* `toText` : the form used for substitution and comparison: null is empty, truth values are lower
  case, and a floating-point number that is an integer is written as one;
* `isWritable`, `write` : no integer in the value is too long for a text; the form of such a value.
-/

namespace CommandFlow

/-- What is wrong with an integer: it is out of the range of floating-point numbers, or has too many digits for a
text. -/
inductive IntegerFault where
  | tooLarge
  | tooLong
  deriving DecidableEq

namespace Value

def integerText (i : Int) : String :=
  String.ofList ((if i < 0 then ['-'] else []) ++ Binary64.naturalDigits i.natAbs)

mutual

/-- The form of a value inside a list or an object. -/
def literal : Value → String
  | null => "None"
  | bool true => "True"
  | bool false => "False"
  | int i => integerText i
  | float x => x.text
  | text s => Text.quote s
  | list items => "[" ++ ", ".intercalate (literals items) ++ "]"
  | object members => "\x7b" ++ ", ".intercalate (memberLiterals members) ++ "\x7d"

def literals : List Value → List String
  | [] => []
  | v :: rest => literal v :: literals rest

def memberLiterals : List (String × Value) → List String
  | [] => []
  | (name, v) :: rest => (Text.quote name ++ ": " ++ literal v) :: memberLiterals rest

end

/-- The form of a value on its own: a text as it is, anything else as a literal. -/
def plain : Value → String
  | text s => s
  | v => literal v

def floatText (x : Binary64) : String :=
  match x with
  | .nan => "NaN"
  | .infinite false => "Infinity"
  | .infinite true => "-Infinity"
  | .finite _ _ =>
    match x.toInt? with
    | some i => integerText i
    | none => x.text

/-- The form used for substitution and for comparing texts. -/
def toText : Value → String
  | null => ""
  | bool true => "true"
  | bool false => "false"
  | float x => floatText x
  | v => plain v

/-! ## Integers that are too long -/

mutual

/-- No integer in the value is too long for a text. -/
def isWritable : Value → Bool
  | int i => Binary64.decimalLength i.natAbs ≤ Json.digitLimit
  | list items => areWritable items
  | object members => areWritableMembers members
  | _ => true

/-- No integer in the items is too long for a text. -/
def areWritable : List Value → Bool
  | [] => true
  | v :: rest => isWritable v && areWritable rest

/-- No integer in the members is too long for a text. -/
def areWritableMembers : List (String × Value) → Bool
  | [] => true
  | (_, v) :: rest => isWritable v && areWritableMembers rest

end

/-- What is made of texts of integers, if none of these is too long. -/
def ifShort {α : Type} (short : Bool) (a : α) : Except IntegerFault α :=
  if short then .ok a else .error .tooLong

theorem ifShort_eq_ok {α : Type} {short : Bool} {a b : α} : ifShort short a = .ok b ↔ short = true ∧ a = b := by
  cases short <;> simp [ifShort]

theorem ifShort_eq_error {α : Type} {short : Bool} {a : α} {e : IntegerFault} :
    ifShort short a = .error e ↔ short = false ∧ e = .tooLong := by
  cases short <;> simp [ifShort, eq_comm]

/-- The form used for substitution and for comparing texts, if there is one. -/
def write (v : Value) : Except IntegerFault String := ifShort v.isWritable v.toText

theorem write_of_isWritable {v : Value} (h : v.isWritable = true) : v.write = .ok v.toText :=
  ifShort_eq_ok.mpr ⟨h, rfl⟩

end Value

end CommandFlow
