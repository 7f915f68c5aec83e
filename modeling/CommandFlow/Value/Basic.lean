import CommandFlow.Binary64.Basic
import CommandFlow.Entries

/-!
# Values

* `Value` : what variables, options, documents and messages hold;
* `isTruthy` : a value other than null, false, zero and the empty ones;
* `get?` : the member of an object.
-/

namespace CommandFlow

/-- A value of a document or of a variable. The members of an object keep their order. -/
inductive Value where
  | null
  | bool (b : Bool)
  | int (i : Int)
  | float (x : Binary64)
  | text (s : String)
  | list (items : List Value)
  | object (members : List (String × Value))

namespace Value

instance : Inhabited Value := ⟨null⟩

/-- Everything but null, false, a zero, an empty text, an empty list and an empty object. -/
def isTruthy : Value → Bool
  | null => false
  | bool b => b
  | int i => i != 0
  | float x => !x.isZero
  | text s => !s.isEmpty
  | list items => !items.isEmpty
  | object members => !members.isEmpty

/-- The value itself if it is truthy, else the alternative. -/
def orElse (v alternative : Value) : Value := if v.isTruthy then v else alternative

def isNull : Value → Bool
  | null => true
  | _ => false

def get? : Value → String → Option Value
  | object members, name => Entries.get? members name
  | _, _ => none

def ofText? : Option String → Value
  | some s => text s
  | none => null

def ofNat (n : Nat) : Value := int n

/-- The number is the given integer, whether it is kept as an integer, a truth value or a
floating-point number. -/
def isInteger (v : Value) (n : Int) : Bool :=
  match v with
  | bool b => (if b then 1 else 0) == n
  | int i => i == n
  | float x => x.toInt? == some n
  | _ => false

end Value

abbrev Variables := Entries Value

end CommandFlow
