import CommandFlow.Json.Reader
import CommandFlow.Value.Number

/-!
# Declared kinds of variables

* `VariableType` : text, number, truth value or any value;
* `VariableType.coerce` : a value in the form of a kind;
* `VariableScope` : how far a variable is meant to reach.
-/

namespace CommandFlow

/-- The kind of value that a variable is meant to hold. -/
inductive VariableType where
  | string
  | number
  | boolean
  | object
  deriving DecidableEq

namespace VariableType

def all : List VariableType := [string, number, boolean, object]

def name : VariableType → String
  | string => "string"
  | number => "number"
  | boolean => "boolean"
  | object => "object"

def ofName? (s : String) : Option VariableType := all.find? (·.name = s)

theorem ofName?_name (t : VariableType) : ofName? t.name = some t := by
  cases t <;> decide

def trueWords : List String := ["true", "1", "yes", "on"]

/-- A text is true if it is a word for true, in any case and with blanks around it. -/
def isTrueWord (s : String) : Bool :=
  trueWords.contains (String.ofList ((Text.stripChars s.toList).map Char.toLower))

/-- A value in the form of a kind. A text that is no JSON stays a text; an integer out of range has no
number, and one that is too long has no text. -/
def coerce (type : VariableType) (v : Value) : Except IntegerFault Value :=
  match type with
  | string => v.write.map Value.text
  | number => v.toNumber.map Value.ofNumber
  | boolean =>
    match v with
    | .text s => .ok (.bool (isTrueWord s))
    | v => .ok (.bool v.isTruthy)
  | object =>
    match v with
    | .text s =>
      match Json.read s with
      | .ok parsed => .ok parsed
      | .error _ => .ok (.text s)
    | v => .ok v

end VariableType

/-- How far a variable is meant to reach. -/
inductive VariableScope where
  | local
  | global
  | user
  | server
  deriving DecidableEq

namespace VariableScope

def all : List VariableScope := [.local, .global, .user, .server]

def name : VariableScope → String
  | .local => "local"
  | .global => "global"
  | .user => "user"
  | .server => "server"

def ofName? (s : String) : Option VariableScope := all.find? (·.name = s)

theorem ofName?_name (s : VariableScope) : ofName? s.name = some s := by
  cases s <;> decide

end VariableScope

end CommandFlow
