import CommandFlow.Value.Number

/-!
# Conditions

* `Operator` : the comparisons that a condition can make, with their names;
* `Operator.holds` : the outcome of a comparison of two values. Texts are compared by the operators on
  texts and by equality, numbers by the two that order.
-/

namespace CommandFlow

inductive Operator where
  | equals
  | notEquals
  | greaterThan
  | lessThan
  | contains
  | startsWith
  | endsWith
  | isEmpty
  | isNotEmpty
  deriving DecidableEq

namespace Operator

def all : List Operator :=
  [equals, notEquals, greaterThan, lessThan, contains, startsWith, endsWith, isEmpty, isNotEmpty]

def name : Operator → String
  | equals => "equals"
  | notEquals => "not_equals"
  | greaterThan => "greater_than"
  | lessThan => "less_than"
  | contains => "contains"
  | startsWith => "starts_with"
  | endsWith => "ends_with"
  | isEmpty => "is_empty"
  | isNotEmpty => "is_not_empty"

def ofName? (s : String) : Option Operator := all.find? (·.name = s)

theorem ofName?_name (o : Operator) : ofName? o.name = some o := by
  cases o <;> decide

/-- The characters occur in a row somewhere in the text. -/
def occursIn (part : List Char) : List Char → Bool
  | [] => part.isEmpty
  | c :: rest => part.isPrefixOf (c :: rest) || occursIn part rest

/-- Compares two values as numbers. -/
def compareNumbers (less : Binary64 → Binary64 → Bool) (left right : Value) :
    Except IntegerFault Bool := do
  let x ← left.toNumber
  let y ← right.toNumber
  return less x y

/-- Compares the texts of two values, the left one being written first. -/
def compareTexts (compare : String → String → Bool) (left right : Value) : Except IntegerFault Bool := do
  let s ← left.write
  let t ← right.write
  return compare s t

/-- The outcome of a comparison. An integer out of range is no number, and one that is too long is no text. -/
def holds (operator : Operator) (left right : Value) : Except IntegerFault Bool :=
  match operator with
  | equals => compareTexts (· == ·) left right
  | notEquals => compareTexts (· != ·) left right
  | greaterThan => compareNumbers (fun x y => y.lt x) left right
  | lessThan => compareNumbers Binary64.lt left right
  | contains => compareTexts (fun s part => occursIn part.toList s.toList) left right
  | startsWith => compareTexts (fun s part => part.toList.isPrefixOf s.toList) left right
  | endsWith => compareTexts (fun s part => part.toList.isSuffixOf s.toList) left right
  | isEmpty => left.isBlank
  | isNotEmpty => left.isBlank.map (!·)

end Operator

end CommandFlow
