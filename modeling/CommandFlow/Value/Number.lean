import CommandFlow.Value.Text
import CommandFlow.Text.Numeral

/-!
# The number of a value

Numbers are read leniently: a blank text is zero, and what is no number at all is not-a-number.

* `Binary64.ofNumeral` : the number nearest to a numeral;
* `Value.toNumber` : the number of a value; only an integer out of range has none;
* `Value.ofNumber` : a number as a value, an integer where it is one;
* `Value.isBlank` : null, false, the empty text, zero and not-a-number.
-/

namespace CommandFlow

def Binary64.ofNumeral (n : Text.Numeral) : Binary64 :=
  .ofDecimal n.negative n.digits n.exponent

namespace Value

/-- The floating-point number nearest to an integer, if one is in range. -/
def numberOfInt (i : Int) : Except IntegerFault Binary64 :=
  let x := Binary64.ofInt i
  if x.isFinite then .ok x else .error .tooLarge

def numberOfText (cs : List Char) : Except IntegerFault Binary64 :=
  if cs.isEmpty then .ok .zero
  else match Text.Numeral.read? cs with
  | some numeral => .ok (.ofNumeral numeral)
  | none =>
    match Text.readHex? cs with
    | some n => numberOfInt n
    | none =>
      if cs = "Infinity".toList || cs = "+Infinity".toList then .ok (.infinite false)
      else if cs = "-Infinity".toList then .ok (.infinite true)
      else .ok .nan

/-- The number of a value: one and zero for truth values, what a text writes, and not-a-number for
null, lists and objects. -/
def toNumber : Value → Except IntegerFault Binary64
  | null => .ok .nan
  | bool b => .ok (.ofInt (if b then 1 else 0))
  | int i => numberOfInt i
  | float x => .ok x
  | text s => numberOfText (Text.stripChars s.toList)
  | list _ => .ok .nan
  | object _ => .ok .nan

/-- A number as a value: an integer where it is one. -/
def ofNumber (x : Binary64) : Value :=
  match x.toInt? with
  | some i => int i
  | none => float x

/-- Null, false, the empty text, zero and not-a-number. An integer other than zero is compared as a
floating-point number, so one out of range has no answer. -/
def isBlank : Value → Except IntegerFault Bool
  | null => .ok true
  | bool b => .ok !b
  | int i => if i = 0 then .ok true else (numberOfInt i).map (·.isNaN)
  | float x => .ok (x.isZero || x.isNaN)
  | text s => .ok s.isEmpty
  | list _ => .ok false
  | object _ => .ok false

end Value

end CommandFlow
