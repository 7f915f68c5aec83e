import CommandFlow.Text.Blank
import CommandFlow.Text.Digit

/-!
# Numerals

* `Numeral` : a sign, digits and a decimal exponent;
* `Numeral.read?` : a numeral as authors write it, with digits of any script, a point and an exponent
  where wanted;
* `readHex?` : a hexadecimal numeral with its mark;
* `readInteger?` : an integer with optional sign and single underscores between its digits.
-/

namespace CommandFlow.Text

structure Numeral where
  negative : Bool
  digits : Nat
  exponent : Int

def takeDigits : List Char → List Nat × List Char
  | [] => ([], [])
  | c :: rest =>
    match digitValue? c with
    | some d =>
      let (ds, after) := takeDigits rest
      (d :: ds, after)
    | none => ([], c :: rest)

/-- Takes a sign at the front; true for a minus. -/
def takeSign : List Char → Bool × List Char
  | '-' :: rest => (true, rest)
  | '+' :: rest => (false, rest)
  | cs => (false, cs)

def withSign (negative : Bool) (n : Nat) : Int := if negative then -(n : Int) else n

/-- Reads what follows the digits of a numeral: nothing, or an exponent with at least one digit. -/
def readExponent? : List Char → Option Int
  | [] => some 0
  | mark :: rest =>
    if mark == 'e' || mark == 'E' then
      let (negative, cs) := takeSign rest
      match takeDigits cs with
      | ([], _) => none
      | (ds, []) => some (withSign negative (ofDigits 10 ds))
      | _ => none
    else none

/-- The numeral of the digits before and after the point. -/
def Numeral.ofParts? (negative : Bool) (whole fraction : List Nat) (rest : List Char) :
    Option Numeral :=
  if whole.isEmpty && fraction.isEmpty then none
  else (readExponent? rest).map fun exponent =>
    ⟨negative, ofDigits 10 (whole ++ fraction), exponent - fraction.length⟩

/-- Reads a whole text as a numeral: digits before or after the point, and maybe an exponent. -/
def Numeral.read? (cs : List Char) : Option Numeral :=
  let (negative, unsigned) := takeSign cs
  match takeDigits unsigned with
  | (whole, '.' :: afterPoint) =>
    let (fraction, rest) := takeDigits afterPoint
    Numeral.ofParts? negative whole fraction rest
  | (whole, rest) => Numeral.ofParts? negative whole [] rest

/-- A text that is a numeral. -/
def isNumeral (cs : List Char) : Bool := (Numeral.read? cs).isSome

/-- Reads a hexadecimal numeral: its mark and at least one digit of either case. -/
def readHex? : List Char → Option Nat
  | '0' :: mark :: digits =>
    if (mark == 'x' || mark == 'X') && !digits.isEmpty then
      (digits.mapM hexValue?).map (ofDigits 16)
    else none
  | _ => none

/-- Reads digits with single underscores between them to the end of the text. -/
def readGrouped? : List Char → Option (List Nat)
  | [] => none
  | [c] => (digitValue? c).map ([·])
  | c :: '_' :: rest => do
    let d ← digitValue? c
    let ds ← readGrouped? rest
    some (d :: ds)
  | c :: rest => do
    let d ← digitValue? c
    let ds ← readGrouped? rest
    some (d :: ds)

/-- Reads an integer: blanks around it, a sign, and digits of any script in groups. -/
def readInteger? (s : String) : Option Int :=
  let (negative, cs) := takeSign (stripChars s.toList)
  (readGrouped? cs).map fun ds => withSign negative (ofDigits 10 ds)

end CommandFlow.Text
