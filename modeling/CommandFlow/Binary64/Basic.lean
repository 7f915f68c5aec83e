/-!
# Binary floating-point numbers of 64 bits

A finite number of the format is an integral multiple of `2⁻¹⁰⁷⁴`, so it is kept as a sign and a
number of such steps. Every operation is the exact one followed by one rounding.

* `Binary64` : not-a-number, the infinities and the finite numbers with their sign;
* `nearestEven` : the integer nearest to a quotient, a half going to the even neighbour;
* `roundSteps` : a quotient rounded to 53 significant bits;
* `ofRatio`, `ofInt` : the number nearest to an exact value;
* `add`, `sub`, `mul`, `div`, `rem` : arithmetic; `lt` : the order;
* `toInt?` : the integer that a number is, if it is one.
-/

namespace CommandFlow

/-- A floating-point number: `finite negative steps` is `± steps · 2⁻¹⁰⁷⁴`. -/
inductive Binary64 where
  | nan
  | infinite (negative : Bool)
  | finite (negative : Bool) (steps : Nat)
  deriving DecidableEq

namespace Binary64

/-! ## Rounding -/

/-- The number of steps in one: `2¹⁰⁷⁴`. -/
def one : Nat := Nat.pow 2 1074

/-- The least number of steps that is too large to be finite: `2¹⁰²⁴` in steps. -/
def tooLarge : Nat := Nat.pow 2 2098

/-- The integer nearest to `num / den`; a half goes to the even neighbour. -/
def nearestEven (num den : Nat) : Nat :=
  let quotient := num / den
  let twice := 2 * (num % den)
  if twice < den then quotient
  else if den < twice then quotient + 1
  else quotient + quotient % 2

/-- The number of binary digits of `n` beyond the 53 that a significand holds. -/
def excess (n : Nat) : Nat := n.log2 - 52

/-- The multiple of a power of two with 53 significant bits that is nearest to `num / den`. -/
def roundSteps (num den : Nat) : Nat :=
  let grid := Nat.pow 2 (excess (num / den))
  nearestEven num (den * grid) * grid

/-- The number of the given steps, infinite if they are too many. -/
def ofSteps (negative : Bool) (steps : Nat) : Binary64 :=
  if steps < tooLarge then finite negative steps else infinite negative

/-- The number nearest to `± num / den`. -/
def ofRatio (negative : Bool) (num den : Nat) : Binary64 :=
  ofSteps negative (roundSteps (one * num) den)

/-- The number nearest to an integer, infinite if it is out of range. -/
def ofInt (i : Int) : Binary64 := ofRatio (i < 0) i.natAbs 1

/-- Zero, the positive one. -/
def zero : Binary64 := finite false 0

/-! ## Classes -/

def isFinite : Binary64 → Bool
  | finite _ _ => true
  | _ => false

def isNaN : Binary64 → Bool
  | nan => true
  | _ => false

def isZero : Binary64 → Bool
  | finite _ steps => steps == 0
  | _ => false

/-- A finite number as a signed number of steps. -/
def signed (negative : Bool) (steps : Nat) : Int := if negative then -(steps : Int) else steps

/-- The integer that a number is, if it is one. -/
def toInt? : Binary64 → Option Int
  | finite negative steps =>
    if steps % one = 0 then some (signed negative (steps / one)) else none
  | _ => none

/-- The integer next to a finite number on the side of zero. -/
def truncate? : Binary64 → Option Int
  | finite negative steps => some (signed negative (steps / one))
  | _ => none

/-! ## Arithmetic -/

def neg : Binary64 → Binary64
  | nan => nan
  | infinite s => infinite !s
  | finite s n => finite (!s) n

/-- Sum; opposite infinities have none, and a sum of zero is negative only for two negative zeros. -/
def add : Binary64 → Binary64 → Binary64
  | nan, _ => nan
  | _, nan => nan
  | infinite s, infinite t => if s = t then infinite s else nan
  | infinite s, finite _ _ => infinite s
  | finite _ _, infinite t => infinite t
  | finite s m, finite t n =>
    let sum := signed s m + signed t n
    if sum = 0 then finite (s && t) 0 else ofSteps (sum < 0) (roundSteps sum.natAbs 1)

def sub (x y : Binary64) : Binary64 := add x (neg y)

/-- Product; zero times infinity has none. -/
def mul : Binary64 → Binary64 → Binary64
  | nan, _ => nan
  | _, nan => nan
  | infinite s, infinite t => infinite (s != t)
  | infinite s, finite t n => if n = 0 then nan else infinite (s != t)
  | finite s m, infinite t => if m = 0 then nan else infinite (s != t)
  | finite s m, finite t n => ofSteps (s != t) (roundSteps (m * n) one)

/-- Quotient; zero by zero and infinity by infinity have none. -/
def div : Binary64 → Binary64 → Binary64
  | nan, _ => nan
  | _, nan => nan
  | infinite _, infinite _ => nan
  | infinite s, finite t _ => infinite (s != t)
  | finite s _, infinite t => finite (s != t) 0
  | finite s m, finite t n =>
    if n = 0 then (if m = 0 then nan else infinite (s != t))
    else ofSteps (s != t) (roundSteps (one * m) n)

/-- Remainder of the division that truncates: exact, with the sign of the dividend. -/
def rem : Binary64 → Binary64 → Binary64
  | nan, _ => nan
  | _, nan => nan
  | infinite _, _ => nan
  | finite s m, infinite _ => finite s m
  | finite s m, finite _ n => if n = 0 then nan else finite s (m % n)

/-! ## Order -/

/-- `x < y`; never for not-a-number. -/
def lt : Binary64 → Binary64 → Bool
  | nan, _ => false
  | _, nan => false
  | infinite s, infinite t => s && !t
  | infinite s, finite _ _ => s
  | finite _ _, infinite t => !t
  | finite s m, finite t n => signed s m < signed t n

/-- The lesser of two numbers, the first unless the second is less. -/
def min (x y : Binary64) : Binary64 := if lt y x then y else x

end Binary64

end CommandFlow
