import CommandFlow.Binary64.Basic

/-!
# Decimal forms of floating-point numbers

* `ofDecimal` : the number nearest to a decimal numeral;
* `shortest` : the fewest decimal digits that read back as the same number, and of those the ones
  nearest to it;
* `Style`, `Style.write` : how digits and a decimal exponent are laid out;
* `text` : the written form of a number, positional from `10⁻⁴` up to `10¹⁶`.
-/

namespace CommandFlow.Binary64

/-! ## Reading -/

/-- The number of decimal digits of `n`, one for zero. -/
def decimalLength (n : Nat) : Nat := (Nat.toDigits 10 n).length

/-- The number nearest to `± digits · 10 ^ exponent`. Exponents so large or so small that the result
is infinite or zero in any case are decided without computing the power. -/
def ofDecimal (negative : Bool) (digits : Nat) (exponent : Int) : Binary64 :=
  let top := exponent + decimalLength digits
  if digits = 0 || top < -330 then finite negative 0
  else if 310 < top then infinite negative
  else if 0 ≤ exponent then ofRatio negative (digits * Nat.pow 10 exponent.toNat) 1
  else ofRatio negative digits (Nat.pow 10 (-exponent).toNat)

/-! ## Shortest digits -/

/-- The values that round to `steps`, four to a step: the two ends, and whether they belong. -/
def neighbourhood (steps : Nat) : Nat × Nat × Bool :=
  let grid := Nat.pow 2 (excess steps)
  let below := if steps = Nat.pow 2 steps.log2 && 1 < grid then grid / 2 else grid
  (4 * steps - 2 * below, 4 * steps + 2 * grid, steps / grid % 2 = 0)

/-- The multiple of `10 ^ exponent` nearest to `steps`, among the two next to it that round to
`steps`; a tie goes to the even one. -/
def onGrid? (steps : Nat) (exponent : Int) : Option Nat :=
  let (low, high, closed) := neighbourhood steps
  let up := Nat.pow 10 exponent.toNat * (4 * one)
  let down := Nat.pow 10 (-exponent).toNat
  let reads (c : Nat) : Bool :=
    if closed then low * down ≤ c * up && c * up ≤ high * down
    else low * down < c * up && c * up < high * down
  let floor := 4 * steps * down / up
  let rest := 4 * steps * down % up
  let ceilingNearer := up < 2 * rest || (up = 2 * rest && floor % 2 = 1)
  if reads floor && !(reads (floor + 1) && ceilingNearer) then some floor
  else if reads (floor + 1) then some (floor + 1)
  else none

/-- The first grid, from `10 ^ exponent` downwards, that has a point reading back as `steps`. -/
def searchGrid (steps : Nat) : Nat → Int → Nat × Int
  | 0, exponent => (0, exponent)
  | fuel + 1, exponent =>
    match onGrid? steps exponent with
    | some digits => (digits, exponent)
    | none => searchGrid steps fuel (exponent - 1)

/-- An exponent whose power of ten exceeds the number. -/
def startExponent (steps : Nat) : Int := ((steps.log2 : Int) - 1073) * 30103 / 100000 + 2

/-- The fewest decimal digits that read back as `steps`, with the exponent of the last of them. -/
def shortest (steps : Nat) : Nat × Int := searchGrid steps 24 (startExponent steps)

/-! ## Layout -/

/-- How a decimal numeral is laid out. -/
structure Style where
  /-- The least exponent of the first digit that is written positionally. -/
  positionalFrom : Int
  /-- The least exponent of the first digit that is written as a power again. -/
  powerFrom : Int
  /-- The least number of digits of a written exponent. -/
  exponentDigits : Nat

def naturalDigits (n : Nat) : List Char := Nat.toDigits 10 n

/-- The written exponent: the mark, a sign and the digits. -/
def Style.writeExponent (style : Style) (exponent : Int) : List Char :=
  let digits := naturalDigits exponent.natAbs
  'e' :: (if exponent < 0 then '-' else '+') ::
    (List.replicate (style.exponentDigits - digits.length) '0' ++ digits)

def Style.write (style : Style) (digits : Nat) (exponent : Int) : List Char :=
  let ds := naturalDigits digits
  let point : Int := exponent + ds.length
  let leading := point - 1
  if style.positionalFrom ≤ leading && leading < style.powerFrom then
    if point ≤ 0 then '0' :: '.' :: (List.replicate (-point).toNat '0' ++ ds)
    else if (ds.length : Int) ≤ point then
      ds ++ List.replicate (point.toNat - ds.length) '0' ++ ['.', '0']
    else ds.take point.toNat ++ '.' :: ds.drop point.toNat
  else
    match ds with
    | [] => []
    | [d] => d :: style.writeExponent leading
    | d :: rest => d :: '.' :: (rest ++ style.writeExponent leading)

/-- Numbers are positional from `10⁻⁴` up to `10¹⁶`; exponents have two digits or more. -/
def numberStyle : Style := ⟨-4, 16, 2⟩

/-- The written form of the absolute value of a finite number. -/
def magnitudeText (steps : Nat) : List Char :=
  if steps = 0 then ['0', '.', '0']
  else
    let (digits, exponent) := shortest steps
    numberStyle.write digits exponent

def text : Binary64 → String
  | nan => "nan"
  | infinite false => "inf"
  | infinite true => "-inf"
  | finite negative steps =>
    String.ofList ((if negative then ['-'] else []) ++ magnitudeText steps)

end CommandFlow.Binary64
