/-!
# A twisted Edwards curve

The curve `-x² + y² = 1 + d·x²·y²` over the integers modulo `2²⁵⁵ - 19`, on which signatures are made.

* `Point` : a point as a quotient, with the product of its coordinates;
* `Point.add`, `Point.double`, `Point.times` : the group;
* `Point.read?`, `Point.bytes` : a point as 32 bytes.
-/

namespace CommandFlow.Curve

/-! ## The field -/

def modulus : Nat := Nat.pow 2 255 - 19

/-- The number of multiples of the base point. -/
def order : Nat := Nat.pow 2 252 + 27742317777372353535851937790883648493

def sub (a b : Nat) : Nat := (a + (modulus - b % modulus)) % modulus

def mul (a b : Nat) : Nat := a * b % modulus

def powerOf (a : Nat) : (digits n : Nat) → Nat
  | 0, _ => 1
  | digits + 1, n =>
    let half := powerOf a digits (n / 2)
    let square := mul half half
    if n % 2 = 1 then mul square a else square

def power (a n : Nat) : Nat := powerOf a (n.log2 + 1) n

def inverse (a : Nat) : Nat := power a (modulus - 2)

/-- The coefficient of the curve. -/
def coefficient : Nat := mul (modulus - 121665) (inverse 121666)

/-- A square root of minus one. -/
def unitRoot : Nat := power 2 ((modulus - 1) / 4)

/-- A square root of a quotient, if there is one. -/
def quotientRoot? (u v : Nat) : Option Nat :=
  let v3 := mul (mul v v) v
  let v7 := mul (mul v3 v3) v
  let root := mul (mul u v3) (power (mul u v7) ((modulus - 5) / 8))
  let check := mul v (mul root root)
  if check = u % modulus then some root
  else if check = sub 0 u then some (mul root unitRoot)
  else none

/-! ## Points -/

/-- The point `(x / z, y / z)`, with `t = x · y / z`. -/
structure Point where
  x : Nat
  y : Nat
  z : Nat
  t : Nat

namespace Point

/-- The neutral point. -/
def neutral : Point := ⟨0, 1, 1, 0⟩

def ofCoordinates (x y : Nat) : Point := ⟨x, y, 1, mul x y⟩

def add (p q : Point) : Point :=
  let a := mul (sub p.y p.x) (sub q.y q.x)
  let b := mul (p.y + p.x) (q.y + q.x)
  let c := mul (mul p.t (2 * coefficient)) q.t
  let d := mul (2 * p.z) q.z
  let e := sub b a
  let f := sub d c
  let g := d + c
  let h := b + a
  ⟨mul e f, mul g h, mul f g, mul e h⟩

def neg (p : Point) : Point := ⟨sub 0 p.x, p.y, p.z, sub 0 p.t⟩

/-- A multiple of a point, by the last binary digits of the number. -/
def timesOf (p : Point) : (digits n : Nat) → Point
  | 0, _ => neutral
  | digits + 1, n =>
    let half := timesOf p digits (n / 2)
    let double := add half half
    if n % 2 = 1 then add double p else double

def times (n : Nat) (p : Point) : Point := timesOf p (n.log2 + 1) n

/-! ## Bytes -/

/-- The number of bytes, least significant first. -/
def numberOf (bytes : List UInt8) : Nat := bytes.foldr (fun b n => b.toNat + 256 * n) 0

def bytesOf (count n : Nat) : List UInt8 :=
  (List.range count).map fun i => UInt8.ofNat (n / Nat.pow 256 i)

/-- The point of 32 bytes: the second coordinate, and the lowest bit of the first one on top. -/
def read? (bytes : List UInt8) : Option Point :=
  let n := numberOf bytes
  let y := n % Nat.pow 2 255 % modulus
  let isOdd := n / Nat.pow 2 255
  let square := mul y y
  (quotientRoot? (sub square 1) (mul coefficient square + 1)).map fun x =>
    ofCoordinates (if x % 2 = isOdd then x else sub 0 x) y

def bytes (p : Point) : List UInt8 :=
  let scale := inverse p.z
  let x := mul p.x scale
  let y := mul p.y scale
  bytesOf 32 (y + x % 2 * Nat.pow 2 255)

def base : Point :=
  let y := mul 4 (inverse 5)
  (read? (bytesOf 32 y)).getD neutral

end Point

end CommandFlow.Curve
