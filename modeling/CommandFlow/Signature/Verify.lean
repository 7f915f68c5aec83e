import CommandFlow.Signature.Curve
import CommandFlow.Signature.Sha512
import CommandFlow.Text.Digit

/-!
# Signatures of messages

* `Signature.readHex?` : bytes written in hexadecimal digits;
* `Signature.holds` : the signature of a message under a public key.
-/

namespace CommandFlow.Signature

open Curve

/-- White space between the bytes of a hexadecimal text. -/
def isGap (c : Char) : Bool := c == ' ' || (0x9 ≤ c.toNat && c.toNat ≤ 0xD)

/-- Bytes written as two hexadecimal digits each, with white space around the pairs if wanted. -/
def readHexFrom? : List Char → Option (List UInt8)
  | [] => some []
  | [c] => if isGap c then some [] else none
  | c :: d :: rest =>
    if isGap c then readHexFrom? (d :: rest)
    else
      match Text.hexValue? c, Text.hexValue? d, readHexFrom? rest with
      | some high, some low, some bytes => some (UInt8.ofNat (high * 16 + low) :: bytes)
      | _, _, _ => none

def readHex? (s : String) : Option (List UInt8) := readHexFrom? s.toList

/-- The number by which the key counts: the hash of the first half of the signature, the key and the
message. -/
def challenge (half key message : List UInt8) : Nat :=
  Point.numberOf (Sha512.hash (half ++ key ++ message)) % order

/-- The signature is one of the message under the key: its first half is what its second half, the key and
the message make. -/
def verify (key signature message : List UInt8) : Bool :=
  if key.length != 32 || signature.length != 64 then false
  else
    let half := signature.take 32
    let scalar := Point.numberOf (signature.drop 32)
    if order ≤ scalar then false
    else match Point.read? key with
    | none => false
    | some point =>
      let made := (Point.times scalar Point.base).add
        (Point.times (challenge half key message) point.neg)
      made.bytes == half

/-- The signature of a text under a key, both written in hexadecimal digits. -/
def holds (key signature : String) (message : List UInt8) : Bool :=
  match readHex? key, readHex? signature with
  | some key, some signature => verify key signature message
  | _, _ => false

end CommandFlow.Signature
