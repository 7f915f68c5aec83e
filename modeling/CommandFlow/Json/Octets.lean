import CommandFlow.Json.Reader
import CommandFlow.Text.Quoted

/-!
# JSON in octets

A JSON text can be written in any of the encodings of Unicode. Which one it is shows in the first octets: they are a
byte order mark, or else stand for characters that are ASCII.

* `Encoding.ofOctets` : the encoding of octets, and what follows the mark;
* `Encoding.decode` : the code points, half characters among them, or what is wrong with the octets;
* `readOctets` : the value of a JSON text;
* `pointsOf` : the code points of a text that is read, half characters among them; `halves?` : the first half characters
  that stand in the way of writing a text in octets.
-/

namespace CommandFlow.Json

inductive Encoding where
  | utf8
  | utf16 (bigEndian : Bool)
  | utf32 (bigEndian : Bool)
  deriving DecidableEq

namespace Encoding

def mark : Encoding → List UInt8
  | utf8 => [0xEF, 0xBB, 0xBF]
  | utf16 true => [0xFE, 0xFF]
  | utf16 false => [0xFF, 0xFE]
  | utf32 true => [0x00, 0x00, 0xFE, 0xFF]
  | utf32 false => [0xFF, 0xFE, 0x00, 0x00]

/-- Every encoding, one before another whose mark begins its own. -/
def all : List Encoding := [utf32 true, utf32 false, utf16 true, utf16 false, utf8]

def name : Encoding → String
  | utf8 => "utf-8"
  | utf16 true => "utf-16-be"
  | utf16 false => "utf-16-le"
  | utf32 true => "utf-32-be"
  | utf32 false => "utf-32-le"

/-- The encoding of octets without a mark, by the zeros among the first of them. -/
def ofZeros : List UInt8 → Encoding
  | a :: b :: c :: d :: _ =>
    if a = 0 then if b = 0 then utf32 true else utf16 true
    else if b = 0 then if c = 0 && d = 0 then utf32 false else utf16 false
    else utf8
  | [a, b] => if a = 0 then utf16 true else if b = 0 then utf16 false else utf8
  | _ => utf8

/-- The encoding of octets, and what follows the mark. -/
def ofOctets (octets : List UInt8) : Encoding × List UInt8 :=
  match all.find? (·.mark.isPrefixOf octets) with
  | some encoding => (encoding, octets.drop encoding.mark.length)
  | none => (ofZeros octets, octets)

/-! ## Code points -/

/-- The complaint about octets from a place on that are no character. -/
def complain (encoding : Encoding) (place : Nat) (octets : List Nat) (reason : String) : Problem :=
  let part := match octets with
    | [octet] => s!"byte 0x{String.ofList (Text.hexPadded 2 octet)} in position {place}"
    | octets => s!"bytes in position {place}-{place + octets.length - 1}"
  .undecodable s!"'{encoding.name}' codec can't decode {part}: {reason}"

/-- How many octets follow the first one of a character in UTF-8. -/
def owedAfter? (first : Nat) : Option Nat :=
  if first < 0x80 then some 0
  else if first < 0xC2 then none
  else if first < 0xE0 then some 1
  else if first < 0xF0 then some 2
  else if first < 0xF5 then some 3
  else none

/-- The octet can follow these octets of a character. Half a character counts as one. -/
def continues (begun : List Nat) (octet : Nat) : Bool :=
  let (least, greatest) := match begun with
    | [0xE0] => (0xA0, 0xBF)
    | [0xF0] => (0x90, 0xBF)
    | [0xF4] => (0x80, 0x8F)
    | _ => (0x80, 0xBF)
  least ≤ octet && octet ≤ greatest

def pointOf : List Nat → Nat
  | [] => 0
  | first :: later =>
    later.foldl (fun point octet => point * 0x40 + octet % 0x40) (first % Nat.pow 2 (6 - later.length))

/-- The complaint about a character that is not complete. What would have been half a character goes wrong from its
second octet on. -/
def complainOf (place : Nat) (begun : List Nat) (reason : String) : Problem :=
  match begun with
  | 0xED :: second :: _ =>
    if 0xA0 ≤ second then complain utf8 place [0xED] "invalid continuation byte" else complain utf8 place begun reason
  | begun => complain utf8 place begun reason

/-- The code points of octets in UTF-8 that follow the octets of a character which owes some more. -/
def points8 (place : Nat) (begun : List Nat) (owed : Nat) : List Nat → Except Problem (List Nat)
  | [] => if begun.isEmpty then .ok [] else .error (complainOf place begun "unexpected end of data")
  | octet :: rest =>
    if begun.isEmpty then
      match owedAfter? octet with
      | none => .error (complain utf8 place [octet] "invalid start byte")
      | some 0 => (points8 (place + 1) [] 0 rest).map (octet :: ·)
      | some owed => points8 place [octet] owed rest
    else if !continues begun octet then .error (complainOf place begun "invalid continuation byte")
    else if owed ≤ 1 then
      (points8 (place + begun.length + 1) [] 0 rest).map (pointOf (begun ++ [octet]) :: ·)
    else points8 place (begun ++ [octet]) (owed - 1) rest

def units16 (bigEndian : Bool) (place : Nat) : List Nat → Except Problem (List Nat)
  | [] => .ok []
  | [octet] => .error (complain (utf16 bigEndian) place [octet] "truncated data")
  | a :: b :: rest =>
    (units16 bigEndian (place + 2) rest).map ((if bigEndian then a * 0x100 + b else b * 0x100 + a) :: ·)

/-- The code points of code units; one that is half a character only stays what it is. -/
def joinUnits : List Nat → List Nat
  | high :: low :: rest =>
    if isHighSurrogate high && isLowSurrogate low then (ofSurrogates high low).toNat :: joinUnits rest
    else high :: joinUnits (low :: rest)
  | units => units

def points32 (bigEndian : Bool) (place : Nat) : List Nat → Except Problem (List Nat)
  | [] => .ok []
  | a :: b :: c :: d :: rest =>
    let point := Text.ofDigits 0x100 (if bigEndian then [a, b, c, d] else [d, c, b, a])
    if 0x10FFFF < point then
      .error (complain (utf32 bigEndian) place [a, b, c, d] "code point not in range(0x110000)")
    else (points32 bigEndian (place + 4) rest).map (point :: ·)
  | octets => .error (complain (utf32 bigEndian) place octets "truncated data")

/-- The code points of octets from a place on, or what is wrong with the octets. -/
def decode (encoding : Encoding) (place : Nat) (octets : List UInt8) : Except Problem (List Nat) :=
  let octets := octets.map UInt8.toNat
  match encoding with
  | utf8 => points8 0 [] 0 octets
  | utf16 bigEndian => (units16 bigEndian place octets).map joinUnits
  | utf32 bigEndian => points32 bigEndian place octets

end Encoding

/-- The value of a JSON text in octets, within the bounds of a reading. -/
def readOctets (reading : Reading) (octets : List UInt8) : Except Fault Value :=
  let (encoding, rest) := Encoding.ofOctets octets
  match encoding.decode (octets.length - rest.length) rest with
  | .error problem => .error { problem, position := 0, line := 1, column := 1 }
  | .ok points => readChecked reading (points.map (ofCodeUnit reading.half))

/-! ## Half characters -/

/-- What is half a character only. -/
def isHalf (point : Nat) : Bool := isHighSurrogate point || isLowSurrogate point

/-- How far the characters lie from half characters that are read in their places. -/
def markDistance : Nat := 0x100000 - 0xD800

/-- The code points of a text that is read with a character of choice in the place of each half character. Where two
choices make a difference there is one. -/
def pointsOf (text : (Nat → Char) → List Char) : List Nat :=
  List.zipWith (fun plain marked => if plain = marked then plain.toNat else marked.toNat - markDistance)
    (text Reading.usual.half) (text fun n => Char.ofNat (n + markDistance))

/-- How many characters stand for a code point inside a JSON text that need not be in ASCII. -/
def writtenLength (point : Nat) : Nat :=
  if [0x08, 0x09, 0x0A, 0x0C, 0x0D, 0x22, 0x5C].contains point then 2 else if point < 0x20 then 6 else 1

/-- The place, from a place on, at which half characters are first to be written, and all there are at this place. -/
def halves? (place : Nat) : List Nat → Option (Nat × List Nat)
  | [] => none
  | point :: rest =>
    if isHalf point then some (place, point :: rest.takeWhile isHalf) else halves? (place + writtenLength point) rest

end CommandFlow.Json
