import CommandFlow.Schema.Fault
import CommandFlow.Uuid
import CommandFlow.Value.Number

/-!
# Reading single values of documents

Documents are read leniently: a number may be given as a text, a truth value as a number or a word.

* `readText`, `readSized` : texts; `readInteger`, `readNumber`, `readFlag` : numbers and truth values;
* `readUuid` : identifiers.
-/

namespace CommandFlow.Schema

/-! ## Texts -/

def readText : Value → Checked String
  | .text s => .ok s
  | _ => fail .text

def readSized (least most : Nat) (v : Value) : Checked String := do
  let s ← readText v
  if s.length < least then fail .textTooShort
  else if most < s.length then fail .textTooLong
  else .ok s

def readUuid : Value → Checked Uuid
  | .text s =>
    match Uuid.read? s with
    | some u => .ok u
    | none => fail .uuidText
  | _ => fail .uuid

/-! ## Numbers -/

/-- White space around numbers: that of texts without the four information separators. -/
def isPadding (c : Char) : Bool := Text.isBlank c && !(0x1C ≤ c.toNat && c.toNat ≤ 0x1F)

/-- The characters without white space at the ends. -/
def trim (cs : List Char) : List Char :=
  ((cs.dropWhile isPadding).reverse.dropWhile isPadding).reverse

def isAsciiDigit (c : Char) : Bool := '0' ≤ c && c ≤ '9'

/-- No underscore stands at an end or beside another one. -/
def underscoresApart : List Char → Bool
  | [] => true
  | ['_'] => false
  | '_' :: '_' :: _ => false
  | _ :: rest => underscoresApart rest

/-- The characters without underscores, which must stand alone between others. -/
def dropUnderscores? (cs : List Char) : Option (List Char) :=
  if cs.head? != some '_' && underscoresApart cs then some (cs.filter (· != '_')) else none

/-- The digits of an integer text after its sign: a point may follow with zeros behind it. -/
def integerDigits? (cs : List Char) : Option (List Char) :=
  let whole := cs.takeWhile (· != '.')
  let fraction := cs.dropWhile (· != '.')
  if fraction.isEmpty || (1 < fraction.length && (fraction.drop 1).all (· == '0')) then
    match dropUnderscores? whole with
    | some ds => if !ds.isEmpty && ds.all isAsciiDigit then some ds else none
    | none => none
  else none

/-- The most characters that the text of an integer may have. -/
def integerTextLimit : Nat := 4300

def readIntegerText (s : String) : Checked Int :=
  if integerTextLimit < s.utf8ByteSize then fail .integerSize
  else
    let (negative, unsigned) := Text.takeSign (trim s.toList)
    match integerDigits? unsigned with
    | some ds => .ok (Text.withSign negative (Text.ofDigits 10 (Text.takeDigits ds).1))
    | none => fail .integerText

/-- An integer: as such, as a truth value, as a whole number of 64 bits, or as a text. -/
def readInteger : Value → Checked Int
  | .int i => .ok i
  | .bool b => .ok (if b then 1 else 0)
  | .text s => readIntegerText s
  | .float x =>
    if !x.isFinite then fail .finiteNumber
    else match x.toInt? with
    | none => fail .integerFraction
    | some i => if i.natAbs < Nat.pow 2 63 then .ok i else fail .integerSize
  | _ => fail .integer

def numberWords : List (String × Binary64) :=
  [("inf", .infinite false), ("infinity", .infinite false), ("nan", .nan)]

def readAsciiNumeral? (cs : List Char) : Option Binary64 :=
  if cs.all (·.toNat < 0x80) then (Text.Numeral.read? cs).map .ofNumeral else none

def unsignedNumber? (cs : List Char) : Option Binary64 :=
  match Entries.get? numberWords (String.ofList (cs.map Char.toLower)) with
  | some x => some x
  | none =>
    if cs.head? == some '-' || cs.head? == some '+' then none else readAsciiNumeral? cs

def numberOfText? (s : String) : Option Binary64 := do
  let cs ← dropUnderscores? (trim s.toList)
  let (negative, unsigned) := Text.takeSign cs
  let x ← unsignedNumber? unsigned
  some (if negative then x.neg else x)

/-- A floating-point number: as such, as an integer in range, as a truth value, or as a text. -/
def readNumber : Value → Checked Binary64
  | .float x => .ok x
  | .int i =>
    match Value.numberOfInt i with
    | .ok x => .ok x
    | .error _ => fail .number
  | .bool b => .ok (.ofInt (if b then 1 else 0))
  | .text s =>
    match numberOfText? s with
    | some x => .ok x
    | none => fail .numberText
  | _ => fail .number

/-! ## Truth values -/

def falseWords : List String := ["0", "off", "f", "false", "n", "no"]

def trueWords : List String := ["1", "on", "t", "true", "y", "yes"]

/-- A truth value: as such, as one or zero, or as a word in any case. -/
def readFlag : Value → Checked Bool
  | .bool b => .ok b
  | .int i => if i = 0 then .ok false else if i = 1 then .ok true else fail .flagText
  | .float x =>
    match x.toInt? with
    | some 0 => .ok false
    | some 1 => .ok true
    | _ => fail .flagText
  | .text s =>
    let word := String.ofList (s.toList.map Char.toLower)
    if falseWords.contains word then .ok false
    else if trueWords.contains word then .ok true
    else fail .flagText
  | _ => fail .flag

end CommandFlow.Schema
