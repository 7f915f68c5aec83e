import CommandFlow.Json.Fault
import CommandFlow.Text.Digit
import CommandFlow.Value.Basic
import CommandFlow.Binary64.Decimal

/-!
# Reading JSON

* `Reading` : what a text has in place of half a character, and how many lists and objects may be open;
* `read` : the value of a JSON text. Beyond the standard it knows `NaN`, `Infinity` and `-Infinity`;
  an object keeps its members in order, the last value of a name at its first place; a number with a
  point or an exponent is a floating-point number, any other an integer;
* `readChecked` : the same within the bounds of a reading.

The readers of parts take the characters that remain and give those that remain afterwards. A
problem carries the number of characters that remained where it shows.
-/

namespace CommandFlow.Json

/-- What reading a part gives: the part and the rest, or a problem and how much remained. -/
abbrev Part (α : Type) := Except (Problem × Nat) (α × List Char)

/-- A problem at the front of the remaining characters. -/
def problemAt {α : Type} (problem : Problem) (rest : List Char) : Part α :=
  .error (problem, rest.length)

def andThen {α β : Type} (part : Part α) (next : α → List Char → Part β) : Part β :=
  match part with
  | .ok (a, rest) => next a rest
  | .error e => .error e

def mapPart {α β : Type} (f : α → β) (part : Part α) : Part β :=
  andThen part fun a rest => .ok (f a, rest)

def skipBlanks : List Char → List Char
  | c :: rest => if c = ' ' || c = '\t' || c = '\n' || c = '\r' then skipBlanks rest else c :: rest
  | [] => []

/-! ## Bounds -/

/-- What a text has in place of half a character, and how many lists and objects may be open at once, if there is a
bound. -/
structure Reading where
  half : Nat → Char
  nesting : Option Nat

namespace Reading

/-- Half a character is replaced, and nothing is too deep. -/
def usual : Reading := ⟨fun _ => '\uFFFD', none⟩

/-- Half a character is replaced. -/
def within (nesting : Option Nat) : Reading := { usual with nesting }

/-- The bounds inside one more list or object, if it may be opened. -/
def inner? (reading : Reading) : Option Reading :=
  match reading.nesting with
  | none => some reading
  | some 0 => none
  | some (n + 1) => some { reading with nesting := some n }

@[simp] theorem inner?_usual : usual.inner? = some usual := rfl

end Reading

/-! ## Texts -/

def codeUnit? (a b c d : Char) : Option Nat :=
  ([a, b, c, d].mapM Text.hexValue?).map (Text.ofDigits 16)

/-- The first of the two code units of a character above the basic plane. -/
def isHighSurrogate (n : Nat) : Bool := 0xD800 ≤ n && n < 0xDC00

/-- The second of the two code units of a character above the basic plane. -/
def isLowSurrogate (n : Nat) : Bool := 0xDC00 ≤ n && n < 0xE000

/-- The character of a code unit, or what a text has in place of half a character. -/
def ofCodeUnit (half : Nat → Char) (n : Nat) : Char :=
  if isHighSurrogate n || isLowSurrogate n then half n else .ofNat n

def ofSurrogates (high low : Nat) : Char :=
  .ofNat (0x10000 + (high - 0xD800) * 0x400 + (low - 0xDC00))

def simpleEscape? : Char → Option Char
  | '"' => some '"'
  | '\\' => some '\\'
  | '/' => some '/'
  | 'b' => some '\x08'
  | 'f' => some '\x0c'
  | 'n' => some '\n'
  | 'r' => some '\r'
  | 't' => some '\t'
  | _ => none

/-- Adds a character in front of a text that was read. -/
def prepend (c : Char) : Part (List Char) → Part (List Char) := mapPart (c :: ·)

/-- Reads the characters of a text up to its closing mark; `start` characters remained at the opening
mark. -/
def readChars (half : Nat → Char) (start : Nat) : List Char → Part (List Char)
  | [] => .error (.unterminatedText, start)
  | '"' :: rest => .ok ([], rest)
  | ['\\'] => .error (.unterminatedText, start)
  | '\\' :: 'u' :: a :: b :: c :: d :: rest =>
    if rest.isEmpty then problemAt .badCodePoint ('u' :: a :: b :: c :: d :: rest)
    else match codeUnit? a b c d with
    | none => problemAt .badCodePoint ('u' :: a :: b :: c :: d :: rest)
    | some high =>
      match rest with
      | '\\' :: 'u' :: e :: f :: g :: h :: after =>
        if isHighSurrogate high && !after.isEmpty then
          match codeUnit? e f g h with
          | none => problemAt .badCodePoint ('u' :: e :: f :: g :: h :: after)
          | some low =>
            if isLowSurrogate low then prepend (ofSurrogates high low) (readChars half start after)
            else prepend (ofCodeUnit half high) (readChars half start ('\\' :: 'u' :: e :: f :: g :: h :: after))
        else prepend (ofCodeUnit half high) (readChars half start ('\\' :: 'u' :: e :: f :: g :: h :: after))
      | rest => prepend (ofCodeUnit half high) (readChars half start rest)
  | '\\' :: 'u' :: rest => problemAt .badCodePoint ('u' :: rest)
  | '\\' :: c :: rest =>
    match simpleEscape? c with
    | some escaped => prepend escaped (readChars half start rest)
    | none => problemAt .unknownEscape ('\\' :: c :: rest)
  | c :: rest =>
    if c.toNat < 0x20 then problemAt .controlCharacter (c :: rest)
    else prepend c (readChars half start rest)

def readText (half : Nat → Char) (afterMark : List Char) : Part String :=
  mapPart String.ofList (readChars half (afterMark.length + 1) afterMark)

/-! ## Numbers -/

def takeDigits : List Char → List Nat × List Char
  | [] => ([], [])
  | c :: rest =>
    if '0' ≤ c && c ≤ '9' then
      let (ds, after) := takeDigits rest
      ((c.toNat - 0x30) :: ds, after)
    else ([], c :: rest)

/-- Takes a point and the digits after it, if there are any. -/
def takeFraction : List Char → Option (List Nat) × List Char
  | '.' :: rest =>
    match takeDigits rest with
    | ([], _) => (none, '.' :: rest)
    | (ds, after) => (some ds, after)
  | cs => (none, cs)

def takeExponent : List Char → Option Int × List Char
  | mark :: rest =>
    if mark = 'e' || mark = 'E' then
      let (negative, digits) : Bool × List Char := match rest with
        | '-' :: cs => (true, cs)
        | '+' :: cs => (false, cs)
        | cs => (false, cs)
      match takeDigits digits with
      | ([], _) => (none, mark :: rest)
      | (ds, after) =>
        let n : Int := Text.ofDigits 10 ds
        (some (if negative then -n else n), after)
    else (none, mark :: rest)
  | [] => (none, [])

/-- Takes the digits before the point: a zero alone, or digits that begin with another one. -/
def takeWhole : List Char → Option (List Nat) × List Char
  | '0' :: rest => (some [0], rest)
  | cs =>
    match takeDigits cs with
    | ([], _) => (none, cs)
    | (ds, rest) => (some ds, rest)

/-- Reads a number without its sign; `all` is what remained in front of the sign. -/
def readNumber (negative : Bool) (all unsigned : List Char) : Part Value :=
  match takeWhole unsigned with
  | (none, _) => problemAt .valueExpected all
  | (some whole, afterWhole) =>
    let (fraction, afterFraction) := takeFraction afterWhole
    let (exponent, rest) := takeExponent afterFraction
    if fraction.isNone && exponent.isNone then
      if digitLimit < whole.length then problemAt (.tooManyDigits whole.length) all
      else
        let n : Int := Text.ofDigits 10 whole
        .ok (.int (if negative then -n else n), rest)
    else
      let digits := fraction.getD []
      .ok (.float (.ofDecimal negative (Text.ofDigits 10 (whole ++ digits))
        (exponent.getD 0 - digits.length)), rest)

/-! ## Values -/

def takeWord? (word : String) (cs : List Char) : Option (List Char) :=
  if word.toList.isPrefixOf cs then some (cs.drop word.length) else none

def words : List (String × Value) := [
  ("null", .null), ("true", .bool true), ("false", .bool false), ("NaN", .float .nan),
  ("Infinity", .float (.infinite false)), ("-Infinity", .float (.infinite true))]

def readAtom (cs : List Char) : Part Value :=
  match words.findSome? fun (word, v) => (takeWord? word cs).map fun rest => (v, rest) with
  | some found => .ok found
  | none =>
    match cs with
    | '-' :: unsigned => readNumber true cs unsigned
    | _ => readNumber false cs cs

mutual

def readValue : Nat → Reading → List Char → Part Value
  | 0, _, cs => problemAt .valueExpected cs
  | fuel + 1, reading, cs =>
    match cs with
    | '"' :: rest => mapPart .text (readText reading.half rest)
    | '[' :: rest =>
      match reading.inner? with
      | none => problemAt (.tooDeep false) cs
      | some inner =>
        match skipBlanks rest with
        | ']' :: after => .ok (.list [], after)
        | items => mapPart .list (readItems fuel inner items)
    | '\x7b' :: rest =>
      match reading.inner? with
      | none => problemAt (.tooDeep true) cs
      | some inner =>
        match skipBlanks rest with
        | '\x7d' :: after => .ok (.object [], after)
        | members => mapPart (.object ∘ Entries.ofPairs) (readMembers fuel inner members)
    | _ => readAtom cs

/-- Reads the items of a list, the first of which is at the front, and the closing bracket. -/
def readItems : Nat → Reading → List Char → Part (List Value)
  | 0, _, cs => problemAt .valueExpected cs
  | fuel + 1, reading, cs =>
    andThen (readValue fuel reading cs) fun v afterValue =>
      match skipBlanks afterValue with
      | ']' :: rest => .ok ([v], rest)
      | ',' :: rest => mapPart (v :: ·) (readItems fuel reading (skipBlanks rest))
      | rest => problemAt .commaExpected rest

/-- Reads the members of an object, the first of which is at the front, and the closing brace. -/
def readMembers : Nat → Reading → List Char → Part (List (String × Value))
  | 0, _, cs => problemAt .nameExpected cs
  | fuel + 1, reading, cs =>
    match cs with
    | '"' :: afterMark =>
      andThen (readText reading.half afterMark) fun name afterName =>
        match skipBlanks afterName with
        | ':' :: afterColon =>
          andThen (readValue fuel reading (skipBlanks afterColon)) fun v afterValue =>
            match skipBlanks afterValue with
            | '\x7d' :: rest => .ok ([(name, v)], rest)
            | ',' :: rest => mapPart ((name, v) :: ·) (readMembers fuel reading (skipBlanks rest))
            | rest => problemAt .commaExpected rest
        | rest => problemAt .colonExpected rest
    | _ => problemAt .nameExpected cs

end

/-! ## Whole texts -/

def faultAt (text : List Char) (problem : Problem) (remaining : Nat) : Fault :=
  let before := text.take (text.length - remaining)
  { problem, position := before.length, line := before.count '\n' + 1,
    column := (before.reverse.takeWhile (· != '\n')).length + 1 }

def readWhole (reading : Reading) (text : List Char) : Except (Problem × Nat) Value := do
  let (v, rest) ← readValue (text.length + 1) reading (skipBlanks text)
  let after := skipBlanks rest
  if after.isEmpty then return v else throw (.extraData, after.length)

def readChecked (reading : Reading) (text : List Char) : Except Fault Value :=
  (readWhole reading text).mapError fun (problem, remaining) => faultAt text problem remaining

def read (s : String) : Except Fault Value :=
  let text := s.toList
  if text.head? = some '\uFEFF' then .error (faultAt text .byteOrderMark text.length)
  else readChecked .usual text

end CommandFlow.Json
