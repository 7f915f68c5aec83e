/-!
# What is wrong with a JSON text

* `Problem` : what the reader did not find, or what it found instead;
* `Fault` : a problem and the place where it shows;
* `Fault.message` : both in words.
-/

namespace CommandFlow.Json

/-- What is wrong with a JSON text. -/
inductive Problem where
  | valueExpected
  | nameExpected
  | colonExpected
  | commaExpected
  | unterminatedText
  | controlCharacter
  | unknownEscape
  | badCodePoint
  | extraData
  | byteOrderMark
  | tooManyDigits (count : Nat)
  /-- More lists and objects are open than the reader can keep. -/
  | tooDeep (isObject : Bool)
  /-- The octets are no characters. -/
  | undecodable (complaint : String)
  deriving DecidableEq

/-- The reader gives up for want of room; every other problem is one of the text. -/
def Problem.isTooDeep : Problem → Bool
  | tooDeep _ => true
  | _ => false

/-- The place of a problem: the index of a character, its line and its column. -/
structure Fault where
  problem : Problem
  position : Nat
  line : Nat
  column : Nat
  deriving DecidableEq

def digitLimit : Nat := 4300

def Problem.description : Problem → String
  | valueExpected => "Expecting value"
  | nameExpected => "Expecting property name enclosed in double quotes"
  | colonExpected => "Expecting ':' delimiter"
  | commaExpected => "Expecting ',' delimiter"
  | unterminatedText => "Unterminated string starting at"
  | controlCharacter => "Invalid control character at"
  | unknownEscape => "Invalid \\escape"
  | badCodePoint => "Invalid \\uXXXX escape"
  | extraData => "Extra data"
  | byteOrderMark => "Unexpected UTF-8 BOM (decode using utf-8-sig)"
  | tooManyDigits count =>
    s!"Exceeds the limit ({digitLimit} digits) for integer string conversion: value has {count} " ++
      "digits; use sys.set_int_max_str_digits() to increase the limit"
  | tooDeep isObject =>
    let kind := if isObject then "object" else "array"
    s!"maximum recursion depth exceeded while decoding a JSON {kind} from a unicode string"
  | undecodable complaint => complaint

def Problem.isPlaced : Problem → Bool
  | tooManyDigits _ => false
  | tooDeep _ => false
  | undecodable _ => false
  | _ => true

def Fault.message (fault : Fault) : String :=
  let problem := fault.problem
  if !problem.isPlaced then problem.description
  else
    s!"{problem.description}: line {fault.line} column {fault.column} (char {fault.position})"

end CommandFlow.Json
