import CommandFlow.Text.Blank
import CommandFlow.Text.Digit
import CommandFlow.Text.Quoted

/-!
# Colours

* `Color.read?` : the number of a colour written as six hexadecimal digits, a hash sign before them if
  wanted and blanks around.
-/

namespace CommandFlow.Color

def ofHex? (digits : List Char) : Option Nat :=
  if digits.length = 6 then (digits.mapM Text.hexValue?).map (Text.ofDigits 16) else none

def read? (s : String) : Option Nat :=
  match Text.stripChars s.toList with
  | '#' :: digits => ofHex? digits
  | digits => ofHex? digits

end CommandFlow.Color
