import CommandFlow.Text.Digit
import CommandFlow.Text.Quoted

/-!
# Identifiers of 128 bits

* `Uuid` : such an identifier; `Uuid.text` : its 32 hexadecimal digits in five groups;
* `Uuid.read?` : reads the grouped form, also in braces or behind `urn:uuid:`, and the bare digits.
-/

namespace CommandFlow

structure Uuid where
  number : Nat
  deriving DecidableEq

namespace Uuid

/-- Five groups of hexadecimal digits. -/
def text (u : Uuid) : String :=
  let ds := Text.hexPadded 32 u.number
  String.ofList (ds.take 8 ++ '-' :: ((ds.drop 8).take 4 ++ '-' :: ((ds.drop 12).take 4 ++
    '-' :: ((ds.drop 16).take 4 ++ '-' :: ds.drop 20))))

def ofDigits? (cs : List Char) : Option Uuid :=
  if cs.length = 32 then (cs.mapM Text.hexValue?).map fun ds => ⟨Text.ofDigits 16 ds⟩ else none

/-- Reads five groups of 8, 4, 4, 4 and 12 digits. -/
def ofGroups? (cs : List Char) : Option Uuid :=
  if cs.length = 36 && [8, 13, 18, 23].all (fun i => cs[i]? == some '-') then
    ofDigits? (cs.take 8 ++ (cs.drop 9).take 4 ++ (cs.drop 14).take 4 ++ (cs.drop 19).take 4 ++
      cs.drop 24)
  else none

/-- The characters before the grouped form of a resource name. -/
def resourceMark : List Char := "urn:uuid:".toList

def read? (s : String) : Option Uuid :=
  let cs := s.toList
  if cs.length = 32 then ofDigits? cs
  else if cs.length = 38 && cs.head? == some '\x7b' && cs.getLast? == some '\x7d' then
    ofGroups? (cs.drop 1).dropLast
  else if resourceMark.isPrefixOf cs then ofGroups? (cs.drop resourceMark.length)
  else ofGroups? cs

end Uuid

end CommandFlow
