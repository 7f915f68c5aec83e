import CommandFlow.Http.Fault
import CommandFlow.Json.Fault
import CommandFlow.Text.Quoted
import CommandFlow.Value.Text

/-!
# What makes a node fail

* `Fault` : a rule of the node itself, a number out of range, or an outside call that goes wrong;
* `Fault.message` : a fault in words.
-/

namespace CommandFlow

/-- What makes a node, or an outside call on its behalf, fail. -/
inductive Fault where
  /-- A text that should be a colour is none. -/
  | badColor (text : String)
  /-- Roles can only be changed in a guild. -/
  | guildRequired
  /-- A role has to be named. -/
  | roleRequired
  /-- An address has to be given. -/
  | addressRequired
  /-- An integer is too large for a floating-point number. -/
  | numberTooLarge
  /-- An integer has too many digits for a text. -/
  | integerTooLong
  /-- A duration is too long for a floating-point number. -/
  | durationTooLong
  /-- An action reports an error that no variable takes. -/
  | action (text : String)
  /-- An interaction is answered at first hand a second time. -/
  | alreadyResponded
  /-- A request goes wrong. -/
  | request (fault : Http.Fault)
  /-- An answer is no JSON. -/
  | json (fault : Json.Fault)
  /-- A text that is to be sent holds half characters at a place. -/
  | halfCharacters (place : Nat) (points : List Nat)
  /-- A text that should be an integer is none. -/
  | notInteger (text : String)
  /-- An infinite number is no integer. -/
  | infiniteInteger
  /-- Not-a-number is no integer. -/
  | nanInteger
  /-- A member is missing. -/
  | missing (name : String)
  /-- A value of another kind is needed. -/
  | wrongKind
  /-- A value has no members. -/
  | noMembers

def Fault.message : Fault → String
  | badColor text => "invalid embed color " ++ Text.quote text
  | guildRequired => "role changes require a guild"
  | roleRequired => "roleId is required"
  | addressRequired => "url is required"
  | numberTooLarge => "int too large to convert to float"
  | integerTooLong =>
    s!"Exceeds the limit ({Json.digitLimit} digits) for integer string conversion; use sys.set_int_max_str_digits() " ++
      "to increase the limit"
  | durationTooLong => "integer division result too large for a float"
  | action text => text
  | alreadyResponded => "interaction already has a primary response"
  | request fault => fault.message
  | json fault => fault.message
  | halfCharacters place points =>
    let part := match points with
      | [point] => "character '\\u" ++ String.ofList (Text.hexPadded 4 point) ++ s!"' in position {place}"
      | points => s!"characters in position {place}-{place + points.length - 1}"
    s!"'utf-8' codec can't encode {part}: surrogates not allowed"
  | notInteger text => "invalid literal for int() with base 10: " ++ Text.quote text
  | infiniteInteger => "cannot convert float infinity to integer"
  | nanInteger => "cannot convert float NaN to integer"
  | missing name => Text.quote name
  | wrongKind => "a value of another kind is needed"
  | noMembers => "the value has no members"

end CommandFlow
