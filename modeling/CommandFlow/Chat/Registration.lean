import CommandFlow.Fault

/-!
# Registration of commands

* `optionCode` : the number of an option's type;
* `registration` : the form in which a command is registered with the chat platform.
-/

namespace CommandFlow.Chat

def optionCodes : List (String × Nat) :=
  [("STRING", 3), ("INTEGER", 4), ("BOOLEAN", 5), ("USER", 6), ("CHANNEL", 7), ("ROLE", 8),
    ("MENTIONABLE", 9), ("NUMBER", 10)]

/-- The number of the type of a text, which holds for unknown types too. -/
def textCode : Nat := 3

/-- A character in upper case, as far as that is ASCII: the dotless i and the long s have such forms. -/
def upperChar (c : Char) : Char :=
  if c = 'ı' then 'I' else if c = 'ſ' then 'S' else c.toUpper

def optionCode (type : Value) : Nat :=
  (optionCodes.lookup (String.ofList (type.plain.toList.map upperChar))).getD textCode

/-- What describes a command or an option that is not described. -/
def noDescription : Value := .text "No description"

def optionForm (option : Value) : Except Fault Value :=
  match option with
  | .object members =>
    let member (name : String) : Value := (Entries.get? members name).getD .null
    .ok (.object [("name", member "name"),
      ("description", (member "description").orElse noDescription),
      ("type", .ofNat (optionCode (member "type"))),
      ("required", .bool (member "required").isTruthy)])
  | _ => .error .noMembers

def optionList : Value → List Value
  | .list items => items
  | _ => []

/-- The form in which a command is registered. -/
def registration (name description options : Value) : Except Fault Value := do
  let forms ← (optionList options).mapM optionForm
  return .object [("name", name), ("description", description.orElse noDescription),
    ("options", .list forms)]

end CommandFlow.Chat
