import CommandFlow.Condition
import CommandFlow.Context
import CommandFlow.Fault
import CommandFlow.Json.Writer

/-!
# Invocations of commands

* `Invocation` : a command that someone invoked on the chat platform;
* `Invocation.read` : an invocation from the message of the platform;
* `Invocation.context` : the context of a run.
-/

namespace CommandFlow.Chat

/-- A command that someone invoked. Without a guild it is a direct message. -/
structure Invocation where
  guildId : Value := .null
  commandName : String
  userId : String
  channelId : String
  options : Variables := []
  interactionId : String := ""
  token : String := ""
  username : String := ""
  channelName : String := ""

namespace Invocation

/-- The members of an object; an empty value has none, and any other value is no object. -/
def objectMembers (v : Value) : Except Fault (Entries Value) :=
  match v with
  | .object members => .ok members
  | v => if v.isTruthy then .error .noMembers else .ok []

def member (members : Entries Value) (name : String) : Value :=
  (Entries.get? members name).getD .null

def memberText (members : Entries Value) (name : String) : String :=
  match Entries.get? members name with
  | some v => v.plain
  | none => ""

/-! ## Options -/

def optionName (name : Value) : Except Fault String :=
  match name with
  | .text s => .ok s
  | .list _ => .error .wrongKind
  | .object _ => .error .wrongKind
  | v => .ok (Json.write v)

def nameWord : String := "name"

/-- The option that an item of a list of options gives: none without a name. -/
def optionOf : Value → Except Fault (Option (String × Value))
  | .object members =>
    match Entries.get? members nameWord with
    | some name => (optionName name).map fun name => some (name, member members "value")
    | none => .ok none
  | .text s => if Operator.occursIn nameWord.toList s.toList then .error .wrongKind else .ok none
  | .list items =>
    if items.any (fun item => match item with
      | .text s => s == nameWord
      | _ => false) then .error .wrongKind
    else .ok none
  | _ => .error .wrongKind

def optionItems : Value → Except Fault (List Value)
  | .list items => .ok items
  | .object members => .ok (members.map fun pair => .text pair.1)
  | .text s => .ok (s.toList.map fun c => .text (String.singleton c))
  | v => if v.isTruthy then .error .wrongKind else .ok []

/-- The options that were given, the last of each name. -/
def readOptions (v : Value) : Except Fault Variables := do
  let items ← optionItems v
  let options ← items.mapM optionOf
  return Entries.ofPairs (options.filterMap id)

/-! ## Messages -/

/-- An invocation from the members of a message. In a guild the user is that of the member. -/
def ofMembers (message : Entries Value) : Except Fault Invocation := do
  let data := (member message "data").orElse (.object [])
  let member' ← objectMembers (member message "member")
  let user := ((member member' "user").orElse (member message "user")).orElse (.object [])
  let channel := (member message "channel").orElse (.object [])
  let data ← objectMembers data
  let user ← objectMembers user
  let channel ← objectMembers channel
  let channelId := (member message "channel_id").orElse
    ((member channel "id").orElse (.text ""))
  let options ← readOptions (member data "options")
  return {
    guildId := member message "guild_id"
    commandName := memberText data "name"
    userId := memberText user "id"
    username := memberText user "username"
    channelId := channelId.plain
    channelName := memberText channel "name"
    options
    interactionId := memberText message "id"
    token := memberText message "token" }

def read (message : Value) : Except Fault Invocation :=
  match message with
  | .object members => ofMembers members
  | _ => .error .noMembers

def context (invocation : Invocation) : Context where
  user := { id := invocation.userId, username := invocation.username }
  guild :=
    if invocation.guildId.isTruthy then some { id := invocation.guildId.toText } else none
  channel := { id := invocation.channelId, name := invocation.channelName }
  options := invocation.options

end Invocation

end CommandFlow.Chat
