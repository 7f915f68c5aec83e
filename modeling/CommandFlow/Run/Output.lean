import CommandFlow.Graph.Node

/-!
# Outputs and actions

* `Output` : a message that a run sends; `Output.payload` : the form in which it is delivered;
* `Task`, `Action` : what a run asks of the outside world, and the variables that take the result;
* `ActionResult` : the answer to an action.
-/

namespace CommandFlow

/-! ## Outputs -/

inductive OutputType where
  | message
  | embed
  | error
  deriving DecidableEq

namespace OutputType

def all : List OutputType := [message, embed, error]

def name : OutputType → String
  | message => "message"
  | embed => "embed"
  | error => "error"

def ofName? (s : String) : Option OutputType := all.find? (·.name = s)

end OutputType

/-- A message that a run sends on behalf of a node. -/
structure Output where
  type : OutputType
  nodeId : String
  nodeName : String
  content : Value
  ephemeral : Bool := false

namespace Output

/-- The mark of a message that only its addressee sees. -/
def ephemeralFlag : Int := 64

def payload (output : Output) : Value :=
  let body : Entries Value :=
    match output.type with
    | .embed => [("embeds", .list [output.content])]
    | _ => [("content", .text output.content.plain)]
  .object (body ++ if output.ephemeral then [("flags", .int ephemeralFlag)] else [])

def members (output : Output) : Entries Value :=
  [("type", .text output.type.name), ("nodeId", .text output.nodeId),
    ("nodeName", .text output.nodeName), ("content", output.content)]

end Output

/-! ## Actions -/

/-- What a run asks of the outside world. -/
inductive Task where
  | awaitReply (timeout : Nat) (userId channelId : String)
  | addRole (guildId userId roleId : String)
  | removeRole (guildId userId roleId : String)
  | call (url : String) (method : CallMethod) (headers : Entries String) (body : Option String)

namespace Task

def type : Task → NodeType
  | awaitReply _ _ _ => .awaitReply
  | addRole _ _ _ => .addRole
  | removeRole _ _ _ => .removeRole
  | call _ _ _ _ => .apiCall

def name (task : Task) : String := task.type.name

/-- The parameters of a role change. -/
def roleParameters (guildId userId roleId : String) : Entries Value :=
  [("guild_id", .text guildId), ("user_id", .text userId), ("role_id", .text roleId)]

def parameters : Task → Entries Value
  | awaitReply timeout userId channelId =>
    [("timeout_ms", .ofNat timeout), ("user_id", .text userId), ("channel_id", .text channelId)]
  | addRole guildId userId roleId => roleParameters guildId userId roleId
  | removeRole guildId userId roleId => roleParameters guildId userId roleId
  | call url method headers body =>
    [("url", .text url), ("method", .text method.name),
      ("headers", .object (Entries.mapValues Value.text headers)), ("body", .ofText? body)]

end Task

/-- A task of a node, and the variables that take its result and its error. -/
structure Action where
  nodeId : String
  task : Task
  resultVariable : Option String := none
  errorVariable : Option String := none

def Action.toValue (action : Action) : Value :=
  .object [("kind", .text action.task.name), ("node_id", .text action.nodeId),
    ("params", .object action.task.parameters),
    ("result_variable", .ofText? action.resultVariable),
    ("error_variable", .ofText? action.errorVariable)]

/-- The answer to an action: a value, or an error. -/
structure ActionResult where
  value : Value := .null
  error : Option String := none

end CommandFlow
