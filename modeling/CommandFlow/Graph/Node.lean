import CommandFlow.Condition
import CommandFlow.Variable

/-!
# Nodes

* `NodeType` : the kinds of nodes, with their names;
* `Message`, `Embed`, `Test`, `Assignment`, `Readout`, `ReplyWait`, `RoleChange`, `Call`, `Draw`,
  `Arithmetic` : what a node of a kind is told to do;
* `Behavior` : a kind together with its data; `Node` : a behaviour with an identifier and a place on
  the canvas.
-/

namespace CommandFlow

/-! ## Kinds -/

inductive NodeType where
  | start
  | sendMessage
  | sendEmbed
  | ifCondition
  | setVariable
  | getVariable
  | awaitReply
  | addRole
  | removeRole
  | apiCall
  | delay
  | random
  | mathOperation
  | finish
  deriving DecidableEq

namespace NodeType

def all : List NodeType :=
  [start, sendMessage, sendEmbed, ifCondition, setVariable, getVariable, awaitReply, addRole,
    removeRole, apiCall, delay, random, mathOperation, finish]

def name : NodeType → String
  | start => "START"
  | sendMessage => "SEND_MESSAGE"
  | sendEmbed => "SEND_EMBED"
  | ifCondition => "IF_CONDITION"
  | setVariable => "SET_VARIABLE"
  | getVariable => "GET_VARIABLE"
  | awaitReply => "AWAIT_REPLY"
  | addRole => "ADD_ROLE"
  | removeRole => "REMOVE_ROLE"
  | apiCall => "API_CALL"
  | delay => "DELAY"
  | random => "RANDOM"
  | mathOperation => "MATH_OPERATION"
  | finish => "END"

def ofName? (s : String) : Option NodeType := all.find? (·.name = s)

theorem ofName?_name (t : NodeType) : ofName? t.name = some t := by
  cases t <;> decide

end NodeType

/-! ## Operations and methods -/

inductive MathOperation where
  | add
  | subtract
  | multiply
  | divide
  | modulo
  deriving DecidableEq

namespace MathOperation

def all : List MathOperation := [add, subtract, multiply, divide, modulo]

def name : MathOperation → String
  | add => "add"
  | subtract => "subtract"
  | multiply => "multiply"
  | divide => "divide"
  | modulo => "modulo"

def ofName? (s : String) : Option MathOperation := all.find? (·.name = s)

theorem ofName?_name (o : MathOperation) : ofName? o.name = some o := by
  cases o <;> decide

end MathOperation

/-- The methods of a call to a web address. -/
inductive CallMethod where
  | get
  | post
  | put
  | delete
  | patch
  deriving DecidableEq

namespace CallMethod

def all : List CallMethod := [get, post, put, delete, patch]

def name : CallMethod → String
  | get => "GET"
  | post => "POST"
  | put => "PUT"
  | delete => "DELETE"
  | patch => "PATCH"

def ofName? (s : String) : Option CallMethod := all.find? (·.name = s)

theorem ofName?_name (m : CallMethod) : ofName? m.name = some m := by
  cases m <;> decide

end CallMethod

/-! ## What nodes are told to do -/

/-- A message to send. The channel is a note of the author: a message always answers the command. -/
structure Message where
  content : String
  channelId : Option String
  ephemeral : Bool

structure EmbedField where
  name : String
  value : String
  inRow : Bool

structure Embed where
  title : String
  description : String
  color : Option String
  footer : String
  thumbnail : String
  image : String
  fields : List EmbedField
  channelId : Option String
  ephemeral : Bool

structure Test where
  left : String
  operator : Operator
  right : Value
  trueLabel : Option String
  falseLabel : Option String

/-- A value to store in a variable. -/
structure Assignment where
  name : String
  value : Value
  scope : VariableScope
  type : VariableType

structure Readout where
  name : String
  scope : VariableScope
  fallback : Value

/-- A reply to wait for, of the given user in the given channel or of those of the context. -/
structure ReplyWait where
  prompt : String
  timeout : Int
  target : String
  userId : Option String
  channelId : Option String

/-- A role to give to a user or to take away. -/
structure RoleChange where
  userId : String
  roleId : String

structure Call where
  url : String
  method : CallMethod
  headers : Entries String
  body : Option String
  resultVariable : String
  errorVariable : Option String

structure Draw where
  least : Int
  most : Int
  target : String

structure Arithmetic where
  operation : MathOperation
  left : Value
  right : Value
  target : String

inductive Behavior where
  | start (label : String)
  | sendMessage (message : Message)
  | sendEmbed (embed : Embed)
  | ifCondition (test : Test)
  | setVariable (assignment : Assignment)
  | getVariable (readout : Readout)
  | awaitReply (wait : ReplyWait)
  | addRole (change : RoleChange)
  | removeRole (change : RoleChange)
  | apiCall (call : Call)
  | delay (duration : Int)
  | random (draw : Draw)
  | mathOperation (arithmetic : Arithmetic)
  | finish (label : String)

def Behavior.type : Behavior → NodeType
  | start _ => .start
  | sendMessage _ => .sendMessage
  | sendEmbed _ => .sendEmbed
  | ifCondition _ => .ifCondition
  | setVariable _ => .setVariable
  | getVariable _ => .getVariable
  | awaitReply _ => .awaitReply
  | addRole _ => .addRole
  | removeRole _ => .removeRole
  | apiCall _ => .apiCall
  | delay _ => .delay
  | random _ => .random
  | mathOperation _ => .mathOperation
  | finish _ => .finish

/-! ## Nodes -/

structure Position where
  x : Binary64
  y : Binary64

structure Node where
  id : String
  position : Position
  behavior : Behavior

def Node.type (node : Node) : NodeType := node.behavior.type

end CommandFlow
