import CommandFlow.Color
import CommandFlow.Fault
import CommandFlow.Graph.Basic
import CommandFlow.Random
import CommandFlow.Run.Output
import CommandFlow.Template

/-!
# What a node asks for

* `Outcome` : the variables that a node writes and what it asks of the run: an output, an action, a delay,
  a branch, or the end;
* `Node.outcome` : the outcome of a node under the variables of the run. Nothing happens yet.
-/

namespace CommandFlow

structure Outcome where
  bindings : Variables := []
  output : Option Output := none
  action : Option Action := none
  delay : Option Nat := none
  branch : Option String := none
  terminal : Bool := false
  detail : Value

/-- What is wrong with an integer is what makes the node fail. -/
def IntegerFault.toFault : IntegerFault → Fault
  | tooLarge => .numberTooLarge
  | tooLong => .integerTooLong

/-- A computation that fails on an integer that is out of range, or too long for a text. -/
def inRange {α : Type} (result : Except IntegerFault α) : Except Fault α := result.mapError IntegerFault.toFault

def filled (text : String) (bindings : Variables) (context : Context) : Except Fault String :=
  inRange (Template.fill text bindings context)

def orText (s alternative : String) : String := if s.isEmpty then alternative else s

/-! ## Messages -/

/-- The message that is sent if a message has no content. -/
def emptyMessage : String := "No message"

def Node.output (node : Node) (type : OutputType) (content : Value) (ephemeral : Bool) : Output :=
  ⟨type, node.id, node.type.name, content, ephemeral⟩

def Message.outcome (message : Message) (node : Node) (bindings : Variables) (context : Context) :
    Except Fault Outcome := do
  let content ← filled (orText message.content emptyMessage) bindings context
  return { output := some (node.output .message (.text content) message.ephemeral), detail := .text content }

/-- A member of an embed, left out if its text is empty. -/
def textMember (name text : String) (value : String → Except Fault Value) : Except Fault (Entries Value) := do
  if text.isEmpty then return [] else return [(name, ← value text)]

/-- A titled text of an embed as it is sent. -/
def EmbedField.content (field : EmbedField) (bindings : Variables) (context : Context) : Except Fault Value := do
  let name ← filled field.name bindings context
  let value ← filled field.value bindings context
  return .object [("name", .text name), ("value", .text value), ("inline", .bool field.inRow)]

def Embed.colorMember (embed : Embed) : Except Fault (Entries Value) :=
  match embed.color with
  | none => .ok []
  | some text =>
    if text.isEmpty then .ok []
    else match Color.read? text with
    | some n => .ok [("color", .ofNat n)]
    | none => .error (.badColor text)

/-- The titled texts of an embed as they are sent. -/
def Embed.fieldsMember (embed : Embed) (bindings : Variables) (context : Context) :
    Except Fault (Entries Value) := do
  if embed.fields.isEmpty then return []
  else return [("fields", .list (← embed.fields.mapM (·.content bindings context)))]

def Embed.content (embed : Embed) (bindings : Variables) (context : Context) :
    Except Fault Value := do
  let fill (text : String) : Except Fault Value := return .text (← filled text bindings context)
  let title ← textMember "title" embed.title fill
  let description ← textMember "description" embed.description fill
  let color ← embed.colorMember
  let footer ← textMember "footer" embed.footer fun text => return .object [("text", ← fill text)]
  let thumbnail ← textMember "thumbnail" embed.thumbnail fun url => return .object [("url", .text url)]
  let image ← textMember "image" embed.image fun url => return .object [("url", .text url)]
  let fields ← embed.fieldsMember bindings context
  return .object (title ++ description ++ color ++ footer ++ thumbnail ++ image ++ fields)

def Embed.outcome (embed : Embed) (node : Node) (bindings : Variables) (context : Context) :
    Except Fault Outcome := do
  let content ← embed.content bindings context
  return { output := some (node.output .embed content embed.ephemeral), detail := content }

/-! ## Branches and variables -/

def branchName (taken : Bool) : String := if taken then "true" else "false"

def Test.outcome (test : Test) (bindings : Variables) (context : Context) :
    Except Fault Outcome := do
  let left ← inRange (Template.fillOperand test.left bindings context)
  let right ← inRange (Template.fillValue test.right bindings context)
  let holds ← inRange (test.operator.holds left right)
  let leftText ← inRange left.write
  let rightText ← inRange right.write
  let result := (Value.bool holds).literal
  return {
    branch := some (branchName holds)
    detail := .text s!"Condition: {leftText} {test.operator.name} {rightText} = {result}" }

def Assignment.outcome (assignment : Assignment) (bindings : Variables) (context : Context) :
    Except Fault Outcome := do
  let raw ← inRange (Template.fillValue assignment.value bindings context)
  let value ← inRange (assignment.type.coerce raw)
  let text ← inRange value.write
  return {
    bindings := [(assignment.name, value)]
    detail := .text s!"Set {assignment.name} = {text}" }

/-- The first of the values that is not null, or null. -/
def firstGiven : List Value → Value
  | [] => .null
  | .null :: rest => firstGiven rest
  | v :: _ => v

/-- Shows a variable, or else its fallback, or else the value that the graph declares. -/
def Readout.outcome (readout : Readout) (bindings : Variables)
    (declared : Entries Declaration) : Except Fault Outcome := do
  let value := firstGiven [(Entries.get? bindings readout.name).getD .null, readout.fallback,
    ((Entries.get? declared readout.name).map (·.initial)).getD .null]
  let text ← inRange value.write
  return { detail := .text s!"Get {readout.name} = {text}" }

/-- Writes a value that was drawn between two bounds, the lesser one in front. -/
def drawOutcome (target : String) (least most value : Int) : Except Fault Outcome := do
  let valueText ← inRange (Value.int value).write
  let leastText ← inRange (Value.int least).write
  let mostText ← inRange (Value.int most).write
  return {
    bindings := [(target, .int value)]
    detail := .text s!"Generated random number: {valueText} ({leastText}-{mostText})" }

/-- Draws a random number between the two bounds, whichever of them is the lesser. -/
def Draw.outcome (draw : Draw) (generator : Generator) : Except Fault Outcome × Generator :=
  let least := min draw.least draw.most
  let most := max draw.least draw.most
  let (value, generator) := generator.between least most
  (drawOutcome draw.target least most value, generator)

/-- Waits for so many milliseconds, or not at all if there are fewer than none. -/
def delayOutcome (duration : Int) : Except Fault Outcome := do
  let text ← inRange (Value.ofNat duration.toNat).write
  return { delay := some duration.toNat, detail := .text s!"Waiting {text}ms" }

/-! ## Arithmetic -/

def isSingleWord (s : String) : Bool := !s.isEmpty && s.toList.all Text.isWord

/-- The number of an operand. A text is a template; if it names a variable, that one counts. -/
def operandNumber (operand : Value) (bindings : Variables) (context : Context) :
    Except IntegerFault Binary64 :=
  match operand with
  | .text template =>
    let text := Text.strip (Template.interpolate template bindings context)
    match if isSingleWord text then Entries.get? bindings text else none with
    | some value => value.toNumber
    | none => (Value.text text).toNumber
  | value => value.toNumber

/-- The number of an operand whose placeholders can be replaced. -/
def filledNumber (operand : Value) (bindings : Variables) (context : Context) :
    Except IntegerFault Binary64 := do
  let _ ← Template.fillValue operand bindings context
  operandNumber operand bindings context

/-- The result of an operation. Division by zero gives zero. -/
def MathOperation.apply (operation : MathOperation) (left right : Binary64) : Binary64 :=
  match operation with
  | add => left.add right
  | subtract => left.sub right
  | multiply => left.mul right
  | divide => if right.isZero then .zero else left.div right
  | modulo => if right.isZero then .zero else left.rem right

def Arithmetic.outcome (arithmetic : Arithmetic) (bindings : Variables) (context : Context) :
    Except Fault Outcome := do
  let left ← inRange (filledNumber arithmetic.left bindings context)
  let right ← inRange (filledNumber arithmetic.right bindings context)
  let value := Value.ofNumber (arithmetic.operation.apply left right)
  -- No floating-point number is an integer of more than 309 digits, so these texts are never too long.
  let name := arithmetic.operation.name
  return {
    bindings := [(arithmetic.target, value)]
    detail := .text
      s!"{(Value.float left).toText} {name} {(Value.float right).toText} = {value.toText}" }

/-! ## Actions -/

/-- The message that a wait sends first, if it has one. -/
def ReplyWait.output (wait : ReplyWait) (node : Node) (bindings : Variables) (context : Context) :
    Except Fault (Option Output) := do
  if wait.prompt.isEmpty then return none
  else
    let prompt ← filled wait.prompt bindings context
    return some (node.output .message (.text prompt) false)

def ReplyWait.outcome (wait : ReplyWait) (node : Node) (bindings : Variables)
    (context : Context) : Except Fault Outcome := do
  let output ← wait.output node bindings context
  let userId ← filled (wait.userId.getD "") bindings context
  let channelId ← filled (wait.channelId.getD "") bindings context
  let task : Task := .awaitReply wait.timeout.toNat (orText userId context.user.id)
    (orText channelId context.channel.id)
  return {
    output
    action := some { nodeId := node.id, task, resultVariable := some wait.target }
    detail := .text s!"Awaiting reply into {wait.target}" }

/-- Changes a role of a user, of the one in the context unless another is named. -/
def RoleChange.outcome (change : RoleChange) (task : String → String → String → Task) (node : Node)
    (bindings : Variables) (context : Context) : Except Fault Outcome := do
  let some guild := context.guild | .error .guildRequired
  let roleId := Text.strip (← filled change.roleId bindings context)
  if roleId.isEmpty then .error .roleRequired
  else
    let userId := orText (Text.strip (← filled change.userId bindings context)) context.user.id
    return {
      action := some { nodeId := node.id, task := task guild.id userId roleId }
      detail := .text s!"{node.type.name} {roleId} -> {userId}" }

def Call.filledHeaders (call : Call) (bindings : Variables) (context : Context) : Except Fault (Entries String) :=
  call.headers.mapM fun (name, value) => return (name, ← filled value bindings context)

/-- The body of a call with its placeholders replaced. An empty one is none. -/
def Call.filledBody (call : Call) (bindings : Variables) (context : Context) : Except Fault (Option String) :=
  match call.body with
  | some text => if text.isEmpty then return none else return some (← filled text bindings context)
  | none => return none

def Call.outcome (call : Call) (node : Node) (bindings : Variables) (context : Context) :
    Except Fault Outcome := do
  let url := Text.strip (← filled call.url bindings context)
  if url.isEmpty then .error .addressRequired
  else
    let headers ← call.filledHeaders bindings context
    let body ← call.filledBody bindings context
    return {
      action := some {
        nodeId := node.id
        task := .call url call.method headers body
        resultVariable := some call.resultVariable
        errorVariable := call.errorVariable }
      detail := .text s!"{call.method.name} {url}" }

/-! ## Nodes -/

/-- The outcome of a node under the variables of the run, and the generator afterwards. Only a random
number draws from it. -/
def Node.outcome (node : Node) (bindings : Variables) (context : Context)
    (declared : Entries Declaration) (generator : Generator) :
    Except Fault Outcome × Generator :=
  let settled (outcome : Except Fault Outcome) : Except Fault Outcome × Generator :=
    (outcome, generator)
  match node.behavior with
  | .start _ => settled (.ok { detail := .text "Command execution started" })
  | .sendMessage message => settled (message.outcome node bindings context)
  | .sendEmbed embed => settled (embed.outcome node bindings context)
  | .ifCondition test => settled (test.outcome bindings context)
  | .setVariable assignment => settled (assignment.outcome bindings context)
  | .getVariable readout => settled (readout.outcome bindings declared)
  | .awaitReply wait => settled (wait.outcome node bindings context)
  | .addRole change => settled (change.outcome .addRole node bindings context)
  | .removeRole change => settled (change.outcome .removeRole node bindings context)
  | .apiCall call => settled (call.outcome node bindings context)
  | .delay duration => settled (delayOutcome duration)
  | .random draw => draw.outcome generator
  | .mathOperation arithmetic => settled (arithmetic.outcome bindings context)
  | .finish _ =>
    settled (.ok { terminal := true, detail := .text "Command execution completed" })

end CommandFlow
