import CommandFlow.Chat.Interaction
import CommandFlow.Chat.Invocation
import CommandFlow.Graph.Document
import CommandFlow.Service.Router

/-!
# The bot

The bot answers invocations of commands: it finds the project that answers to the command in the guild, loads
the command's graph and runs it. Where this is not possible, and where a run does not end well, the user gets
a notice.

* `Notice` : the notices; `Bot.notify` : sends one;
* `Bot.load` : the graph of a command; `Bot.handle` : the answer to an invocation;
* `Bot.gateway` : the gateway of procedures on a web;
* `Bot.needsStore` : the answer cannot be given without the store.
-/

namespace CommandFlow.Service

/-- What a user is told who gets no answer from a graph, or not a whole one. -/
inductive Notice where
  /-- The command was invoked in a direct message. -/
  | directMessage
  /-- No project in the guild has the command. -/
  | notDeployed
  /-- The command has no graph that can be read. -/
  | notConfigured
  /-- The run failed, or took too long. -/
  | failed
  deriving DecidableEq

def Notice.text : Notice → String
  | directMessage => "This bot only works in servers, not DMs."
  | notDeployed => "This command is not deployed to this server."
  | notConfigured => "Command configuration not found."
  | failed => "An error occurred while executing this command."

/-- Which parts of the store do not answer. -/
inductive Outage where
  | none
  | deployments
  | all
  deriving DecidableEq

def Outage.serves : Outage → Area → Bool
  | none, _ => true
  | deployments, .deployments => false
  | deployments, .catalogue => true
  | all, _ => false

namespace Bot

variable {σ : Type}

def gateway (outage : Outage) (client : Chat.Client) (web : Web σ) : Gateway σ where
  serves area outside := (outage.serves area, outside)
  register guild payload outside :=
    let (answer, outside) := client.putCommands web guild (.list payload) outside
    (answer.map fun _ => (), outside)

def guildOf (invocation : Chat.Invocation) : Except Fault (Option String) :=
  match invocation.guildId with
  | .null => .ok none
  | .list _ => .error .wrongKind
  | .object _ => .error .wrongKind
  | guild => .ok (some guild.toText)

/-- A reply as a result. Only runs have a limit of time. -/
def sent : Reply Unit → Except ServiceFault Unit
  | .raised fault => .error (.fault fault)
  | _ => .ok ()

def notify (platform : Platform σ) (notice : Notice) (hasReplied : Bool) (world : World σ) :
    Except ServiceFault Unit × World σ :=
  let (reply, live) := Live.sendNotice platform notice.text true ⟨hasReplied, world.outside⟩
  (sent reply, { world with outside := live.outside })

def reject (platform : Platform σ) (notice : Notice) (world : World σ) :
    Except ServiceFault (Option Status) × World σ :=
  let (result, world) := notify platform notice false world
  (result.map fun _ => none, world)

def apologize (platform : Platform σ) (status : Status) (hasReplied : Bool) (world : World σ) :
    Except ServiceFault (Option Status) × World σ :=
  let (result, world) := notify platform .failed hasReplied world
  (result.map fun _ => some status, world)

/-- Loads the graph of a command, if it has one that can be read. -/
def load (gateway : Gateway σ) (project : Uuid) (name : String) (world : World σ) :
    Except ServiceFault (Option Graph) × World σ :=
  Procedure.ifServed gateway .catalogue world
    (fun world =>
      let graph := (world.router.store.activeGraph project name).bind fun raw =>
        (GraphDocument.read .store raw).toOption.map (·.graph)
      (.ok graph, world))
    fun world => (.error .storage, world)

/-- A run that ended so is followed by a notice. -/
def needsNotice (status : Status) : Bool := status = .failed || status = .stepLimit

def execute (settings : Settings) (platform : Platform σ) (graph : Graph) (context : Context)
    (generator : Generator) (world : World σ) : Except ServiceFault (Option Status) × World σ :=
  let (outcome, live) :=
    Live.execute platform settings graph context generator ⟨false, world.outside⟩
  let world := { world with outside := live.outside }
  match outcome with
  | .error (.refused refusal) => (.error (.refused refusal), world)
  | .error (.timeout _) => apologize platform .failed live.hasReplied world
  | .ok result =>
    if needsNotice result.status then apologize platform result.status live.hasReplied world
    else (.ok (some result.status), world)

def handleIn (settings : Settings) (gateway : Gateway σ) (platform : Platform σ) (guild : String)
    (invocation : Chat.Invocation) (generator : Generator) (world : World σ) :
    Except ServiceFault (Option Status) × World σ :=
  match (Procedure.resolve guild invocation.commandName).run gateway guild world with
  | (.error (.notDeployed _ _), world) => reject platform .notDeployed world
  | (.error fault, world) => (.error fault, world)
  | (.ok project, world) =>
    match load gateway project invocation.commandName world with
    | (.error fault, world) => (.error fault, world)
    | (.ok none, world) => reject platform .notConfigured world
    | (.ok (some graph), world) =>
      execute settings platform graph invocation.context generator world

/-- Answers an invocation: the status of its run, or nothing if a notice took its place. -/
def handle (settings : Settings) (gateway : Gateway σ) (platform : Platform σ)
    (invocation : Chat.Invocation) (generator : Generator) (world : World σ) :
    Except ServiceFault (Option Status) × World σ :=
  match guildOf invocation with
  | .error fault => (.error (.fault fault), world)
  | .ok none => reject platform .directMessage world
  | .ok (some guild) =>
    handleIn settings gateway platform guild invocation generator world

/-- The answer cannot be given without the store: the names of the guild are not known, or a project answers to
the command, whose graph is then to be loaded. -/
def needsStore (invocation : Chat.Invocation) (world : World σ) : Bool :=
  match guildOf invocation with
  | .ok (some guild) =>
    match world.known guild with
    | some names => Entries.contains names invocation.commandName
    | none => true
  | _ => false

end Bot

end CommandFlow.Service
