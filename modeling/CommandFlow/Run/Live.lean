import CommandFlow.Run.Web
import CommandFlow.Settings

/-!
# Live runs

A live run delivers outputs as replies to an interaction, changes roles, waits for replies and calls web
addresses, within a limit of time.

* `Platform` : what a live run asks of the outside world;
* `Live.World` : the outside world, and whether the run has replied;
* `Live.emit` : the first output is a primary response, every later one a follow-up;
* `Live.executeIn` : a run within its limit of time; `Live.execute` : one of which the context is not kept;
* `Live.sendNotice` : a notice outside of runs.
-/

namespace CommandFlow

/-- Whose message to wait for, where and for how many seconds, looking so many seconds apart. -/
structure MessageWait where
  channelId : String
  userId : String
  timeout : Binary64
  poll : Binary64

/-- What a live run asks of the outside world, over a state of it. -/
structure Platform (σ : Type) extends Web σ where
  hasResponded : σ → Bool
  respond : Value → σ → Reply Unit × σ
  followUp : Value → σ → Reply Unit × σ
  addRole : (guildId userId roleId : String) → σ → Reply Unit × σ
  removeRole : (guildId userId roleId : String) → σ → Reply Unit × σ
  awaitMessage : MessageWait → σ → Reply Value × σ

namespace Live

variable {σ : Type}

/-- The outside world, and whether the run has replied. -/
structure World (σ : Type) where
  hasReplied : Bool
  outside : σ

/-- Makes a call on the outside world. -/
def call {α : Type} (make : σ → Reply α × σ) (world : World σ) : Reply α × World σ :=
  let (answer, outside) := make world.outside
  (answer, { world with outside })

/-- Notes that the run has replied, if a call went through. -/
def noteReply (answer : Reply Unit × World σ) : Reply Unit × World σ :=
  Run.andThen answer fun _ world => (.done (), { world with hasReplied := true })

/-- Delivers an output: as the primary response while there is none, else as a follow-up. -/
def emit (platform : Platform σ) (output : Output) (world : World σ) : Reply Unit × World σ :=
  if world.hasReplied || platform.hasResponded world.outside then
    call (platform.followUp output.payload) world
  else noteReply (call (platform.respond output.payload) world)

/-- A number of milliseconds in seconds, if that is in range. -/
@[irreducible] def seconds? (milliseconds : Nat) : Option Binary64 :=
  let x := Binary64.ofRatio false milliseconds 1000
  if x.isFinite then some x else none

/-- Goes on with a number of milliseconds in seconds; a number out of range is a fault. -/
def withSeconds {α ω : Type} (milliseconds : Nat) (world : ω) (next : Binary64 → Reply α × ω) :
    Reply α × ω :=
  match seconds? milliseconds with
  | none => (.raised .durationTooLong, world)
  | some seconds => next seconds

/-- A failure of a call is the error of the action, unless there was no request. -/
def failed (fault : Http.Fault) : Reply ActionResult :=
  if fault.isTransport then .done { error := some fault.message } else .raised (.request fault)

def fetched (library : Http.Library) (request : Http.Request) :
    Except Http.Fault Http.Response → Reply ActionResult
  | .error fault => failed fault
  | .ok response =>
    match response.check request with
    | .error fault => failed fault
    | .ok () =>
      match response.content library with
      | .error fault => .raised (.json fault)
      | .ok value => .done { value }

def fetch (platform : Platform σ) (method : CallMethod) (url : String) (headers : Entries String)
    (body : Option String) (outside : σ) : Reply ActionResult × σ :=
  let content : Http.Body := match body with
    | some text => .text text
    | none => .empty
  match Http.Request.make platform.library method.name url headers content [] with
  | .error fault => (failed fault, outside)
  | .ok request =>
    let (answer, outside) := platform.send request outside
    platform.timely (fetched platform.library request answer, outside)

def settled (answer : Reply Unit × σ) : Reply ActionResult × σ :=
  Run.andThen answer fun _ outside => (.done {}, outside)

def perform (platform : Platform σ) (poll : Binary64) (task : Task) (outside : σ) :
    Reply ActionResult × σ :=
  match task with
  | .addRole guildId userId roleId => settled (platform.addRole guildId userId roleId outside)
  | .removeRole guildId userId roleId =>
    settled (platform.removeRole guildId userId roleId outside)
  | .awaitReply timeout userId channelId =>
    withSeconds timeout outside fun timeout =>
      Run.andThen (platform.awaitMessage { channelId, userId, timeout, poll } outside)
        fun value outside => (.done { value }, outside)
  | .call url method headers body => fetch platform method url headers body outside

def backend (platform : Platform σ) (poll : Binary64) : Backend (World σ) where
  emit := emit platform
  perform action world := call (perform platform poll action.task) world
  pause milliseconds world :=
    withSeconds milliseconds world fun seconds => call (platform.sleep (ticksOf seconds)) world

/-! ## Execution -/

/-- Why there is no result. -/
inductive Stop where
  | refused (refusal : Run.Refusal)
  | timeout (seconds : Binary64)

/-- The complaint about a run whose time was up. -/
def timeoutMessage (seconds : Binary64) : String := s!"Execution timeout after {seconds.text}s"

def adjust (platform : Platform σ) (change : Clock → Clock) (world : World σ) : World σ :=
  { world with outside := platform.adjust change world.outside }

/-- The settings leave a run no time at all. -/
def isTimeless (limit : Binary64) : Bool := !Binary64.zero.lt limit && !limit.isNaN

/-- Runs a graph within the limit of time of the settings. Without any time nothing is begun. -/
def executeIn (platform : Platform σ) (settings : Settings) (graph : Graph) (generator : Generator)
    (state : Run.State (World σ)) : Except Stop Result × Run.State (World σ) :=
  if isTimeless settings.timeLimit then (.error (.timeout settings.timeLimit), state)
  else
    let (outcome, state) := Run.runIn (backend platform settings.pollInterval) graph settings.visitLimit generator
      { state with world := adjust platform (·.allow settings.timeLimit) state.world }
    let state := { state with world := adjust platform Clock.free state.world }
    match outcome with
    | .error refusal => (.error (.refused refusal), state)
    | .ok result =>
      if result.status = .expired then (.error (.timeout settings.timeLimit), state) else (.ok result, state)

/-- Runs a graph for a context that nothing reads afterwards. -/
def execute (platform : Platform σ) (settings : Settings) (graph : Graph) (context : Context)
    (generator : Generator) (world : World σ) : Except Stop Result × World σ :=
  let (outcome, state) := executeIn platform settings graph generator ⟨context, world⟩
  (outcome, state.world)

def noticeSender : String := "SYSTEM"

def sendNotice (platform : Platform σ) (text : String) (ephemeral : Bool) (world : World σ) :
    Reply Unit × World σ :=
  emit platform ⟨.error, "", noticeSender, .text text, ephemeral⟩ world

end Live

end CommandFlow
