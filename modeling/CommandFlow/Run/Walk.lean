import CommandFlow.Run.Outcome

/-!
# Runs

A run walks a graph from a start node, one node after the other, over an abstract backend that realizes
what the nodes ask for.

* `Reply`, `Backend` : the answer to a call on the outside world, and the calls that there are;
  `Run.andThen` goes on with the value of an answer;
* `Step`, `Status`, `Failure`, `Result` : the trace of a run and what became of it;
* `Action.writes` : the variables that an answer to an action writes;
* `visit` : one node: its outcome, then its output, its action and its delay;
* `walk` : nodes until the end, a quiet stop, a failure or the limit;
* `run` : a walk from the first start node under the initial variables of a context; `runIn` : a run that
  leaves its variables in the context.
-/

namespace CommandFlow

/-! ## The outside world -/

/-- The answer to a call: a value, a fault, or none because the time of the run was up. -/
inductive Reply (α : Type) where
  | done (a : α)
  | raised (fault : Fault)
  | expired

/-- The calls that a run makes, over a state of the outside world. -/
structure Backend (σ : Type) where
  emit : Output → σ → Reply Unit × σ
  perform : Action → σ → Reply ActionResult × σ
  pause : Nat → σ → Reply Unit × σ

/-! ## Results -/

inductive Report where
  | success (detail : Value)
  | error (text : String)

/-- A visit of a node, as recorded. -/
structure Step where
  nodeId : String
  type : NodeType
  report : Report

def Step.toValue (step : Step) : Value :=
  let (status, report) : String × (String × Value) :=
    match step.report with
    | .success detail => ("success", ("output", detail))
    | .error text => ("error", ("error", .text text))
  .object [("nodeId", .text step.nodeId), ("nodeName", .text step.type.name),
    ("action", .text ("Executing " ++ step.type.name)), ("status", .text status), report]

inductive Status where
  | completed
  | stopped
  | failed
  | stepLimit
  | expired
  deriving DecidableEq

def Status.name : Status → String
  | completed => "COMPLETED"
  | stopped => "STOPPED"
  | failed => "FAILED"
  | stepLimit => "STEP_LIMIT"
  | expired => "EXPIRED"

structure Failure where
  nodeId : String
  type : NodeType
  cause : Fault

def Failure.message (failure : Failure) : String :=
  s!"node {failure.nodeId} ({failure.type.name}) failed: {failure.cause.message}"

structure Result where
  status : Status
  steps : List Step
  bindings : Variables
  failure : Option Failure := none

def Result.path (result : Result) : List String := result.steps.map (·.nodeId)

def Result.after (step : Step) (result : Result) : Result :=
  { result with steps := step :: result.steps }

/-! ## Visits -/

/-- The variables that an answer to an action writes. An error that no variable takes is a fault, and a
value is kept if it is not null and has a variable with a name. -/
def Action.writes (action : Action) (result : ActionResult) : Except Fault Variables :=
  match result.error with
  | some text =>
    match action.errorVariable with
    | some name => .ok [(name, .text text)]
    | none => .error (.action text)
  | none =>
    match action.resultVariable with
    | some name =>
      if name.isEmpty || result.value.isNull then .ok [] else .ok [(name, result.value)]
    | none => .ok []

namespace Run

variable {σ : Type}

/-- Goes on with the value of an answer; a fault or the end of the time passes through. -/
def andThen {α β : Type} (answer : Reply α × σ) (next : α → σ → Reply β × σ) : Reply β × σ :=
  match answer with
  | (.done a, world) => next a world
  | (.raised fault, world) => (.raised fault, world)
  | (.expired, world) => (.expired, world)

def callIf {α : Type} (call : α → σ → Reply Unit × σ) : Option α → σ → Reply Unit × σ
  | some a, world => call a world
  | none, world => (.done (), world)

/-- Performs the action of an outcome, if there is one, for the variables that it writes. -/
def performIf (backend : Backend σ) : Option Action → σ → Reply Variables × σ
  | none, world => (.done [], world)
  | some action, world =>
    andThen (backend.perform action world) fun result world =>
      match action.writes result with
      | .ok writes => (.done writes, world)
      | .error fault => (.raised fault, world)

/-- Realizes an outcome: its output, then its action, then its delay. The answer holds the variables that
the node writes. -/
def realize (backend : Backend σ) (outcome : Outcome) (world : σ) : Reply Variables × σ :=
  andThen (callIf backend.emit outcome.output world) fun _ world =>
    andThen (performIf backend outcome.action world) fun writes world =>
      andThen (callIf backend.pause outcome.delay world) fun _ world =>
        (.done (Entries.merge outcome.bindings writes), world)

/-- A visit: the outcome of the node and the variables that it writes, and the generator afterwards. -/
def visit (backend : Backend σ) (graph : Graph) (context : Context) (node : Node)
    (bindings : Variables) (generator : Generator) (world : σ) :
    (Reply (Outcome × Variables) × σ) × Generator :=
  match node.outcome bindings context graph.declarations generator with
  | (.error fault, generator) => ((.raised fault, world), generator)
  | (.ok outcome, generator) =>
    (andThen (realize backend outcome world) fun writes world =>
      (.done (outcome, writes), world), generator)

/-! ## Walks -/

/-- The node that follows a visit: where the edge that is taken leads, if that is a node. -/
def successor? (graph : Graph) (node : Node) (branch : Option String) : Option Node :=
  (route node.type (graph.outgoing node.id) branch).bind fun edge => graph.find? edge.target

/-- Walks from a node, visiting at most `limit` nodes. A walk that visits as many has reached the limit,
whatever its last node does. A walk whose time is up ends without a step for the node in progress. -/
def walk (backend : Backend σ) (graph : Graph) (context : Context) :
    Nat → Node → Variables → Generator → σ → Result × σ
  | 0, _, bindings, _, world => (⟨.stepLimit, [], bindings, none⟩, world)
  | limit + 1, node, bindings, generator, world =>
    let ending (status : Status) : Status := if limit = 0 then .stepLimit else status
    match visit backend graph context node bindings generator world with
    | ((.expired, world), _) => (⟨.expired, [], bindings, none⟩, world)
    | ((.raised fault, world), _) =>
      let step : Step := ⟨node.id, node.type, .error fault.message⟩
      let failure : Failure := ⟨node.id, node.type, fault⟩
      (⟨ending .failed, [step], bindings, some failure⟩, world)
    | ((.done (outcome, writes), world), generator) =>
      let step : Step := ⟨node.id, node.type, .success outcome.detail⟩
      let bindings := Entries.merge bindings writes
      if outcome.terminal then (⟨ending .completed, [step], bindings, none⟩, world)
      else match successor? graph node outcome.branch with
      | none => (⟨ending .stopped, [step], bindings, none⟩, world)
      | some next =>
        let (result, world) := walk backend graph context limit next bindings generator world
        (result.after step, world)

/-- Why a run cannot begin. -/
inductive Refusal where
  /-- The graph has no start node. -/
  | noStart
  /-- No node may be visited. -/
  | limitTooLow
  deriving DecidableEq

/-- The node that a run begins with: the first that has the identifier of the first start node. -/
def first? (graph : Graph) : Option Node :=
  graph.starts.head?.bind fun start => graph.find? start.id

def run (backend : Backend σ) (graph : Graph) (context : Context) (limit : Int)
    (generator : Generator) (world : σ) : Except Refusal Result × σ :=
  match first? graph with
  | none => (.error .noStart, world)
  | some node =>
    if limit < 1 then (.error .limitTooLow, world)
    else
      let (result, world) :=
        walk backend graph context limit.toNat node context.initialVariables generator world
      (.ok result, world)

/-- What a run meets and leaves: the context that it is for, and the outside world. -/
structure State (σ : Type) where
  context : Context
  world : σ

/-- Runs a graph for the context of a state. A run that comes to its end leaves its variables there; one that
cannot begin, or whose time is up, does not get so far. -/
def runIn (backend : Backend σ) (graph : Graph) (limit : Int) (generator : Generator) (state : State σ) :
    Except Refusal Result × State σ :=
  let (outcome, world) := run backend graph state.context limit generator state.world
  match outcome with
  | .error refusal => (.error refusal, { state with world })
  | .ok result =>
    if result.status = .expired then (.ok result, { state with world })
    else (.ok result, ⟨{ state.context with bindings := result.bindings }, world⟩)

end Run

end CommandFlow
