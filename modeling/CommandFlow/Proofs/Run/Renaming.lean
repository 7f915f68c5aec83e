import CommandFlow.Proofs.Run.Agreement
import CommandFlow.Proofs.Run.Erasure
import CommandFlow.Proofs.Run.Path
import Mathlib.Algebra.Group.End

/-!
# Renamed identifiers

Identifiers of nodes carry no meaning: a run of a graph with other identifiers is the same run with other
identifiers.

* `Graph.rename`, `Simulation.Settings.rename` : the graph and the stubs with other identifiers; a stub for a kind
  of action keeps its name;
* `Simulated.rename` : the simulation with other identifiers in its steps, outputs and actions;
* `Node.outcome_rename`, `Run.successor?_rename` : what a node asks for and where it leads to;
* `Backend.Renames` : a backend that realizes renamed outputs and actions as another one the plain ones;
  `Run.run_rename` : so are the runs;
* `simulate_rename` : a simulation commutes with a renaming.
-/

namespace CommandFlow

/-! ## What is renamed -/

section
variable (ρ : String → String)

def Node.rename (node : Node) : Node := { node with id := ρ node.id }

def Edge.rename (edge : Edge) : Edge := { edge with source := ρ edge.source, target := ρ edge.target }

def Graph.rename (graph : Graph) : Graph :=
  { graph with nodes := graph.nodes.map (·.rename ρ), edges := graph.edges.map (·.rename ρ) }

def Output.rename (output : Output) : Output := { output with nodeId := ρ output.nodeId }

def Action.rename (action : Action) : Action := { action with nodeId := ρ action.nodeId }

def Outcome.rename (outcome : Outcome) : Outcome :=
  { outcome with output := outcome.output.map (·.rename ρ), action := outcome.action.map (·.rename ρ) }

def Step.rename (step : Step) : Step := { step with nodeId := ρ step.nodeId }

def Failure.rename (failure : Failure) : Failure := { failure with nodeId := ρ failure.nodeId }

def Result.rename (result : Result) : Result :=
  { result with steps := result.steps.map (·.rename ρ), failure := result.failure.map (·.rename ρ) }

def actionNames : List String :=
  [NodeType.awaitReply, NodeType.addRole, NodeType.removeRole, NodeType.apiCall].map (·.name)

namespace Simulation

/-- The stubs of the renamed nodes. A name of a kind of action is not renamed. -/
def renameStubs (stubs : Entries Value) : Entries Value :=
  stubs.map fun stub => (if stub.1 ∈ actionNames then stub.1 else ρ stub.1, stub.2)

def Settings.rename (settings : Settings) : Settings :=
  { settings with stubs := renameStubs ρ settings.stubs }

def World.rename (world : World) : World :=
  { world with outputs := world.outputs.map (·.rename ρ), actions := world.actions.map (·.rename ρ) }

end Simulation

def Simulated.rename (simulated : Simulated) : Simulated :=
  ⟨simulated.result.rename ρ, simulated.world.rename ρ⟩

end

/-! ## Nodes and edges -/

section
variable (ρ : String → String)

/-- What asks for no output and no action is in no node's name. -/
theorem map_rename_of_plain {outcome? : Except Fault Outcome}
    (h : ∀ outcome, outcome? = .ok outcome → outcome.output = none ∧ outcome.action = none) :
    outcome?.map (Outcome.rename ρ) = outcome? := by
  cases outcome? with
  | error fault => rfl
  | ok outcome =>
    obtain ⟨houtput, haction⟩ := h outcome rfl
    obtain ⟨bindings, output, action, delay, branch, terminal, detail⟩ := outcome
    cases houtput
    cases haction
    rfl

theorem Test.outcome_rename (test : Test) (bindings : Variables) (context : Context) :
    (test.outcome bindings context).map (Outcome.rename ρ) = test.outcome bindings context := by
  refine map_rename_of_plain ρ fun outcome h => ?_
  obtain ⟨holds, detail, rfl⟩ := Test.exists_of_outcome h
  exact ⟨rfl, rfl⟩

theorem Assignment.outcome_rename (assignment : Assignment) (bindings : Variables) (context : Context) :
    (assignment.outcome bindings context).map (Outcome.rename ρ) = assignment.outcome bindings context := by
  refine map_rename_of_plain ρ fun outcome h => ?_
  obtain ⟨value, detail, rfl⟩ := Assignment.exists_of_outcome h
  exact ⟨rfl, rfl⟩

theorem Arithmetic.outcome_rename (arithmetic : Arithmetic) (bindings : Variables) (context : Context) :
    (arithmetic.outcome bindings context).map (Outcome.rename ρ) = arithmetic.outcome bindings context := by
  refine map_rename_of_plain ρ fun outcome h => ?_
  obtain ⟨value, detail, rfl⟩ := Arithmetic.exists_of_outcome h
  exact ⟨rfl, rfl⟩

theorem Readout.outcome_rename (readout : Readout) (bindings : Variables) (declared : Entries Declaration) :
    (readout.outcome bindings declared).map (Outcome.rename ρ) = readout.outcome bindings declared := by
  refine map_rename_of_plain ρ fun outcome h => ?_
  obtain ⟨detail, rfl⟩ := Readout.exists_of_outcome h
  exact ⟨rfl, rfl⟩

theorem delayOutcome_rename (duration : Int) :
    (delayOutcome duration).map (Outcome.rename ρ) = delayOutcome duration := by
  refine map_rename_of_plain ρ fun outcome h => ?_
  obtain ⟨detail, rfl⟩ := exists_of_delayOutcome h
  exact ⟨rfl, rfl⟩

theorem Draw.outcome_rename (draw : Draw) (generator : Generator) :
    (draw.outcome generator).1.map (Outcome.rename ρ) = (draw.outcome generator).1 := by
  refine map_rename_of_plain ρ fun outcome h => ?_
  obtain ⟨value, detail, rfl⟩ := Draw.exists_of_outcome h
  exact ⟨rfl, rfl⟩

theorem Message.outcome_rename (message : Message) (node : Node) (bindings : Variables) (context : Context) :
    message.outcome (node.rename ρ) bindings context =
      (message.outcome node bindings context).map (Outcome.rename ρ) := by
  unfold Message.outcome
  cases filled (orText message.content emptyMessage) bindings context <;> rfl

theorem Embed.outcome_rename (embed : Embed) (node : Node) (bindings : Variables) (context : Context) :
    embed.outcome (node.rename ρ) bindings context =
      (embed.outcome node bindings context).map (Outcome.rename ρ) := by
  unfold Embed.outcome
  cases embed.content bindings context <;> rfl

theorem ReplyWait.output_rename (wait : ReplyWait) (node : Node) (bindings : Variables) (context : Context) :
    wait.output (node.rename ρ) bindings context =
      (wait.output node bindings context).map (Option.map (Output.rename ρ)) := by
  unfold ReplyWait.output
  split
  · rfl
  · cases filled wait.prompt bindings context <;> rfl

theorem ReplyWait.outcome_rename (wait : ReplyWait) (node : Node) (bindings : Variables)
    (context : Context) :
    wait.outcome (node.rename ρ) bindings context =
      (wait.outcome node bindings context).map (Outcome.rename ρ) := by
  unfold ReplyWait.outcome
  rw [wait.output_rename]
  cases wait.output node bindings context <;> cases filled (wait.userId.getD "") bindings context <;>
    cases filled (wait.channelId.getD "") bindings context <;> rfl

theorem RoleChange.outcome_rename (change : RoleChange) (task : String → String → String → Task)
    (node : Node) (bindings : Variables) (context : Context) :
    change.outcome task (node.rename ρ) bindings context =
      (change.outcome task node bindings context).map (Outcome.rename ρ) := by
  unfold RoleChange.outcome
  cases context.guild with
  | none => rfl
  | some guild =>
    cases filled change.roleId bindings context with
    | error fault => rfl
    | ok roleId =>
      dsimp only [bind, Except.bind]
      split
      · rfl
      · cases filled change.userId bindings context <;> rfl

theorem Call.outcome_rename (call : Call) (node : Node) (bindings : Variables) (context : Context) :
    call.outcome (node.rename ρ) bindings context =
      (call.outcome node bindings context).map (Outcome.rename ρ) := by
  unfold Call.outcome
  cases filled call.url bindings context with
  | error fault => rfl
  | ok url =>
    dsimp only [bind, Except.bind]
    split
    · rfl
    · cases call.filledHeaders bindings context <;> cases call.filledBody bindings context <;> rfl

/-- A renamed node asks for the same in its own name. -/
theorem Node.outcome_rename (node : Node) (bindings : Variables) (context : Context)
    (declared : Entries Declaration) (generator : Generator) :
    (node.rename ρ).outcome bindings context declared generator =
      ((node.outcome bindings context declared generator).1.map (Outcome.rename ρ),
        (node.outcome bindings context declared generator).2) := by
  have hbehavior : (node.rename ρ).behavior = node.behavior := rfl
  unfold Node.outcome
  rw [hbehavior]
  cases node.behavior <;> dsimp only
  case sendEmbed embed => rw [embed.outcome_rename]
  case ifCondition test => rw [test.outcome_rename]
  case setVariable assignment => rw [assignment.outcome_rename]
  case mathOperation arithmetic => rw [arithmetic.outcome_rename]
  case sendMessage message => rw [message.outcome_rename]
  case getVariable readout => rw [readout.outcome_rename]
  case awaitReply wait => rw [wait.outcome_rename]
  case delay duration => rw [delayOutcome_rename]
  case addRole change => rw [change.outcome_rename]
  case removeRole change => rw [change.outcome_rename]
  case apiCall call => rw [call.outcome_rename]
  case random draw => rw [draw.outcome_rename]
  all_goals rfl

variable {ρ} (hρ : Function.Injective ρ)
include hρ

theorem Graph.find?_rename (graph : Graph) (id : String) :
    (graph.rename ρ).find? (ρ id) = (graph.find? id).map (·.rename ρ) := by
  simp only [find?, rename, List.find?_map, Node.rename, Function.comp_def, hρ.eq_iff]

theorem Graph.outgoing_rename (graph : Graph) (id : String) :
    (graph.rename ρ).outgoing (ρ id) = (graph.outgoing id).map (·.rename ρ) := by
  simp only [outgoing, rename, List.filter_map, Edge.rename, Function.comp_def, hρ.eq_iff]

omit hρ in
theorem route_map_rename (type : NodeType) (edges : List Edge) (branch : Option String) :
    route type (edges.map (·.rename ρ)) branch = (route type edges branch).map (·.rename ρ) := by
  unfold route
  split
  · rw [List.find?_map]
    rfl
  · rw [List.head?_map]

omit hρ in
theorem Graph.starts_rename (graph : Graph) :
    (graph.rename ρ).starts = graph.starts.map (·.rename ρ) := by
  simp only [starts, rename, List.filter_map]
  rfl

namespace Run

theorem successor?_rename (graph : Graph) (node : Node) (branch : Option String) :
    successor? (graph.rename ρ) (node.rename ρ) branch =
      (successor? graph node branch).map (·.rename ρ) := by
  have houtgoing : (graph.rename ρ).outgoing (node.rename ρ).id =
      (graph.outgoing node.id).map (·.rename ρ) := graph.outgoing_rename hρ node.id
  unfold successor?
  rw [houtgoing, show (node.rename ρ).type = node.type from rfl, route_map_rename]
  cases route node.type (graph.outgoing node.id) branch with
  | none => rfl
  | some edge => exact graph.find?_rename hρ edge.target

theorem first?_rename (graph : Graph) :
    first? (graph.rename ρ) = (first? graph).map (·.rename ρ) := by
  unfold first?
  rw [graph.starts_rename, List.head?_map]
  cases graph.starts.head? with
  | none => rfl
  | some start => exact graph.find?_rename hρ start.id

end Run

end

/-! ## Runs -/

section
variable {σ τ : Type}

/-- The one backend realizes renamed outputs, and renamed actions of nodes of the graph, as the other one the
plain ones. -/
structure Backend.Renames (ρ : String → String) (f : σ → τ) (graph : Graph) (backend : Backend σ)
    (other : Backend τ) : Prop where
  emit : ∀ output world,
    other.emit (output.rename ρ) (f world) = Prod.map id f (backend.emit output world)
  perform : ∀ node ∈ graph.nodes, ∀ action world, action.nodeId = node.id →
    other.perform (action.rename ρ) (f world) = Prod.map id f (backend.perform action world)
  pause : ∀ milliseconds world,
    other.pause milliseconds (f world) = Prod.map id f (backend.pause milliseconds world)

namespace Run

variable {ρ : String → String} {f : σ → τ} {graph : Graph} {backend : Backend σ} {other : Backend τ}

theorem callIf_rename {α : Type} {call : α → σ → Reply Unit × σ} {call' : α → τ → Reply Unit × τ}
    {g : α → α} (h : ∀ a world, call' (g a) (f world) = Prod.map id f (call a world)) (a? : Option α)
    (world : σ) : callIf call' (a?.map g) (f world) = Prod.map id f (callIf call a? world) := by
  cases a? with
  | none => rfl
  | some a => exact h a world

theorem performIf_rename (h : backend.Renames ρ f graph other) {node : Node} (hnode : node ∈ graph.nodes)
    {action? : Option Action} (haction : ∀ action ∈ action?, action.nodeId = node.id) (world : σ) :
    performIf other (action?.map (·.rename ρ)) (f world) =
      Prod.map id f (performIf backend action? world) := by
  cases action? with
  | none => rfl
  | some action =>
    show andThen (other.perform (action.rename ρ) (f world)) _ = _
    rw [h.perform node hnode action world (haction action rfl)]
    refine andThen_erase _ fun result world => ?_
    rw [show (action.rename ρ).writes result = action.writes result from rfl]
    cases action.writes result <;> rfl

theorem realize_rename (h : backend.Renames ρ f graph other) {node : Node} (hnode : node ∈ graph.nodes)
    {outcome : Outcome} (hfits : outcome.Fits node) (world : σ) :
    realize other (outcome.rename ρ) (f world) = Prod.map id f (realize backend outcome world) := by
  have hemit := callIf_rename h.emit outcome.output world
  have haction : ∀ action ∈ outcome.action, action.nodeId = node.id :=
    fun action haction => (hfits.action action haction).1
  unfold realize
  rw [show (outcome.rename ρ).output = outcome.output.map (·.rename ρ) from rfl, hemit]
  refine andThen_erase _ fun _ world => ?_
  rw [show (outcome.rename ρ).action = outcome.action.map (·.rename ρ) from rfl,
    performIf_rename h hnode haction world]
  refine andThen_erase _ fun writes world => ?_
  have hpause := callIf_rename (g := id) h.pause outcome.delay world
  rw [show (outcome.rename ρ).delay = outcome.delay.map id by simp [Outcome.rename], hpause]
  exact andThen_erase _ fun _ _ => rfl

def renameReply (ρ : String → String) : Reply (Outcome × Variables) → Reply (Outcome × Variables)
  | .done (outcome, writes) => .done (outcome.rename ρ, writes)
  | .raised fault => .raised fault
  | .expired => .expired

theorem visit_rename (h : backend.Renames ρ f graph other) (context : Context) {node : Node}
    (hnode : node ∈ graph.nodes) (bindings : Variables) (generator : Generator) (world : σ) :
    visit other (graph.rename ρ) context (node.rename ρ) bindings generator (f world) =
      (Prod.map (renameReply ρ) f (visit backend graph context node bindings generator world).1,
        (visit backend graph context node bindings generator world).2) := by
  unfold visit
  rw [show (graph.rename ρ).declarations = graph.declarations from rfl, node.outcome_rename]
  cases houtcome : node.outcome bindings context graph.declarations generator with
  | mk answer after =>
    cases answer with
    | error fault => rfl
    | ok outcome =>
      have hrealize := realize_rename h hnode (Node.fits_of_outcome houtcome) world
      show (andThen (realize other (outcome.rename ρ) (f world)) _, after) = _
      rw [hrealize]
      dsimp only
      obtain ⟨reply, world⟩ := realize backend outcome world
      cases reply <;> rfl

theorem mem_nodes_of_successor? {node next : Node} {branch : Option String}
    (h : successor? graph node branch = some next) : next ∈ graph.nodes := by
  obtain ⟨edge, -, hnext⟩ := Option.bind_eq_some_iff.mp h
  exact List.mem_of_find?_eq_some hnext

/-- A walk through the renamed graph is the walk with the nodes renamed. -/
theorem walk_rename (hρ : Function.Injective ρ) (h : backend.Renames ρ f graph other) (context : Context)
    (limit : Nat) {node : Node} (hnode : node ∈ graph.nodes) (bindings : Variables)
    (generator : Generator) (world : σ) :
    walk other (graph.rename ρ) context limit (node.rename ρ) bindings generator (f world) =
      Prod.map (Result.rename ρ) f (walk backend graph context limit node bindings generator world) := by
  induction limit generalizing node bindings generator world with
  | zero => rfl
  | succ limit ih =>
    rw [walk, walk, visit_rename h context hnode]
    obtain ⟨⟨reply, world⟩, generator⟩ := visit backend graph context node bindings generator world
    cases reply with
    | expired => rfl
    | raised fault => rfl
    | done answer =>
      obtain ⟨outcome, writes⟩ := answer
      dsimp only [Prod.map, renameReply]
      rw [show (outcome.rename ρ).terminal = outcome.terminal from rfl,
        show (outcome.rename ρ).branch = outcome.branch from rfl, successor?_rename hρ]
      split
      · rfl
      · cases hnext : successor? graph node outcome.branch with
        | none => rfl
        | some next =>
          dsimp only [Option.map]
          rw [ih (mem_nodes_of_successor? hnext)]
          rfl

theorem run_rename (hρ : Function.Injective ρ) (h : backend.Renames ρ f graph other) (context : Context)
    (limit : Int) (generator : Generator) (world : σ) :
    run other (graph.rename ρ) context limit generator (f world) =
      Prod.map (Except.map (Result.rename ρ)) f
        (run backend graph context limit generator world) := by
  rw [run, run, first?_rename hρ]
  cases hfirst : first? graph with
  | none => rfl
  | some node =>
    obtain ⟨start, -, hnode⟩ := Option.bind_eq_some_iff.mp hfirst
    dsimp only [Option.map]
    split
    · rfl
    · rw [walk_rename hρ h context _ (List.mem_of_find?_eq_some hnode)]
      rfl

end Run

end

/-! ## Simulations -/

namespace Simulation

section
variable {ρ : String → String} {stubs : Entries Value}

/-- The stub of a node is found under the new identifier. -/
theorem get?_renameStubs (hρ : Function.Injective ρ) {id : String} (hid : id ∉ actionNames)
    (hid' : ρ id ∉ actionNames) :
    Entries.get? (renameStubs ρ stubs) (ρ id) = Entries.get? stubs id := by
  induction stubs with
  | nil => rfl
  | cons stub rest ih =>
    have hkey : (if stub.1 ∈ actionNames then stub.1 else ρ stub.1) = ρ id ↔ stub.1 = id := by
      split
      · rename_i hname
        exact ⟨fun h => absurd (h ▸ hname) hid', fun h => absurd (h ▸ hname) hid⟩
      · exact hρ.eq_iff
    rw [renameStubs, List.map_cons, ← renameStubs]
    simp only [Entries.get?, hkey, ih]

theorem get?_renameStubs_of_mem (hstubs : ∀ name ∈ Entries.names stubs, name ∉ actionNames →
    ρ name ∉ actionNames) {name : String} (hname : name ∈ actionNames) :
    Entries.get? (renameStubs ρ stubs) name = Entries.get? stubs name := by
  induction stubs with
  | nil => rfl
  | cons stub rest ih =>
    rw [Entries.names, List.map_cons, List.forall_mem_cons] at hstubs
    have hkey : (if stub.1 ∈ actionNames then stub.1 else ρ stub.1) = name ↔ stub.1 = name := by
      split
      · rfl
      · rename_i hother
        exact ⟨fun h => absurd (h ▸ hname) (hstubs.1 hother), fun h => absurd (h ▸ hname) hother⟩
    rw [renameStubs, List.map_cons, ← renameStubs]
    simp only [Entries.get?, hkey, ih hstubs.2]

end

theorem name_mem_actionNames (task : Task) : task.name ∈ actionNames := by
  cases task <;> simp [actionNames, Task.name, Task.type]

theorem renames_backend {ρ : String → String} (hρ : Function.Injective ρ) {settings : Settings}
    {graph : Graph} (hnodes : ∀ node ∈ graph.nodes, node.id ∉ actionNames ∧ ρ node.id ∉ actionNames)
    (hstubs : ∀ name ∈ Entries.names settings.stubs, name ∉ actionNames → ρ name ∉ actionNames) :
    (backend settings).Renames ρ (World.rename ρ) graph (backend (settings.rename ρ)) where
  emit output world := by simp [backend, World.rename]
  perform node hnode action world hid := by
    obtain ⟨hold, hnew⟩ := hnodes node hnode
    rw [← hid] at hold hnew
    have hanswer : answer (settings.rename ρ).stubs (action.rename ρ) = answer settings.stubs action := by
      unfold answer
      rw [show (action.rename ρ).nodeId = ρ action.nodeId from rfl,
        show (action.rename ρ).task = action.task from rfl,
        show (settings.rename ρ).stubs = renameStubs ρ settings.stubs from rfl,
        get?_renameStubs hρ hold hnew, get?_renameStubs_of_mem hstubs (name_mem_actionNames action.task)]
    simp [backend, World.rename, hanswer]
  pause milliseconds world := by
    show (if inSeconds (min (milliseconds : Int) settings.delayCap) then _ else _) = _
    simp only [backend]
    split <;> rfl

end Simulation

theorem Simulated.ofRun_rename (ρ : String → String) (result : Result) (world : Simulation.World) :
    (Simulated.ofRun result world).rename ρ = .ofRun (result.rename ρ) (world.rename ρ) := by
  obtain ⟨status, steps, bindings, failure⟩ := result
  cases failure with
  | none => simp [Simulated.ofRun, Simulated.rename, Simulation.World.rename, Result.rename]
  | some failure =>
    simp only [Simulated.ofRun, Simulated.rename, Simulation.World.rename, Result.rename, Option.map_some,
      Option.toList_some, List.map_append, List.map_cons, List.map_nil]
    rfl

/-- Identifiers of nodes carry no meaning: with other ones for the nodes of a graph, for the ends of its edges and
for the stubs of nodes, a simulation is the same but for the identifiers. No identifier is the name of a kind of
action, neither before nor afterwards. -/
theorem simulate_rename {ρ : String → String} (hρ : Function.Injective ρ)
    (settings : Simulation.Settings) (graph : Graph) (context : Context) (generator : Generator)
    (hnodes : ∀ node ∈ graph.nodes, node.id ∉ actionNames ∧ ρ node.id ∉ actionNames)
    (hstubs : ∀ name ∈ Entries.names settings.stubs, name ∉ actionNames → ρ name ∉ actionNames) :
    simulate (settings.rename ρ) (graph.rename ρ) context generator =
      (simulate settings graph context generator).map (Simulated.rename ρ) := by
  have hrun := Run.run_rename hρ (Simulation.renames_backend hρ hnodes hstubs) context settings.limit
    generator {}
  cases hplain : Run.run (Simulation.backend settings) graph context settings.limit generator {} with
  | mk outcome world =>
    rw [hplain] at hrun
    cases outcome with
    | error refusal =>
      rw [simulate_eq_error hplain]
      exact simulate_eq_error hrun
    | ok result =>
      rw [simulate_eq_ofRun hplain]
      refine (simulate_eq_ofRun hrun).trans (congrArg Except.ok ?_)
      rw [Simulated.ofRun_rename]

/-- Identifiers that are special elsewhere. -/
def specialIds : Equiv.Perm String :=
  Equiv.swap "begin" "__start__" * Equiv.swap "ask" "n0" * Equiv.swap "greet" "__end__"

theorem simulate_rename_greeting :
    Function.Injective specialIds ∧
    (∀ node ∈ Run.greeting.nodes, node.id ∉ actionNames ∧ specialIds node.id ∉ actionNames) ∧
    (∀ name ∈ Entries.names Run.greetingSettings.stubs, name ∉ actionNames →
      specialIds name ∉ actionNames) ∧
    simulate (Run.greetingSettings.rename specialIds) (Run.greeting.rename specialIds) .standIn
        (.ofSeed 0) =
      (simulate Run.greetingSettings Run.greeting .standIn (.ofSeed 0)).map
        (Simulated.rename specialIds) := by
  have hnodes : ∀ node ∈ Run.greeting.nodes,
      node.id ∉ actionNames ∧ specialIds node.id ∉ actionNames := by decide +kernel
  have hstubs : ∀ name ∈ Entries.names Run.greetingSettings.stubs, name ∉ actionNames →
      specialIds name ∉ actionNames := by decide +kernel
  exact ⟨specialIds.injective, hnodes, hstubs, simulate_rename specialIds.injective Run.greetingSettings
    Run.greeting .standIn (.ofSeed 0) hnodes hstubs⟩

/-- The path under the new identifiers. -/
example :
    (simulate (Run.greetingSettings.rename specialIds) (Run.greeting.rename specialIds) .standIn
      (.ofSeed 0)).toOption.map (·.result.path) = some ["__start__", "n0", "rest", "__end__"] := by
  decide +kernel

end CommandFlow
