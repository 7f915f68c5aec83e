import CommandFlow.Run.Walk

/-!
# Simulated runs

A simulation records outputs and actions instead of realizing them, answers actions from stubs and
shortens delays.

* `Simulation.Settings` : the cap of delays, the stubs and the limit of visits;
* `Simulation.World` : what was recorded, and the time that passed;
* `simulate` : a simulated run. A failure shows as a last output;
* `simulate_eq_ofRun`, `simulate_eq_error` : what the run comes to.
-/

namespace CommandFlow

namespace Simulation

structure Settings where
  /-- The longest delay, in milliseconds. -/
  delayCap : Int := 100
  /-- The answers to actions, by node or by kind of action. -/
  stubs : Entries Value := []
  /-- The most nodes that are visited. -/
  limit : Int := 1000

/-- What a simulation recorded, and the milliseconds that passed. -/
structure World where
  outputs : List Output := []
  actions : List Action := []
  elapsed : Nat := 0

/-- The answer to an action: the stub of its node, or else of its kind, or else null. -/
def answer (stubs : Entries Value) (action : Action) : Value :=
  match Entries.get? stubs action.nodeId with
  | some v => v
  | none => (Entries.get? stubs action.task.name).getD .null

/-- A number of milliseconds is in range as a number of seconds. -/
@[irreducible] def inSeconds (milliseconds : Int) : Bool :=
  (Binary64.ofRatio (milliseconds < 0) milliseconds.natAbs 1000).isFinite

/-- Records outputs and actions and lets capped delays pass. -/
def backend (settings : Settings) : Backend World where
  emit output world := (.done (), { world with outputs := world.outputs ++ [output] })
  perform action world :=
    (.done { value := answer settings.stubs action },
      { world with actions := world.actions ++ [action] })
  pause duration world :=
    let delay := min (duration : Int) settings.delayCap
    if inSeconds delay then (.done (), { world with elapsed := world.elapsed + delay.toNat })
    else (.raised .durationTooLong, world)

def closingOutput (failure : Failure) : Output :=
  ⟨.error, failure.nodeId, failure.type.name, .text failure.cause.message, false⟩

/-- The form in which the outputs of a simulation are recorded: numbered from one. -/
def recorded (outputs : List Output) : List Value :=
  outputs.mapIdx fun i output =>
    .object (("id", .text s!"output-{i + 1}") :: output.members)

end Simulation

/-- A simulated run: its result and what was recorded. -/
structure Simulated where
  result : Result
  world : Simulation.World

def simulate (settings : Simulation.Settings) (graph : Graph) (context : Context)
    (generator : Generator) : Except Run.Refusal Simulated :=
  match Run.run (Simulation.backend settings) graph context settings.limit generator {} with
  | (.error refusal, _) => .error refusal
  | (.ok result, world) =>
    match result.failure with
    | none => .ok ⟨result, world⟩
    | some failure =>
      .ok ⟨result, { world with outputs := world.outputs ++ [Simulation.closingOutput failure] }⟩

def Simulated.ofRun (result : Result) (world : Simulation.World) : Simulated :=
  ⟨result, { world with
    outputs := world.outputs ++ (result.failure.map Simulation.closingOutput).toList }⟩

theorem simulate_eq_ofRun {settings : Simulation.Settings} {graph : Graph} {context : Context}
    {generator : Generator} {result : Result} {world : Simulation.World}
    (h : Run.run (Simulation.backend settings) graph context settings.limit generator {} =
      (.ok result, world)) :
    simulate settings graph context generator = .ok (.ofRun result world) := by
  simp only [simulate, h, Simulated.ofRun]
  cases result.failure with
  | none => simp
  | some failure => rfl

theorem simulate_eq_error {settings : Simulation.Settings} {graph : Graph} {context : Context}
    {generator : Generator} {refusal : Run.Refusal} {world : Simulation.World}
    (h : Run.run (Simulation.backend settings) graph context settings.limit generator {} =
      (.error refusal, world)) :
    simulate settings graph context generator = .error refusal := by
  simp only [simulate, h]

end CommandFlow
