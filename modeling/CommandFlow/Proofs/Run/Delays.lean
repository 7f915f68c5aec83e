import CommandFlow.Proofs.Run.Agreement
import CommandFlow.Proofs.Run.Extension
import CommandFlow.Proofs.Run.Trace
import CommandFlow.Proofs.Value.Length
import Mathlib.Algebra.Order.BigOperators.Group.List

/-!
# The time of a simulation

The cap of delays decides how long a simulation takes, and nothing else.

* `Step.pause` : how long a simulation with a cap waits at a step; `sum_pause_le` : at most the cap for every step;
* `Node.delay_of_outcome`, `Node.isShort_of_outcome` : a node that does not fail asks for its delay, which is not too
  long for a text;
* `Simulation.related_delayCap` : what a simulation records does not depend on the cap;
* `Simulation.elapsed_realize`, `Simulation.elapsed_visit` : the time that one visit takes;
  `Simulation.elapsed_walk` : and a walk;
* `simulate_delayCap` : simulations with different caps differ in their time alone.
-/

namespace CommandFlow

/-! ## Delays -/

/-- How long the behaviour asks to wait, in milliseconds. -/
def Behavior.duration? : Behavior → Option Int
  | delay duration => some duration
  | _ => none

/-- A duration as far as the cap allows it; nothing is less than no time. -/
def capped (cap duration : Int) : Int := max 0 (min duration cap)

/-- How long a simulation with the cap waits at the step, in milliseconds. A node that fails does not wait. -/
def Step.pause (graph : Graph) (cap : Int) (step : Step) : Int :=
  match step.report with
  | .success _ => (((graph.find? step.nodeId).bind (·.behavior.duration?)).map (capped cap)).getD 0
  | .error _ => 0

theorem capped_le (cap duration : Int) : capped cap duration ≤ max 0 cap := by
  unfold capped
  omega

theorem toNat_min_toNat (duration cap : Int) :
    ((min (duration.toNat : Int) cap).toNat : Int) = capped cap duration := by
  unfold capped
  omega

theorem Step.pause_le (graph : Graph) (cap : Int) (step : Step) : step.pause graph cap ≤ max 0 cap := by
  unfold Step.pause
  split
  · cases (graph.find? step.nodeId).bind (·.behavior.duration?) with
    | none => exact le_max_left 0 cap
    | some duration => exact capped_le cap duration
  · exact le_max_left 0 cap

theorem sum_pause_le (graph : Graph) (cap : Int) (steps : List Step) :
    (steps.map (·.pause graph cap)).sum ≤ max 0 cap * steps.length := by
  have hall : ∀ ms ∈ steps.map (·.pause graph cap), ms ≤ max 0 cap := by
    intro ms hms
    obtain ⟨step, -, rfl⟩ := List.mem_map.mp hms
    exact step.pause_le graph cap
  have hsum := List.sum_le_card_nsmul _ _ hall
  rwa [List.length_map, nsmul_eq_mul, mul_comm] at hsum

/-- A node asks for a delay exactly if that is what it does. -/
theorem Node.delay_of_outcome {node : Node} {bindings : Variables} {context : Context}
    {declared : Entries Declaration} {generator after : Generator} {outcome : Outcome}
    (h : node.outcome bindings context declared generator = (.ok outcome, after)) :
    outcome.delay = node.behavior.duration?.map Int.toNat := by
  have hresult : (node.outcome bindings context declared generator).1 = .ok outcome := by rw [h]
  cases hbehavior : node.behavior <;> simp only [Node.outcome, hbehavior] at hresult
  case sendEmbed embed =>
    obtain ⟨content, rfl⟩ := Embed.exists_of_outcome hresult
    rfl
  case ifCondition test =>
    obtain ⟨holds, detail, rfl⟩ := Test.exists_of_outcome hresult
    rfl
  case setVariable assignment =>
    obtain ⟨value, detail, rfl⟩ := Assignment.exists_of_outcome hresult
    rfl
  case mathOperation arithmetic =>
    obtain ⟨value, detail, rfl⟩ := Arithmetic.exists_of_outcome hresult
    rfl
  case addRole change =>
    obtain ⟨guildId, userId, roleId, detail, rfl⟩ := RoleChange.exists_of_outcome hresult
    rfl
  case removeRole change =>
    obtain ⟨guildId, userId, roleId, detail, rfl⟩ := RoleChange.exists_of_outcome hresult
    rfl
  case apiCall call =>
    obtain ⟨url, headers, body, detail, rfl⟩ := Call.exists_of_outcome hresult
    rfl
  case sendMessage message =>
    obtain ⟨content, rfl⟩ := Message.exists_of_outcome hresult
    rfl
  case getVariable readout =>
    obtain ⟨detail, rfl⟩ := Readout.exists_of_outcome hresult
    rfl
  case awaitReply wait =>
    obtain ⟨output, userId, channelId, detail, rfl, -⟩ := ReplyWait.exists_of_outcome hresult
    rfl
  case delay duration =>
    obtain ⟨detail, rfl⟩ := exists_of_delayOutcome hresult
    rfl
  case random draw =>
    obtain ⟨value, detail, rfl⟩ := Draw.exists_of_outcome hresult
    rfl
  all_goals
    cases hresult
    rfl

/-- The delay of a node is written into the trace, and so the node fails exactly if that is too long for a text. -/
theorem delayOutcome_eq (duration : Int) :
    (Value.IsShort duration.toNat → ∃ detail,
      delayOutcome duration = .ok { delay := some duration.toNat, detail }) ∧
    (¬ Value.IsShort duration.toNat → delayOutcome duration = .error .integerTooLong) := by
  constructor
  · intro hshort
    rw [delayOutcome, Value.ofNat, Value.write_int hshort]
    exact ⟨_, rfl⟩
  · intro hlong
    rw [delayOutcome, Value.ofNat, Value.write_int_of_not_isShort hlong]
    rfl

namespace Simulation

/-! ## What is recorded -/

/-- The two records tell the same, whatever time they took. -/
def SameLogs (world other : World) : Prop := other.outputs = world.outputs ∧ other.actions = world.actions

/-- What a simulation records, and how its calls are answered, does not depend on the cap. -/
theorem related_delayCap (settings : Settings) {cap other : Int} (hcap : inSeconds cap = true)
    (hother : inSeconds other = true) :
    (backend { settings with delayCap := cap }).Related SameLogs (fun _ => False)
      (backend { settings with delayCap := other }) where
  keeps := ⟨fun _ _ => id, fun _ _ => id, fun _ _ => id⟩
  emit output world world' _ h := by
    refine .inr ⟨rfl, ?_, h.2⟩
    show world'.outputs ++ [output] = world.outputs ++ [output]
    rw [h.1]
  perform action world world' _ h := by
    refine .inr ⟨?_, ?_⟩
    · rw [Run.performIf_some_fst, Run.performIf_some_fst]
      rfl
    · rw [Run.performIf_some_snd, Run.performIf_some_snd]
      refine ⟨h.1, ?_⟩
      show world'.actions ++ [action] = world.actions ++ [action]
      rw [h.2]
  pause milliseconds world world' h := by
    simp only [backend, inSeconds_min hcap, inSeconds_min hother, if_true]
    exact .inr ⟨rfl, h⟩

/-! ## The time that passes -/

section
variable (settings : Settings) (hcap : inSeconds settings.delayCap = true)
include hcap

/-- With a cap in range everything that an outcome asks for goes through, and only its delay takes time. -/
theorem elapsed_realize (outcome : Outcome) (world : World) :
    let realized := Run.realize (backend settings) outcome world
    (∃ writes, realized.1 = .done writes) ∧ realized.2.elapsed = world.elapsed +
      (outcome.delay.map fun (duration : Nat) => (min (duration : Int) settings.delayCap).toNat).getD 0 := by
  obtain ⟨writes, hwrites⟩ := exists_performIf_backend settings outcome.action
    { world with outputs := world.outputs ++ outcome.output.toList }
  rw [Run.realize, callIf_emit_backend]
  simp only [Run.andThen, hwrites]
  cases outcome.delay with
  | none => exact ⟨⟨_, rfl⟩, rfl⟩
  | some duration =>
    simp only [Run.callIf, backend, inSeconds_min hcap, if_true]
    exact ⟨⟨_, rfl⟩, rfl⟩

variable (graph : Graph) (context : Context)

/-- A visit is recorded, and takes the time of its step. -/
theorem elapsed_visit {v : Run.Visit World} (hfind : graph.find? v.node.id = some v.node) :
    ∃ step, v.step? (backend settings) graph context = some step ∧
      ((v.leaves (backend settings) graph context).elapsed : Int) =
        v.world.elapsed + step.pause graph settings.delayCap := by
  cases houtcome : v.node.outcome v.bindings context graph.declarations v.generator with
  | mk result after =>
    cases result with
    | error fault =>
      obtain ⟨hreply, hleaves⟩ := Run.Visit.of_error (backend settings) houtcome
      refine ⟨⟨v.node.id, v.node.type, .error fault.message⟩, by rw [Run.Visit.step?, hreply], ?_⟩
      rw [hleaves, Step.pause, add_zero]
    | ok outcome =>
      obtain ⟨hreply, hleaves⟩ := Run.Visit.of_outcome (backend settings) houtcome
      obtain ⟨⟨writes, hdone⟩, helapsed⟩ := elapsed_realize settings hcap outcome v.world
      rw [hdone] at hreply
      refine ⟨⟨v.node.id, v.node.type, .success outcome.detail⟩, by rw [Run.Visit.step?, hreply], ?_⟩
      rw [hleaves, helapsed, Step.pause, hfind, Node.delay_of_outcome houtcome, Option.bind_some]
      cases v.node.behavior.duration? with
      | none => simp
      | some duration =>
        simp only [Option.map_some, Option.getD_some]
        rw [Int.natCast_add, toNat_min_toNat]

/-- A delay is an error in the trace exactly if it is too long for a text. -/
theorem isError_step_visit {v : Run.Visit World} {duration : Int} (hbehavior : v.node.behavior = .delay duration) :
    ∃ report, v.step? (backend settings) graph context = some ⟨v.node.id, v.node.type, report⟩ ∧
      ((∃ text, report = .error text) ↔ ¬ Value.IsShort duration.toNat) := by
  have hnode : v.node.outcome v.bindings context graph.declarations v.generator =
      (delayOutcome duration, v.generator) := by rw [Node.outcome, hbehavior]
  by_cases hshort : Value.IsShort duration.toNat
  · obtain ⟨detail, houtcome⟩ := (delayOutcome_eq duration).1 hshort
    have hvisit := hnode.trans (congrArg (·, v.generator) houtcome)
    obtain ⟨hreply, -⟩ := Run.Visit.of_outcome (backend settings) hvisit
    obtain ⟨⟨writes, hdone⟩, -⟩ := elapsed_realize settings hcap _ v.world
    rw [hdone] at hreply
    exact ⟨.success detail, by rw [Run.Visit.step?, hreply], by simpa using hshort⟩
  · have hvisit := hnode.trans (congrArg (·, v.generator) ((delayOutcome_eq duration).2 hshort))
    obtain ⟨hreply, -⟩ := Run.Visit.of_error (backend settings) hvisit
    exact ⟨.error (Fault.message .integerTooLong), by rw [Run.Visit.step?, hreply], by simpa using hshort⟩

/-- A walk takes the time of its steps. -/
theorem elapsed_walk (limit : Nat) (v : Run.Visit World) (hfind : graph.find? v.node.id = some v.node) :
    let walked := Run.walk (backend settings) graph context limit v.node v.bindings v.generator v.world
    (walked.2.elapsed : Int) =
      v.world.elapsed + (walked.1.steps.map (·.pause graph settings.delayCap)).sum := by
  induction limit, v using Run.walk_induction (backend settings) graph context with
  | zero v => simp [Run.walk]
  | last limit v hnext =>
    obtain ⟨step, hstep, helapsed⟩ := elapsed_visit settings hcap graph context hfind
    rw [Run.walk_of_next?_eq_none hnext, Run.Visit.result, hstep]
    simpa using helapsed
  | next limit v w hnext ih =>
    obtain ⟨step, hstep, helapsed⟩ := elapsed_visit settings hcap graph context hfind
    rw [Run.walk_of_step? hnext hstep]
    rw [← Run.world_of_next?_eq_some hnext] at helapsed
    dsimp only [Result.after] at ih ⊢
    rw [ih (Run.find?_of_next?_eq_some hnext), helapsed, List.map_cons, List.sum_cons, add_assoc]

/-- Among the steps of a walk the delays that are errors are those that are too long for a text. -/
theorem isError_step_walk (limit : Nat) {v : Run.Visit World} (hfind : graph.find? v.node.id = some v.node)
    {step : Step}
    (hstep : step ∈ (Run.walk (backend settings) graph context limit v.node v.bindings v.generator v.world).1.steps)
    {node : Node} (hnode : graph.find? step.nodeId = some node) {duration : Int}
    (hbehavior : node.behavior = .delay duration) :
    (∃ text, step.report = .error text) ↔ ¬ Value.IsShort duration.toNat := by
  rw [Run.steps_walk, List.mem_filterMap] at hstep
  obtain ⟨u, hu, hstep⟩ := hstep
  have hid : step.nodeId = u.node.id := Run.Visit.nodeId_of_step? hstep
  have hfound := Run.find?_of_mem_visits (backend settings) context limit hfind u hu
  obtain rfl : u.node = node := Option.some.inj (hfound.symm.trans (hid ▸ hnode))
  obtain ⟨report, hreport, hiff⟩ := isError_step_visit settings hcap graph context hbehavior
  obtain rfl := Option.some.inj (hstep.symm.trans hreport)
  exact hiff

end

end Simulation

/-! ## Simulations -/

/-- Simulations with the same result and the same logs differ in their time alone. -/
theorem Simulated.ofRun_sameLogs {world other : Simulation.World} (h : Simulation.SameLogs world other)
    (result : Result) :
    Simulated.ofRun result other =
      ⟨result, { (Simulated.ofRun result world).world with elapsed := other.elapsed }⟩ := by
  simp only [Simulated.ofRun, h.1, h.2]

/-- For whichever cap that is in range as a number of seconds, a simulation has the same result and records the same
outputs and actions. It takes the durations of the delays that it visits and that do not fail, each as far as the cap
allows it, which is at most the cap for every visit. A delay fails exactly if it is too long for a text. -/
theorem simulate_delayCap (settings : Simulation.Settings) {graph : Graph} (context : Context)
    (generator : Generator) (hstarts : graph.starts ≠ []) :
    (settings.limit < 1 → ∀ cap,
      simulate { settings with delayCap := cap } graph context generator = .error .limitTooLow) ∧
    (1 ≤ settings.limit → ∃ result outputs actions,
      (∀ cap, Simulation.inSeconds cap = true → ∃ elapsed : Nat,
        simulate { settings with delayCap := cap } graph context generator =
          .ok ⟨result, { outputs, actions, elapsed }⟩ ∧
        (elapsed : Int) = (result.steps.map (·.pause graph cap)).sum ∧
        (elapsed : Int) ≤ max 0 cap * result.steps.length) ∧
      ∀ step ∈ result.steps, ∀ node, graph.find? step.nodeId = some node → ∀ duration,
        node.behavior = .delay duration → ((∃ text, step.report = .error text) ↔ ¬ Value.IsShort duration.toNat)) := by
  refine ⟨fun hlimit cap => ?_, fun hlimit => ?_⟩
  · exact simulate_eq_error (Run.run_eq_limitTooLow
      (Simulation.backend { settings with delayCap := cap }) context generator {} hstarts hlimit)
  obtain ⟨-, node, -, hfirst, -⟩ := Run.exists_first?_eq_some hstarts
  let backend (cap : Int) : Backend Simulation.World := Simulation.backend { settings with delayCap := cap }
  let walk (cap : Int) : Result × Simulation.World :=
    Run.walk (backend cap) graph context settings.limit.toNat node context.initialVariables generator {}
  -- Zero is a cap in range, and every other one is compared with it.
  have hzero : Simulation.inSeconds 0 = true := by decide +kernel
  let recorded : Simulation.World := (Simulated.ofRun (walk 0).1 (walk 0).2).world
  have hfind : graph.find? node.id = some node := Run.find?_of_first? hfirst
  refine ⟨(walk 0).1, recorded.outputs, recorded.actions, fun cap hcap => ⟨(walk cap).2.elapsed, ?_⟩,
    fun step hstep found hfound duration hbehavior => Simulation.isError_step_walk { settings with delayCap := 0 } hzero
      graph context settings.limit.toNat (v := ⟨node, context.initialVariables, generator, {}⟩) hfind hstep hfound
      hbehavior⟩
  have halike := Run.walk_alike (Simulation.related_delayCap settings hzero hcap) graph context
    settings.limit.toNat node context.initialVariables generator
    (show Simulation.SameLogs {} {} from ⟨rfl, rfl⟩)
  obtain ⟨hresult, hlogs⟩ : (walk 0).1 = (walk cap).1 ∧ Simulation.SameLogs (walk 0).2 (walk cap).2 :=
    halike.resolve_left id
  have hrun : simulate { settings with delayCap := cap } graph context generator =
      .ok (.ofRun (walk cap).1 (walk cap).2) :=
    simulate_eq_ofRun (Run.run_eq_walk (backend cap) context generator {} hfirst hlimit)
  have helapsed := Simulation.elapsed_walk { settings with delayCap := cap } hcap graph context
    settings.limit.toNat ⟨node, context.initialVariables, generator, {}⟩ hfind
  have hsum : ((walk cap).2.elapsed : Int) = ((walk 0).1.steps.map (·.pause graph cap)).sum := by
    rw [hresult]
    exact helapsed.trans (zero_add _)
  refine ⟨?_, hsum, ?_⟩
  · rw [hrun, ← hresult, Simulated.ofRun_sameLogs hlogs]
  · rw [hsum]
    exact sum_pause_le graph cap _

namespace Run

/-- Two delays in turn, one that is no number of seconds unless it is capped and one of less than no time. -/
def napping : Graph where
  nodes := [⟨"begin", ⟨.zero, .zero⟩, .start ""⟩, ⟨"nap", ⟨.zero, .zero⟩, .delay (10 ^ 400)⟩,
    ⟨"wake", ⟨.zero, .zero⟩, .delay (-5)⟩]
  edges := [{ id := "1", source := "begin", target := "nap" },
    { id := "2", source := "nap", target := "wake" },
    { id := "3", source := "wake", target := "nap" }]

end Run

theorem simulate_delayCap_napping :
    Run.napping.starts ≠ [] ∧ Simulation.inSeconds 100 = true ∧ Simulation.inSeconds (-7) = true ∧
    ∃ result outputs actions, ∃ longer shorter : Nat,
      simulate { delayCap := 100, limit := 5 } Run.napping .standIn (.ofSeed 0) =
        .ok ⟨result, { outputs, actions, elapsed := longer }⟩ ∧
      simulate { delayCap := -7, limit := 5 } Run.napping .standIn (.ofSeed 0) =
        .ok ⟨result, { outputs, actions, elapsed := shorter }⟩ ∧
      (longer : Int) = (result.steps.map (·.pause Run.napping 100)).sum ∧
      (longer : Int) ≤ max 0 100 * result.steps.length ∧
      (shorter : Int) = (result.steps.map (·.pause Run.napping (-7))).sum ∧
      (shorter : Int) ≤ max 0 (-7) * result.steps.length ∧
      ∀ step ∈ result.steps, ∀ node, Run.napping.find? step.nodeId = some node → ∀ duration,
        node.behavior = .delay duration → ((∃ text, step.report = .error text) ↔ ¬ Value.IsShort duration.toNat) := by
  have hstarts : Run.napping.starts ≠ [] := by decide
  have hlonger : Simulation.inSeconds 100 = true := by decide +kernel
  have hshorter : Simulation.inSeconds (-7) = true := by decide +kernel
  obtain ⟨result, outputs, actions, hall, herrors⟩ :=
    (simulate_delayCap { limit := 5 } .standIn (.ofSeed 0) hstarts).2 (by decide)
  obtain ⟨longer, hrun, hsum, hle⟩ := hall 100 hlonger
  obtain ⟨shorter, hrun', hsum', hle'⟩ := hall (-7) hshorter
  exact ⟨hstarts, hlonger, hshorter, result, outputs, actions, longer, shorter, hrun, hrun', hsum, hle,
    hsum', hle', herrors⟩

/-- The delays take two tenths of a second, or no time at all. -/
example :
    (simulate { delayCap := 100, limit := 5 } Run.napping .standIn (.ofSeed 0)).toOption.map
        (fun run => (run.result.path, run.world.elapsed)) =
      some (["begin", "nap", "wake", "nap", "wake"], 200) ∧
    (simulate { delayCap := -7, limit := 5 } Run.napping .standIn (.ofSeed 0)).toOption.map
        (fun run => (run.result.path, run.world.elapsed)) =
      some (["begin", "nap", "wake", "nap", "wake"], 0) := by
  decide +kernel

/-- A command that only waits takes no time if the delay is too long for a text. -/
theorem simulate_solo_delay {duration : Int} (h : ¬ Value.IsShort duration.toNat) (generator : Generator) :
    ∃ simulated, simulate {} (Run.solo (.delay duration)) .standIn generator = .ok simulated ∧
      simulated.result.path = ["begin", "only"] ∧ simulated.result.status = .failed ∧ simulated.world.elapsed = 0 := by
  have hnode : (Node.mk "only" ⟨.zero, .zero⟩ (.delay duration)).outcome Context.standIn.initialVariables .standIn []
      generator = (delayOutcome duration, generator) := rfl
  have hrun := Run.run_solo_of_error (Simulation.backend {}) .standIn (show (3 : Int) ≤ 1000 by decide) {}
    (hnode.trans (congrArg (·, generator) ((delayOutcome_eq duration).2 h)))
  exact ⟨_, simulate_eq_ofRun hrun, rfl, rfl, rfl⟩

/-- A delay of a number of 4301 digits is visited and takes no time, where the cap would have it take a hundred
milliseconds. -/
theorem simulate_delay_untimed :
    ∃ simulated, simulate { delayCap := 100 } (Run.solo (.delay Value.leastLong)) .standIn (.ofSeed 0) = .ok simulated ∧
      simulated.result.path = ["begin", "only"] ∧ simulated.result.status = .failed ∧ simulated.world.elapsed = 0 ∧
      capped 100 Value.leastLong = 100 := by
  have hhundred : ((10 ^ 2 : Nat) : Int) ≤ Value.leastLong := Value.ten_pow_le_leastLong (by decide)
  have hnat : (Value.leastLong.toNat : Int) = Value.leastLong := Int.toNat_of_nonneg (by omega)
  have hlong : ¬ Value.IsShort Value.leastLong.toNat := hnat ▸ Value.not_isShort_leastLong
  obtain ⟨simulated, hrun, hpath, hstatus, helapsed⟩ := simulate_solo_delay hlong (.ofSeed 0)
  refine ⟨simulated, hrun, hpath, hstatus, helapsed, ?_⟩
  unfold capped
  omega

end CommandFlow
