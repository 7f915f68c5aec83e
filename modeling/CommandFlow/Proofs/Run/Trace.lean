import CommandFlow.Proofs.Run.Visits
import CommandFlow.Run.Simulation

/-!
# The logs of a simulation

A simulation keeps steps, outputs and actions apart, and they tell of the same visits in the same order.

* `Step.speaks`, `Step.acts` : the visit of the step has sent an output, or has performed an action;
* `Output.Shows`, `Action.Serves`, `Output.Closes` : an output or an action is that of a step, and an output closes
  the run that failed at a step;
* `Outcome.Tells` : what an outcome asks for, by what its node does; `Node.tells_of_outcome` : every outcome does;
* `Result.FailsLast` : only the last step fails; `Run.failsLast_walk` : so it is after every walk;
* `Simulation.Logged` : what the logs have grown by over some steps; `Simulation.logged_visit` : over a visit;
  `Simulation.logged_walk` : over a walk;
* `Simulated.IsConsistent` : the logs agree; `exists_isConsistent` : so they do after every simulation.
-/

namespace CommandFlow

/-! ## Steps that speak and act -/

/-- A node that does this and succeeds sends one output: a message, an embed, or a prompt if there is one. -/
def Behavior.speaks : Behavior → Bool
  | sendMessage _ => true
  | sendEmbed _ => true
  | awaitReply wait => !wait.prompt.isEmpty
  | _ => false

/-- A node of the kind that succeeds performs one action. -/
def NodeType.acts : NodeType → Bool
  | awaitReply => true
  | addRole => true
  | removeRole => true
  | apiCall => true
  | _ => false

/-- The step is that of a visit that succeeded and sent an output. A node that waits for a reply needs a prompt
for that. -/
def Step.speaks (graph : Graph) (step : Step) : Bool :=
  !step.isError &&
    match step.type with
    | .sendMessage | .sendEmbed => true
    | .awaitReply => (graph.find? step.nodeId).any (·.behavior.speaks)
    | _ => false

/-- The step is that of a visit that succeeded and performed an action. -/
def Step.acts (step : Step) : Bool := !step.isError && step.type.acts

/-- The output is that of the step; what a node sends that does nothing but send is its detail. -/
structure Output.Shows (output : Output) (step : Step) : Prop where
  nodeId : output.nodeId = step.nodeId
  nodeName : output.nodeName = step.type.name
  type : output.type = if step.type = .sendEmbed then .embed else .message
  content : step.type = .sendMessage ∨ step.type = .sendEmbed → step.report = .success output.content

/-- The action is that of the step. -/
structure Action.Serves (action : Action) (step : Step) : Prop where
  nodeId : action.nodeId = step.nodeId
  type : action.task.type = step.type

/-- The output closes a run that failed at the step, with the same words. -/
structure Output.Closes (output : Output) (step : Step) : Prop where
  type : output.type = .error
  nodeId : output.nodeId = step.nodeId
  nodeName : output.nodeName = step.type.name
  text : ∃ text, step.report = .error text ∧ output.content = .text text

theorem Step.speaks_success {graph : Graph} {node : Node} (hfind : graph.find? node.id = some node)
    (detail : Value) :
    Step.speaks graph ⟨node.id, node.type, .success detail⟩ = node.behavior.speaks := by
  have htype : node.type = node.behavior.type := rfl
  simp only [Step.speaks, Step.isError, hfind, htype, Option.any_some, Bool.not_false, Bool.true_and]
  cases node.behavior <;> rfl

theorem Output.Shows.type_ne {output : Output} {step : Step} (h : output.Shows step) : output.type ≠ .error := by
  rw [h.type]
  split <;> simp

/-! ## What outcomes ask for -/

/-- What an outcome asks for, by what its node does. A node that waits for some time does nothing else. -/
structure Outcome.Tells (node : Node) (outcome : Outcome) : Prop where
  speaks : outcome.output.isSome = node.behavior.speaks
  shows : ∀ output, outcome.output = some output → output.Shows ⟨node.id, node.type, .success outcome.detail⟩
  acts : outcome.action.isSome = node.type.acts
  pauses : outcome.delay.isSome = true → outcome.output = none ∧ outcome.action = none

theorem Outcome.tells_of_plain {node : Node} {outcome : Outcome} (hspeaks : node.behavior.speaks = false)
    (hacts : node.type.acts = false) (houtput : outcome.output = none) (haction : outcome.action = none) :
    outcome.Tells node where
  speaks := by rw [houtput, hspeaks]; rfl
  shows := by simp [houtput]
  acts := by rw [haction, hacts]; rfl
  pauses := fun _ => ⟨houtput, haction⟩

theorem ReplyWait.tells_of_outcome {wait : ReplyWait} {node : Node} (hbehavior : node.behavior = .awaitReply wait)
    {bindings : Variables} {context : Context} {outcome : Outcome}
    (h : wait.outcome node bindings context = .ok outcome) : outcome.Tells node := by
  have htype : node.type = .awaitReply := congrArg Behavior.type hbehavior
  obtain ⟨output, userId, channelId, detail, rfl, hprompt⟩ := ReplyWait.exists_of_outcome h
  refine ⟨?_, ?_, by rw [htype]; rfl, by simp⟩
  · rw [hbehavior, Behavior.speaks]
    obtain ⟨hempty, rfl⟩ | ⟨hempty, prompt, rfl⟩ := hprompt <;> simp [hempty]
  · rintro output' rfl
    obtain ⟨-, hnone⟩ | ⟨-, prompt, hsome⟩ := hprompt
    · cases hnone
    · cases hsome
      exact ⟨rfl, rfl, by simp [Node.output, htype], by simp [htype]⟩

theorem RoleChange.tells_of_outcome {change : RoleChange} {task : String → String → String → Task} {node : Node}
    {bindings : Variables} {context : Context} {outcome : Outcome} (hspeaks : node.behavior.speaks = false)
    (hacts : node.type.acts = true) (h : change.outcome task node bindings context = .ok outcome) :
    outcome.Tells node := by
  obtain ⟨guildId, userId, roleId, detail, rfl⟩ := RoleChange.exists_of_outcome h
  exact ⟨hspeaks.symm, by simp, hacts.symm, by simp⟩

/-- Every outcome of a node tells of it. -/
theorem Node.tells_of_outcome {node : Node} {bindings : Variables} {context : Context}
    {declared : Entries Declaration} {generator after : Generator} {outcome : Outcome}
    (h : node.outcome bindings context declared generator = (.ok outcome, after)) : outcome.Tells node := by
  have hresult : (node.outcome bindings context declared generator).1 = .ok outcome := by rw [h]
  have htype : node.type = node.behavior.type := rfl
  cases hbehavior : node.behavior <;> simp only [Node.outcome, hbehavior] at hresult <;> rw [hbehavior] at htype
  case sendMessage message =>
    obtain ⟨content, rfl⟩ := Message.exists_of_outcome hresult
    refine ⟨by rw [hbehavior]; rfl, ?_, by rw [htype]; rfl, by simp⟩
    rintro output ⟨⟩
    exact ⟨rfl, rfl, by simp [htype, Behavior.type, Node.output], fun _ => rfl⟩
  case sendEmbed embed =>
    obtain ⟨content, rfl⟩ := Embed.exists_of_outcome hresult
    refine ⟨by rw [hbehavior]; rfl, ?_, by rw [htype]; rfl, by simp⟩
    rintro output ⟨⟩
    exact ⟨rfl, rfl, by simp [htype, Behavior.type, Node.output], fun _ => rfl⟩
  case awaitReply wait => exact ReplyWait.tells_of_outcome hbehavior hresult
  case addRole change =>
    exact RoleChange.tells_of_outcome (by rw [hbehavior]; rfl) (by rw [htype]; rfl) hresult
  case removeRole change =>
    exact RoleChange.tells_of_outcome (by rw [hbehavior]; rfl) (by rw [htype]; rfl) hresult
  case apiCall call =>
    obtain ⟨url, headers, body, detail, rfl⟩ := Call.exists_of_outcome hresult
    exact ⟨by rw [hbehavior]; rfl, by simp, by rw [htype]; rfl, by simp⟩
  case ifCondition test =>
    obtain ⟨holds, detail, rfl⟩ := Test.exists_of_outcome hresult
    exact Outcome.tells_of_plain (by rw [hbehavior]; rfl) (by rw [htype]; rfl) rfl rfl
  case setVariable assignment =>
    obtain ⟨value, detail, rfl⟩ := Assignment.exists_of_outcome hresult
    exact Outcome.tells_of_plain (by rw [hbehavior]; rfl) (by rw [htype]; rfl) rfl rfl
  case mathOperation arithmetic =>
    obtain ⟨value, detail, rfl⟩ := Arithmetic.exists_of_outcome hresult
    exact Outcome.tells_of_plain (by rw [hbehavior]; rfl) (by rw [htype]; rfl) rfl rfl
  case getVariable readout =>
    obtain ⟨detail, rfl⟩ := Readout.exists_of_outcome hresult
    exact Outcome.tells_of_plain (by rw [hbehavior]; rfl) (by rw [htype]; rfl) rfl rfl
  case delay duration =>
    obtain ⟨detail, rfl⟩ := exists_of_delayOutcome hresult
    exact ⟨by rw [hbehavior]; rfl, by simp, by rw [htype]; rfl, fun _ => ⟨rfl, rfl⟩⟩
  case random draw =>
    obtain ⟨value, detail, rfl⟩ := Draw.exists_of_outcome hresult
    exact Outcome.tells_of_plain (by rw [hbehavior]; rfl) (by rw [htype]; rfl) rfl rfl
  all_goals
    cases hresult
    exact Outcome.tells_of_plain (by rw [hbehavior]; rfl) (by rw [htype]; rfl) rfl rfl

/-! ## Failures -/

def Failure.step (failure : Failure) : Step := ⟨failure.nodeId, failure.type, .error failure.cause.message⟩

/-- Only the last step can be an error, and if it is one, the failure is that of this step. -/
def Result.FailsLast (result : Result) : Prop :=
  (result.failure = none ∧ ∀ step ∈ result.steps, step.isError = false) ∨
    ∃ failure before, result.failure = some failure ∧ result.steps = before ++ [failure.step] ∧
      ∀ step ∈ before, step.isError = false

theorem Simulation.closes_closingOutput (failure : Failure) :
    (Simulation.closingOutput failure).Closes failure.step :=
  ⟨rfl, rfl, rfl, failure.cause.message, rfl, rfl⟩

/-! ## Walks -/

namespace Run

variable {σ : Type}

/-- The failure of a walk is that of its last step. -/
theorem failsLast_walk (backend : Backend σ) (graph : Graph) (context : Context) (limit : Nat) (v : Visit σ) :
    (walk backend graph context limit v.node v.bindings v.generator v.world).1.FailsLast := by
  induction limit, v using walk_induction backend graph context with
  | zero v => exact .inl ⟨rfl, by simp [walk]⟩
  | last limit v hnext =>
    rw [walk_of_next?_eq_none hnext]
    unfold Visit.result Visit.failure? Visit.step?
    cases v.reply backend graph context with
    | done answer => exact .inl ⟨rfl, by simp [Step.isError]⟩
    | raised fault => exact .inr ⟨_, [], rfl, rfl, by simp⟩
    | expired => exact .inl ⟨rfl, by simp⟩
  | next limit v w hnext ih =>
    obtain ⟨step, hstep, hwalk⟩ := walk_of_next?_eq_some hnext limit
    have hsuccess : step.isError = false := by
      obtain ⟨outcome, writes, hreply, -, -⟩ := of_next?_eq_some hnext
      rw [Visit.step?, hreply] at hstep
      cases hstep
      rfl
    rw [hwalk]
    rcases ih with ⟨hnone, hall⟩ | ⟨failure, before, hsome, hsteps, hall⟩
    · exact .inl ⟨hnone, List.forall_mem_cons.mpr ⟨hsuccess, hall⟩⟩
    · refine .inr ⟨failure, step :: before, hsome, ?_, List.forall_mem_cons.mpr ⟨hsuccess, hall⟩⟩
      exact congrArg (step :: ·) hsteps

end Run

namespace Simulation

/-! ## What is logged -/

/-- Over the steps, the logs have grown by an output for each that speaks, and by an action for each that
acts. -/
structure Logged (graph : Graph) (before : World) (steps : List Step) (after : World) : Prop where
  outputs : ∃ sent, after.outputs = before.outputs ++ sent ∧
    List.Forall₂ Output.Shows sent (steps.filter (·.speaks graph))
  actions : ∃ made, after.actions = before.actions ++ made ∧
    List.Forall₂ Action.Serves made (steps.filter (·.acts))

section
variable {graph : Graph}

theorem logged_nil (graph : Graph) (world : World) : Logged graph world [] world :=
  ⟨⟨[], by simp⟩, ⟨[], by simp⟩⟩

theorem Logged.append {before between after : World} {first rest : List Step}
    (h : Logged graph before first between) (h' : Logged graph between rest after) :
    Logged graph before (first ++ rest) after := by
  obtain ⟨⟨sent, houtputs, hshows⟩, made, hactions, hserves⟩ := h
  obtain ⟨⟨sent', houtputs', hshows'⟩, made', hactions', hserves'⟩ := h'
  refine ⟨⟨sent ++ sent', ?_, ?_⟩, made ++ made', ?_, ?_⟩
  · rw [houtputs', houtputs, List.append_assoc]
  · rw [List.filter_append]
    exact List.rel_append hshows hshows'
  · rw [hactions', hactions, List.append_assoc]
  · rw [List.filter_append]
    exact List.rel_append hserves hserves'

/-- The step of a visit that fails leaves the logs as they are. -/
theorem logged_of_isError {step : Step} (h : step.isError = true) {before after : World}
    (houtputs : after.outputs = before.outputs) (hactions : after.actions = before.actions) :
    Logged graph before [step] after := by
  refine ⟨⟨[], by simpa using houtputs, ?_⟩, [], by simpa using hactions, ?_⟩
  · simp [Step.speaks, h]
  · simp [Step.acts, h]

/-- The step of a visit that succeeds logs what its outcome asks for. -/
theorem logged_of_tells {node : Node} (hfind : graph.find? node.id = some node) {outcome : Outcome}
    (htells : outcome.Tells node) (hfits : outcome.Fits node) {before after : World}
    (houtputs : after.outputs = before.outputs ++ outcome.output.toList)
    (hactions : after.actions = before.actions ++ outcome.action.toList) :
    Logged graph before [⟨node.id, node.type, .success outcome.detail⟩] after := by
  have hspeaks : Step.speaks graph ⟨node.id, node.type, .success outcome.detail⟩ = outcome.output.isSome := by
    rw [Step.speaks_success hfind, htells.speaks]
  have hacts : Step.acts ⟨node.id, node.type, .success outcome.detail⟩ = outcome.action.isSome := by
    simp [Step.acts, Step.isError, htells.acts]
  refine ⟨⟨_, houtputs, ?_⟩, _, hactions, ?_⟩
  · rw [List.filter_singleton, hspeaks]
    cases houtput : outcome.output with
    | none => exact .nil
    | some output => exact .cons (htells.shows output houtput) .nil
  · rw [List.filter_singleton, hacts]
    cases haction : outcome.action with
    | none => exact .nil
    | some action => exact .cons ⟨(hfits.action action haction).1, (hfits.action action haction).2.1⟩ .nil

end

/-! ## What a visit logs -/

section
variable (settings : Settings)

theorem exists_performIf_backend (action? : Option Action) (world : World) :
    ∃ writes, Run.performIf (backend settings) action? world =
      (.done writes, { world with actions := world.actions ++ action?.toList }) := by
  cases action? with
  | none => exact ⟨[], by simp [Run.performIf]⟩
  | some action =>
    obtain ⟨writes, hwrites⟩ :
        ∃ writes, action.writes { value := answer settings.stubs action } = .ok writes := by
      unfold Action.writes
      cases action.resultVariable with
      | none => exact ⟨_, rfl⟩
      | some name => exact ⟨_, (apply_ite Except.ok _ _ _).symm⟩
    refine ⟨writes, ?_⟩
    rw [Run.performIf_some]
    show (Run.written action (.done { value := answer settings.stubs action }), _) = _
    simp only [Run.written, hwrites]
    rfl

theorem callIf_emit_backend (output? : Option Output) (world : World) :
    Run.callIf (backend settings).emit output? world =
      (.done (), { world with outputs := world.outputs ++ output?.toList }) := by
  cases output? with
  | none => simp [Run.callIf]
  | some output => rfl

/-- A pause is not logged, and is done or too long. -/
theorem callIf_pause_backend (delay? : Option Nat) (world : World) :
    let paused := Run.callIf (backend settings).pause delay? world
    paused.2.outputs = world.outputs ∧ paused.2.actions = world.actions ∧
      (paused.1 = .done () ∨ delay?.isSome = true ∧ paused.1 = .raised .durationTooLong) := by
  cases delay? with
  | none => exact ⟨rfl, rfl, .inl rfl⟩
  | some duration =>
    simp only [Run.callIf, backend]
    split
    · exact ⟨rfl, rfl, .inl rfl⟩
    · exact ⟨rfl, rfl, .inr ⟨rfl, rfl⟩⟩

/-- All that an outcome asks for is logged, and only its delay can go wrong. -/
theorem realize_backend (outcome : Outcome) (world : World) :
    let realized := Run.realize (backend settings) outcome world
    realized.2.outputs = world.outputs ++ outcome.output.toList ∧
    realized.2.actions = world.actions ++ outcome.action.toList ∧
    ((∃ writes, realized.1 = .done writes) ∨
      outcome.delay.isSome = true ∧ realized.1 = .raised .durationTooLong) := by
  obtain ⟨writes, hwrites⟩ := exists_performIf_backend settings outcome.action
    { world with outputs := world.outputs ++ outcome.output.toList }
  obtain ⟨houtputs, hactions, hpaused⟩ := callIf_pause_backend settings outcome.delay
    { world with
      outputs := world.outputs ++ outcome.output.toList
      actions := world.actions ++ outcome.action.toList }
  rw [Run.realize, callIf_emit_backend]
  simp only [Run.andThen, hwrites]
  revert houtputs hactions hpaused
  generalize Run.callIf (backend settings).pause outcome.delay _ = paused
  obtain ⟨reply, after⟩ := paused
  rintro houtputs hactions (hdone | ⟨hdelay, hraised⟩)
  · dsimp only at hdone
    subst hdone
    exact ⟨houtputs, hactions, .inl ⟨_, rfl⟩⟩
  · dsimp only at hraised
    subst hraised
    exact ⟨houtputs, hactions, .inr ⟨hdelay, rfl⟩⟩

variable (graph : Graph) (context : Context)

theorem logged_visit {v : Run.Visit World} (hfind : graph.find? v.node.id = some v.node) :
    ∃ step, v.step? (backend settings) graph context = some step ∧
      Logged graph v.world [step] (v.leaves (backend settings) graph context) := by
  cases houtcome : v.node.outcome v.bindings context graph.declarations v.generator with
  | mk result after =>
    cases result with
    | error fault =>
      obtain ⟨hreply, hleaves⟩ := Run.Visit.of_error (backend settings) houtcome
      refine ⟨⟨v.node.id, v.node.type, .error fault.message⟩, by rw [Run.Visit.step?, hreply], ?_⟩
      rw [hleaves]
      exact logged_of_isError rfl rfl rfl
    | ok outcome =>
      have htells := Node.tells_of_outcome houtcome
      have hfits := Node.fits_of_outcome houtcome
      obtain ⟨hreply, hleaves⟩ := Run.Visit.of_outcome (backend settings) houtcome
      obtain ⟨houtputs, hactions, ⟨writes, hdone⟩ | ⟨hdelay, hraised⟩⟩ :=
        realize_backend settings outcome v.world
      · rw [hdone] at hreply
        refine ⟨⟨v.node.id, v.node.type, .success outcome.detail⟩, by rw [Run.Visit.step?, hreply], ?_⟩
        rw [hleaves]
        exact logged_of_tells hfind htells hfits houtputs hactions
      · rw [hraised] at hreply
        obtain ⟨houtput, haction⟩ := htells.pauses hdelay
        refine ⟨⟨v.node.id, v.node.type, .error _⟩, by rw [Run.Visit.step?, hreply], ?_⟩
        rw [hleaves]
        refine logged_of_isError rfl ?_ ?_
        · rw [houtputs, houtput, Option.toList_none, List.append_nil]
        · rw [hactions, haction, Option.toList_none, List.append_nil]

/-- What a walk logs: an output for each of its steps that speaks, and an action for each that acts. -/
theorem logged_walk (limit : Nat) (v : Run.Visit World) (hfind : graph.find? v.node.id = some v.node) :
    let walked := Run.walk (backend settings) graph context limit v.node v.bindings v.generator v.world
    Logged graph v.world walked.1.steps walked.2 := by
  induction limit, v using Run.walk_induction (backend settings) graph context with
  | zero v => exact logged_nil graph v.world
  | last limit v hnext =>
    obtain ⟨step, hstep, hlogged⟩ := logged_visit settings graph context hfind
    rw [Run.walk_of_next?_eq_none hnext, Run.Visit.result, hstep]
    exact hlogged
  | next limit v w hnext ih =>
    obtain ⟨step, hstep, hlogged⟩ := logged_visit settings graph context hfind
    rw [Run.walk_of_step? hnext hstep]
    rw [← Run.world_of_next?_eq_some hnext] at hlogged
    exact hlogged.append (ih (Run.find?_of_next?_eq_some hnext))

end

end Simulation

/-! ## Simulations -/

/-- The logs of a simulation agree. Apart from an output that closes a failed run, the outputs are those sent. -/
structure Simulated.IsConsistent (graph : Graph) (simulated : Simulated) (sent : List Output) : Prop where
  /-- The outputs are numbered in order. -/
  numbered : (Simulation.recorded simulated.world.outputs).length = simulated.world.outputs.length ∧
    ∀ i output, simulated.world.outputs[i]? = some output →
      (Simulation.recorded simulated.world.outputs)[i]? =
        some (Value.object (("id", .text s!"output-{i + 1}") :: output.members))
  /-- In the order of the visits there is an output for each step that speaks, -/
  spoken : List.Forall₂ Output.Shows sent (simulated.result.steps.filter (·.speaks graph))
  /-- and an action for each that acts. -/
  acted : List.Forall₂ Action.Serves simulated.world.actions (simulated.result.steps.filter (·.acts))
  error_iff : (∃ output ∈ simulated.world.outputs, output.type = .error) ↔
    ∃ step ∈ simulated.result.steps, step.isError = true
  intact : (∀ step ∈ simulated.result.steps, step.isError = false) → simulated.world.outputs = sent
  /-- Only the last step can fail, and the last output then tells of it. -/
  closed : ∀ step ∈ simulated.result.steps, step.isError = true →
    (∃ before, simulated.result.steps = before ++ [step] ∧ ∀ earlier ∈ before, earlier.isError = false) ∧
    ∃ output, simulated.world.outputs = sent ++ [output] ∧ output.Closes step

namespace Simulation

theorem getElem?_recorded {outputs : List Output} {i : Nat} {output : Output} (h : outputs[i]? = some output) :
    (recorded outputs)[i]? = some (.object (("id", .text s!"output-{i + 1}") :: output.members)) := by
  rw [recorded, List.getElem?_mapIdx, h]
  rfl

end Simulation

/-- What the run logs is consistent, together with the output that closes it if it failed. -/
theorem Simulated.isConsistent_ofRun {graph : Graph} {result : Result} {world : Simulation.World}
    (hlogged : Simulation.Logged graph {} result.steps world) (hfails : result.FailsLast) :
    (Simulated.ofRun result world).IsConsistent graph world.outputs := by
  have hspoken : List.Forall₂ Output.Shows world.outputs (result.steps.filter (·.speaks graph)) := by
    obtain ⟨sent, houtputs, hshows⟩ := hlogged.outputs
    rw [houtputs]
    exact hshows
  have hacted : List.Forall₂ Action.Serves world.actions (result.steps.filter (·.acts)) := by
    obtain ⟨made, hactions, hserves⟩ := hlogged.actions
    rw [hactions]
    exact hserves
  have hnumbered : ∀ outputs : List Output, (Simulation.recorded outputs).length = outputs.length ∧
      ∀ i output, outputs[i]? = some output → (Simulation.recorded outputs)[i]? =
        some (Value.object (("id", .text s!"output-{i + 1}") :: output.members)) :=
    fun outputs => ⟨List.length_mapIdx, fun i output h => Simulation.getElem?_recorded h⟩
  have hplain : ∀ output ∈ world.outputs, output.type ≠ .error :=
    ((List.forall₂_and_left _ _).mp (hspoken.imp fun _ _ h => ⟨h.type_ne, h⟩)).1
  rcases hfails with ⟨hnone, hall⟩ | ⟨failure, before, hsome, hsteps, hall⟩
  · have houtputs : (Simulated.ofRun result world).world.outputs = world.outputs := by
      simp [Simulated.ofRun, hnone]
    have hno : ¬ ∃ step ∈ result.steps, step.isError = true := by
      rintro ⟨step, hstep, herror⟩
      simp [hall step hstep] at herror
    refine ⟨hnumbered _, hspoken, hacted, ?_, fun _ => houtputs, ?_⟩
    · rw [houtputs]
      refine iff_of_false ?_ hno
      rintro ⟨output, houtput, htype⟩
      exact hplain output houtput htype
    · exact fun step hstep herror => absurd ⟨step, hstep, herror⟩ hno
  · have houtputs : (Simulated.ofRun result world).world.outputs =
        world.outputs ++ [Simulation.closingOutput failure] := by
      simp [Simulated.ofRun, hsome]
    have hmem : failure.step ∈ result.steps := by simp [hsteps]
    have hlast : ∀ step ∈ result.steps, step.isError = true → step = failure.step := by
      intro step hstep herror
      rw [hsteps, List.mem_append, List.mem_singleton] at hstep
      exact hstep.resolve_left fun hbefore => by simp [hall step hbefore] at herror
    refine ⟨hnumbered _, hspoken, hacted, ?_, fun hsuccess => ?_, fun step hstep herror => ?_⟩
    · refine iff_of_true ⟨Simulation.closingOutput failure, ?_, rfl⟩ ⟨failure.step, hmem, rfl⟩
      simp [houtputs]
    · cases hsuccess failure.step hmem
    · rw [hlast step hstep herror]
      exact ⟨⟨before, hsteps, hall⟩, _, houtputs, Simulation.closes_closingOutput failure⟩

/-- What every simulation writes down is consistent. -/
theorem exists_isConsistent (settings : Simulation.Settings) {graph : Graph} (context : Context)
    (generator : Generator) (hstarts : graph.starts ≠ []) (hlimit : 1 ≤ settings.limit) :
    ∃ simulated sent, simulate settings graph context generator = .ok simulated ∧
      simulated.IsConsistent graph sent := by
  obtain ⟨-, node, -, hfirst, -⟩ := Run.exists_first?_eq_some hstarts
  have hrun := Run.run_eq_walk (Simulation.backend settings) context generator {} hfirst hlimit
  let first : Run.Visit Simulation.World := ⟨node, context.initialVariables, generator, {}⟩
  exact ⟨_, _, simulate_eq_ofRun hrun, Simulated.isConsistent_ofRun
    (Simulation.logged_walk settings graph context settings.limit.toNat first (Run.find?_of_first? hfirst))
    (Run.failsLast_walk (Simulation.backend settings) graph context settings.limit.toNat first)⟩

/-- A prompt and a message, and then a role that has no identifier. -/
def roleless : Graph where
  nodes := [⟨"begin", ⟨.zero, .zero⟩, .start ""⟩,
    ⟨"ask", ⟨.zero, .zero⟩, .awaitReply ⟨"Which role?", 1000, "role", none, none⟩⟩,
    ⟨"answer", ⟨.zero, .zero⟩, .sendMessage ⟨"You get it.", none, false⟩⟩,
    ⟨"give", ⟨.zero, .zero⟩, .addRole ⟨"", ""⟩⟩]
  edges := [{ id := "1", source := "begin", target := "ask" },
    { id := "2", source := "ask", target := "answer" },
    { id := "3", source := "answer", target := "give" }]

theorem exists_isConsistent_roleless :
    roleless.starts ≠ [] ∧ (1 : Int) ≤ 4 ∧ ∃ simulated sent,
      simulate { limit := 4 } roleless .standIn (.ofSeed 0) = .ok simulated ∧
      simulated.IsConsistent roleless sent :=
  ⟨by decide, by decide, exists_isConsistent { limit := 4 } .standIn (.ofSeed 0) (by decide) (by decide)⟩

/-- The run fails at its limit, and its last output still tells of that. -/
example :
    (simulate { limit := 4 } roleless .standIn (.ofSeed 0)).toOption.map
      (fun simulated => (simulated.result.status, simulated.result.path,
        simulated.world.outputs.map fun output => (output.type, output.nodeId))) =
    some (.stepLimit, ["begin", "ask", "answer", "give"],
      [(.message, "ask"), (.message, "answer"), (.error, "give")]) := by
  with_unfolding_all rfl

end CommandFlow
