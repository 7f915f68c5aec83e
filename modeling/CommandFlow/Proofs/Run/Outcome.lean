import CommandFlow.Proofs.Except
import CommandFlow.Run.Outcome

/-!
# What the outcomes of nodes have in common

* `inRange_eq_ok`, `filled_eq_ok` : where a text or a number that a node goes on with comes from;
* `Task.isRoleChange` : the task changes a role; `Action.IsProper` : a role change leaves no result;
* `Outcome.Fits` : what an outcome of a node asks for, by the kind of the node;
* `Embed.exists_of_outcome`, `Call.exists_of_outcome` and their like : the outcomes of what a node is told to do;
* `Node.fits_of_outcome` : every outcome of a node fits it;
* `Node.errorVariable?` : the variable of a node that takes the error of its action;
  `Node.errorVariable_of_outcome` : every action of the node has it.
-/

namespace CommandFlow

/-! ## Faults of integers -/

theorem inRange_eq_ok {α : Type} {x : Except IntegerFault α} {a : α} : inRange x = .ok a ↔ x = .ok a := by
  cases x with
  | ok b => exact ⟨fun h => congrArg Except.ok (Except.ok.inj h), fun h => congrArg Except.ok (Except.ok.inj h)⟩
  | error e => exact ⟨fun h => (by cases h), fun h => (by cases h)⟩

theorem inRange_eq_error {α : Type} {x : Except IntegerFault α} {fault : Fault} :
    inRange x = .error fault ↔ ∃ e, x = .error e ∧ e.toFault = fault := by
  cases x with
  | ok b => exact ⟨fun h => (by cases h), fun ⟨_, h, _⟩ => (by cases h)⟩
  | error e => exact ⟨fun h => ⟨e, rfl, Except.error.inj h⟩, fun ⟨_, h, hfault⟩ => (by cases h; exact congrArg _ hfault)⟩

theorem filled_eq_ok {text s : String} {bindings : Variables} {context : Context} :
    filled text bindings context = .ok s ↔
      Template.isFillable text bindings context = true ∧ Template.interpolate text bindings context = s :=
  inRange_eq_ok.trans Value.ifShort_eq_ok

/-! ## What fits a node -/

/-- The task gives a role to a user or takes one away. -/
def Task.isRoleChange : Task → Bool
  | addRole _ _ _ | removeRole _ _ _ => true
  | _ => false

/-- A role change leaves no result. -/
def Action.IsProper (action : Action) : Prop :=
  action.task.isRoleChange = true → action.resultVariable = none ∧ action.errorVariable = none

/-- What an outcome of a node asks for, by the kind of the node. -/
structure Outcome.Fits (node : Node) (outcome : Outcome) : Prop where
  /-- Only an end node ends the run. -/
  terminal : outcome.terminal = true ↔ node.type = .finish
  /-- Nodes send messages and embeds only. -/
  output : ∀ output, outcome.output = some output → output.type ≠ .error
  /-- An action is made for the node. -/
  action : ∀ action, outcome.action = some action →
    action.nodeId = node.id ∧ action.task.type = node.type ∧ action.IsProper

/-! ## The outcomes that there are -/

theorem Message.exists_of_outcome {message : Message} {node : Node} {bindings : Variables} {context : Context}
    {outcome : Outcome} (h : message.outcome node bindings context = .ok outcome) :
    ∃ content, outcome =
      { output := some (node.output .message (.text content) message.ephemeral), detail := .text content } := by
  obtain ⟨content, -, hrest⟩ := bind_eq_ok.mp h
  cases hrest
  exact ⟨content, rfl⟩

theorem Embed.exists_of_outcome {embed : Embed} {node : Node} {bindings : Variables} {context : Context}
    {outcome : Outcome} (h : embed.outcome node bindings context = .ok outcome) :
    ∃ content, outcome =
      { output := some (node.output .embed content embed.ephemeral), detail := content } := by
  obtain ⟨content, -, hrest⟩ := bind_eq_ok.mp h
  cases hrest
  exact ⟨content, rfl⟩

theorem Test.exists_of_outcome {test : Test} {bindings : Variables} {context : Context}
    {outcome : Outcome} (h : test.outcome bindings context = .ok outcome) :
    ∃ holds detail, outcome = { branch := some (branchName holds), detail } := by
  obtain ⟨left, -, h⟩ := bind_eq_ok.mp h
  obtain ⟨right, -, h⟩ := bind_eq_ok.mp h
  obtain ⟨holds, -, h⟩ := bind_eq_ok.mp h
  obtain ⟨leftText, -, h⟩ := bind_eq_ok.mp h
  obtain ⟨rightText, -, h⟩ := bind_eq_ok.mp h
  cases h
  exact ⟨holds, _, rfl⟩

theorem Assignment.exists_of_outcome {assignment : Assignment} {bindings : Variables}
    {context : Context} {outcome : Outcome} (h : assignment.outcome bindings context = .ok outcome) :
    ∃ value detail, outcome = { bindings := [(assignment.name, value)], detail } := by
  obtain ⟨raw, -, h⟩ := bind_eq_ok.mp h
  obtain ⟨value, -, h⟩ := bind_eq_ok.mp h
  obtain ⟨text, -, h⟩ := bind_eq_ok.mp h
  cases h
  exact ⟨value, _, rfl⟩

theorem Readout.exists_of_outcome {readout : Readout} {bindings : Variables} {declared : Entries Declaration}
    {outcome : Outcome} (h : readout.outcome bindings declared = .ok outcome) : ∃ detail, outcome = { detail } := by
  obtain ⟨text, -, h⟩ := bind_eq_ok.mp h
  cases h
  exact ⟨_, rfl⟩

theorem Arithmetic.exists_of_outcome {arithmetic : Arithmetic} {bindings : Variables}
    {context : Context} {outcome : Outcome} (h : arithmetic.outcome bindings context = .ok outcome) :
    ∃ value detail, outcome = { bindings := [(arithmetic.target, value)], detail } := by
  obtain ⟨left, -, h⟩ := bind_eq_ok.mp h
  obtain ⟨right, -, h⟩ := bind_eq_ok.mp h
  cases h
  exact ⟨_, _, rfl⟩

theorem exists_of_delayOutcome {duration : Int} {outcome : Outcome} (h : delayOutcome duration = .ok outcome) :
    ∃ detail, outcome = { delay := some duration.toNat, detail } := by
  obtain ⟨text, -, h⟩ := bind_eq_ok.mp h
  cases h
  exact ⟨_, rfl⟩

theorem exists_of_drawOutcome {target : String} {least most value : Int} {outcome : Outcome}
    (h : drawOutcome target least most value = .ok outcome) :
    ∃ detail, outcome = { bindings := [(target, .int value)], detail } := by
  obtain ⟨valueText, -, h⟩ := bind_eq_ok.mp h
  obtain ⟨leastText, -, h⟩ := bind_eq_ok.mp h
  obtain ⟨mostText, -, h⟩ := bind_eq_ok.mp h
  cases h
  exact ⟨_, rfl⟩

theorem Draw.exists_of_outcome {draw : Draw} {generator : Generator} {outcome : Outcome}
    (h : (draw.outcome generator).1 = .ok outcome) :
    ∃ value detail, outcome = { bindings := [(draw.target, .int value)], detail } := by
  simp only [Draw.outcome] at h
  exact ⟨_, exists_of_drawOutcome h⟩

theorem ReplyWait.exists_of_outcome {wait : ReplyWait} {node : Node} {bindings : Variables} {context : Context}
    {outcome : Outcome} (h : wait.outcome node bindings context = .ok outcome) :
    ∃ output userId channelId detail, outcome =
      { output
        action := some {
          nodeId := node.id
          task := .awaitReply wait.timeout.toNat userId channelId
          resultVariable := some wait.target }
        detail } ∧
      (wait.prompt.isEmpty = true ∧ output = none ∨ wait.prompt.isEmpty = false ∧
        ∃ prompt, output = some (node.output .message (.text prompt) false)) := by
  obtain ⟨output, houtput, h⟩ := bind_eq_ok.mp h
  obtain ⟨userId, -, h⟩ := bind_eq_ok.mp h
  obtain ⟨channelId, -, h⟩ := bind_eq_ok.mp h
  cases h
  refine ⟨output, _, _, _, rfl, ?_⟩
  rw [ReplyWait.output] at houtput
  cases hprompt : wait.prompt.isEmpty with
  | true =>
    rw [hprompt, if_pos rfl] at houtput
    exact .inl ⟨rfl, (Except.ok.inj houtput).symm⟩
  | false =>
    rw [hprompt, if_neg Bool.false_ne_true] at houtput
    obtain ⟨prompt, -, hrest⟩ := bind_eq_ok.mp houtput
    exact .inr ⟨rfl, prompt, (Except.ok.inj hrest).symm⟩

theorem RoleChange.exists_of_outcome {change : RoleChange} {task : String → String → String → Task}
    {node : Node} {bindings : Variables} {context : Context} {outcome : Outcome}
    (h : change.outcome task node bindings context = .ok outcome) :
    ∃ guildId userId roleId detail, outcome =
      { action := some { nodeId := node.id, task := task guildId userId roleId }, detail } := by
  rw [RoleChange.outcome] at h
  cases hguild : context.guild with
  | none =>
    simp only [hguild] at h
    cases h
  | some guild =>
    simp only [hguild] at h
    obtain ⟨roleId, -, h⟩ := bind_eq_ok.mp h
    split at h
    · cases h
    · obtain ⟨userId, -, h⟩ := bind_eq_ok.mp h
      cases h
      exact ⟨guild.id, _, _, _, rfl⟩

theorem Call.exists_of_outcome {call : Call} {node : Node} {bindings : Variables} {context : Context}
    {outcome : Outcome} (h : call.outcome node bindings context = .ok outcome) :
    ∃ url headers body detail, outcome =
      { action := some {
          nodeId := node.id
          task := .call url call.method headers body
          resultVariable := some call.resultVariable
          errorVariable := call.errorVariable }
        detail } := by
  obtain ⟨url, -, h⟩ := bind_eq_ok.mp h
  dsimp only at h
  split at h
  · cases h
  · obtain ⟨headers, -, h⟩ := bind_eq_ok.mp h
    obtain ⟨body, -, h⟩ := bind_eq_ok.mp h
    cases h
    exact ⟨_, _, _, _, rfl⟩

/-! ## How they fit -/

/-- An outcome without output and action fits a node of any kind but the end. -/
theorem Outcome.fits_of_plain {node : Node} {outcome : Outcome} (htype : node.type ≠ .finish)
    (hterminal : outcome.terminal = false) (houtput : outcome.output = none)
    (haction : outcome.action = none) : outcome.Fits node where
  terminal := by simp [hterminal, htype]
  output := by simp [houtput]
  action := by simp [haction]

theorem Embed.fits_of_outcome {embed : Embed} {node : Node} {bindings : Variables} {context : Context}
    {outcome : Outcome} (htype : node.type = .sendEmbed)
    (h : embed.outcome node bindings context = .ok outcome) : outcome.Fits node := by
  obtain ⟨content, rfl⟩ := Embed.exists_of_outcome h
  refine ⟨by simp [htype], ?_, by simp⟩
  rintro output ⟨⟩
  simp [Node.output]

theorem Test.fits_of_outcome {test : Test} {node : Node} {bindings : Variables} {context : Context}
    {outcome : Outcome} (htype : node.type ≠ .finish)
    (h : test.outcome bindings context = .ok outcome) : outcome.Fits node := by
  obtain ⟨holds, detail, rfl⟩ := Test.exists_of_outcome h
  exact Outcome.fits_of_plain htype rfl rfl rfl

theorem Assignment.fits_of_outcome {assignment : Assignment} {node : Node} {bindings : Variables}
    {context : Context} {outcome : Outcome} (htype : node.type ≠ .finish)
    (h : assignment.outcome bindings context = .ok outcome) : outcome.Fits node := by
  obtain ⟨value, detail, rfl⟩ := Assignment.exists_of_outcome h
  exact Outcome.fits_of_plain htype rfl rfl rfl

theorem Arithmetic.fits_of_outcome {arithmetic : Arithmetic} {node : Node} {bindings : Variables}
    {context : Context} {outcome : Outcome} (htype : node.type ≠ .finish)
    (h : arithmetic.outcome bindings context = .ok outcome) : outcome.Fits node := by
  obtain ⟨value, detail, rfl⟩ := Arithmetic.exists_of_outcome h
  exact Outcome.fits_of_plain htype rfl rfl rfl

theorem Readout.fits_of_outcome {readout : Readout} {node : Node} {bindings : Variables}
    {declared : Entries Declaration} {outcome : Outcome} (htype : node.type ≠ .finish)
    (h : readout.outcome bindings declared = .ok outcome) : outcome.Fits node := by
  obtain ⟨detail, rfl⟩ := Readout.exists_of_outcome h
  exact Outcome.fits_of_plain htype rfl rfl rfl

theorem fits_of_delayOutcome {duration : Int} {node : Node} {outcome : Outcome} (htype : node.type ≠ .finish)
    (h : delayOutcome duration = .ok outcome) : outcome.Fits node := by
  obtain ⟨detail, rfl⟩ := exists_of_delayOutcome h
  exact Outcome.fits_of_plain htype rfl rfl rfl

theorem Draw.fits_of_outcome {draw : Draw} {generator : Generator} {node : Node} {outcome : Outcome}
    (htype : node.type ≠ .finish) (h : (draw.outcome generator).1 = .ok outcome) : outcome.Fits node := by
  obtain ⟨value, detail, rfl⟩ := Draw.exists_of_outcome h
  exact Outcome.fits_of_plain htype rfl rfl rfl

theorem Message.fits_of_outcome {message : Message} {node : Node} {bindings : Variables} {context : Context}
    {outcome : Outcome} (htype : node.type = .sendMessage)
    (h : message.outcome node bindings context = .ok outcome) : outcome.Fits node := by
  obtain ⟨content, rfl⟩ := Message.exists_of_outcome h
  refine ⟨by simp [htype], ?_, by simp⟩
  rintro output ⟨⟩
  simp [Node.output]

theorem ReplyWait.fits_of_outcome {wait : ReplyWait} {node : Node} {bindings : Variables} {context : Context}
    {outcome : Outcome} (htype : node.type = .awaitReply)
    (h : wait.outcome node bindings context = .ok outcome) : outcome.Fits node := by
  obtain ⟨output, userId, channelId, detail, rfl, hprompt⟩ := ReplyWait.exists_of_outcome h
  refine ⟨by simp [htype], ?_, ?_⟩
  · rintro output' rfl
    obtain ⟨-, hnone⟩ | ⟨-, prompt, hsome⟩ := hprompt
    · cases hnone
    · cases hsome
      simp [Node.output]
  · rintro action ⟨⟩
    simp [Action.IsProper, Task.type, Task.isRoleChange, htype]

theorem RoleChange.fits_of_outcome {change : RoleChange} {task : String → String → String → Task}
    {node : Node} {bindings : Variables} {context : Context} {outcome : Outcome}
    (htask : ∀ guildId userId roleId, (task guildId userId roleId).type = node.type)
    (htype : node.type ≠ .finish)
    (h : change.outcome task node bindings context = .ok outcome) : outcome.Fits node := by
  obtain ⟨guildId, userId, roleId, detail, rfl⟩ := RoleChange.exists_of_outcome h
  refine ⟨by simp [htype], by simp, ?_⟩
  rintro action ⟨⟩
  exact ⟨rfl, htask _ _ _, fun _ => ⟨rfl, rfl⟩⟩

theorem Call.fits_of_outcome {call : Call} {node : Node} {bindings : Variables} {context : Context}
    {outcome : Outcome} (htype : node.type = .apiCall)
    (h : call.outcome node bindings context = .ok outcome) : outcome.Fits node := by
  obtain ⟨url, headers, body, detail, rfl⟩ := Call.exists_of_outcome h
  refine ⟨by simp [htype], by simp, ?_⟩
  rintro action ⟨⟩
  exact ⟨rfl, htype.symm, fun hrole => by simp [Task.isRoleChange] at hrole⟩

theorem Node.fits_of_outcome {node : Node} {bindings : Variables} {context : Context}
    {declared : Entries Declaration} {generator after : Generator} {outcome : Outcome}
    (h : node.outcome bindings context declared generator = (.ok outcome, after)) :
    outcome.Fits node := by
  have hresult : (node.outcome bindings context declared generator).1 = .ok outcome := by rw [h]
  have htype : node.type = node.behavior.type := rfl
  cases hbehavior : node.behavior <;>
    simp only [Node.outcome, hbehavior] at hresult <;> rw [hbehavior] at htype
  case sendEmbed embed => exact Embed.fits_of_outcome htype hresult
  case ifCondition test => exact Test.fits_of_outcome (by simp [htype, Behavior.type]) hresult
  case setVariable assignment =>
    exact Assignment.fits_of_outcome (by simp [htype, Behavior.type]) hresult
  case mathOperation arithmetic =>
    exact Arithmetic.fits_of_outcome (by simp [htype, Behavior.type]) hresult
  case addRole change =>
    refine RoleChange.fits_of_outcome ?_ (by simp [htype, Behavior.type]) hresult
    exact fun _ _ _ => htype.symm
  case removeRole change =>
    refine RoleChange.fits_of_outcome ?_ (by simp [htype, Behavior.type]) hresult
    exact fun _ _ _ => htype.symm
  case apiCall call => exact Call.fits_of_outcome htype hresult
  case awaitReply wait => exact ReplyWait.fits_of_outcome htype hresult
  case sendMessage message => exact Message.fits_of_outcome htype hresult
  case getVariable readout => exact Readout.fits_of_outcome (by simp [htype, Behavior.type]) hresult
  case delay duration => exact fits_of_delayOutcome (by simp [htype, Behavior.type]) hresult
  case random draw => exact Draw.fits_of_outcome (by simp [htype, Behavior.type]) hresult
  case finish label =>
    cases hresult
    exact ⟨by simp [htype, Behavior.type], by simp, by simp⟩
  all_goals
    cases hresult
    exact Outcome.fits_of_plain (by simp [htype, Behavior.type]) rfl rfl rfl

/-! ## Errors that a variable takes -/

/-- The variable of a node that takes the error of its action, if there is one. -/
def Node.errorVariable? (node : Node) : Option String :=
  match node.behavior with
  | .apiCall call => call.errorVariable
  | _ => none

/-- Every action of a node leaves its error to the variable of the node. -/
theorem Node.errorVariable_of_outcome {node : Node} {bindings : Variables} {context : Context}
    {declared : Entries Declaration} {generator after : Generator} {outcome : Outcome} {action : Action}
    (h : node.outcome bindings context declared generator = (.ok outcome, after))
    (haction : outcome.action = some action) : action.errorVariable = node.errorVariable? := by
  have hresult : (node.outcome bindings context declared generator).1 = .ok outcome := by rw [h]
  cases hbehavior : node.behavior <;>
    simp only [Node.outcome, hbehavior] at hresult <;> simp only [Node.errorVariable?, hbehavior]
  case sendEmbed embed =>
    obtain ⟨content, rfl⟩ := Embed.exists_of_outcome hresult
    cases haction
  case ifCondition test =>
    obtain ⟨holds, detail, rfl⟩ := Test.exists_of_outcome hresult
    cases haction
  case setVariable assignment =>
    obtain ⟨value, detail, rfl⟩ := Assignment.exists_of_outcome hresult
    cases haction
  case mathOperation arithmetic =>
    obtain ⟨value, detail, rfl⟩ := Arithmetic.exists_of_outcome hresult
    cases haction
  case addRole change =>
    obtain ⟨guildId, userId, roleId, detail, rfl⟩ := RoleChange.exists_of_outcome hresult
    cases haction
    rfl
  case removeRole change =>
    obtain ⟨guildId, userId, roleId, detail, rfl⟩ := RoleChange.exists_of_outcome hresult
    cases haction
    rfl
  case apiCall call =>
    obtain ⟨url, headers, body, detail, rfl⟩ := Call.exists_of_outcome hresult
    cases haction
    rfl
  case awaitReply wait =>
    obtain ⟨output, userId, channelId, detail, rfl, -⟩ := ReplyWait.exists_of_outcome hresult
    cases haction
    rfl
  case sendMessage message =>
    obtain ⟨content, rfl⟩ := Message.exists_of_outcome hresult
    cases haction
  case getVariable readout =>
    obtain ⟨detail, rfl⟩ := Readout.exists_of_outcome hresult
    cases haction
  case delay duration =>
    obtain ⟨detail, rfl⟩ := exists_of_delayOutcome hresult
    cases haction
  case random draw =>
    obtain ⟨value, detail, rfl⟩ := Draw.exists_of_outcome hresult
    cases haction
  all_goals
    cases hresult
    cases haction

end CommandFlow
