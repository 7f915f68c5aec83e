import CommandFlow.Proofs.Entries
import CommandFlow.Proofs.Run.Calls

/-!
# The variables of a run

A variable has the value that was written last, and every node writes only what is its own to write.

* `Behavior.Writes` : what a node of a kind writes, for the answer to its action; `Run.Visit.WritesOwn` : a visit
  writes that, or nothing if it does not succeed;
* `Run.Visit.writesOwn` : every visit does;
* `Context.initial?` : the value of a variable before the run; `Run.lastWritten?` : the value that the latest of
  some visits has written;
* `Run.bindings_eq_foldl` : what a visit meets are the initial variables with the writes of the visits before it;
* `Run.lastWritten_of_run` : so every visit meets, and a run leaves, what was written last.
-/

namespace CommandFlow

/-! ## What nodes write -/

/-- A value under its name: nothing if it is null or the name is empty. -/
def kept (name : String) (value : Value) : Variables :=
  if name.isEmpty || value.isNull then [] else [(name, value)]

def Behavior.Writes (behavior : Behavior) (answer? : Option ActionResult) (writes : Variables) : Prop :=
  match behavior with
  | .setVariable assignment => ∃ value, writes = [(assignment.name, value)]
  | .random draw => ∃ value, writes = [(draw.target, value)]
  | .mathOperation arithmetic => ∃ value, writes = [(arithmetic.target, value)]
  | .awaitReply wait => ∃ answer, answer? = some answer ∧ answer.error = none ∧
      writes = kept wait.target answer.value
  | .apiCall call => ∃ answer, answer? = some answer ∧
      match answer.error with
      | none => writes = kept call.resultVariable answer.value
      | some text => ∃ name, call.errorVariable = some name ∧ writes = [(name, .text text)]
  | _ => writes = []

/-- The variables that an outcome writes, for the answer to its action. -/
def Outcome.Yields (outcome : Outcome) (answer? : Option ActionResult) (writes : Variables) : Prop :=
  match outcome.action with
  | none => writes = outcome.bindings
  | some action => ∃ answer taken, answer? = some answer ∧ action.writes answer = .ok taken ∧
      writes = Entries.merge outcome.bindings taken

theorem Outcome.Yields.of_action_eq_none {outcome : Outcome} {answer? : Option ActionResult}
    {writes : Variables} (h : outcome.Yields answer? writes) (haction : outcome.action = none) :
    writes = outcome.bindings := by
  rwa [Outcome.Yields, haction] at h

theorem merge_nil_kept (name : String) (value : Value) :
    Entries.merge [] (kept name value) = kept name value := by
  unfold kept
  split <;> rfl

/-- What an answer to an action writes: its value, or its error if that is taken. -/
theorem Action.writes_eq_ok {action : Action} {answer : ActionResult} {taken : Variables}
    (h : action.writes answer = .ok taken) :
    (answer.error = none ∧
      taken = (action.resultVariable.map fun name => kept name answer.value).getD []) ∨
    ∃ text name, answer.error = some text ∧ action.errorVariable = some name ∧
      taken = [(name, .text text)] := by
  unfold Action.writes at h
  cases herror : answer.error with
  | some text =>
    cases hname : action.errorVariable with
    | some name =>
      simp only [herror, hname] at h
      cases h
      exact .inr ⟨text, name, rfl, rfl, rfl⟩
    | none =>
      simp only [herror, hname] at h
      cases h
  | none =>
    left
    cases hname : action.resultVariable with
    | none =>
      simp only [herror, hname] at h
      cases h
      exact ⟨rfl, rfl⟩
    | some name =>
      simp only [herror, hname] at h
      refine ⟨rfl, ?_⟩
      show taken = kept name answer.value
      unfold kept
      split at h
      · rename_i hempty
        cases h
        rw [if_pos hempty]
      · rename_i hempty
        cases h
        rw [if_neg hempty]

theorem RoleChange.writes_of_outcome {change : RoleChange} {task : String → String → String → Task}
    {node : Node} {bindings : Variables} {context : Context} {outcome : Outcome}
    {answer? : Option ActionResult} {writes : Variables}
    (h : change.outcome task node bindings context = .ok outcome)
    (hyields : outcome.Yields answer? writes) : writes = [] := by
  obtain ⟨guildId, userId, roleId, detail, rfl⟩ := RoleChange.exists_of_outcome h
  obtain ⟨answer, taken, -, htaken, rfl⟩ := hyields
  rcases Action.writes_eq_ok htaken with ⟨-, rfl⟩ | ⟨text, name, -, hname, -⟩
  · rfl
  · cases hname

theorem ReplyWait.writes_of_outcome {wait : ReplyWait} {node : Node} {bindings : Variables}
    {context : Context} {outcome : Outcome} {answer? : Option ActionResult} {writes : Variables}
    (h : wait.outcome node bindings context = .ok outcome) (hyields : outcome.Yields answer? writes) :
    ∃ answer, answer? = some answer ∧ answer.error = none ∧ writes = kept wait.target answer.value := by
  obtain ⟨output, userId, channelId, detail, rfl, -⟩ := ReplyWait.exists_of_outcome h
  obtain ⟨answer, taken, hanswer, htaken, rfl⟩ := hyields
  rcases Action.writes_eq_ok htaken with ⟨herror, rfl⟩ | ⟨text, name, -, hname, -⟩
  · exact ⟨answer, hanswer, herror, merge_nil_kept wait.target answer.value⟩
  · cases hname

theorem Call.writes_of_outcome {call : Call} {node : Node} {bindings : Variables} {context : Context}
    {outcome : Outcome} {answer? : Option ActionResult} {writes : Variables}
    (h : call.outcome node bindings context = .ok outcome) (hyields : outcome.Yields answer? writes) :
    ∃ answer, answer? = some answer ∧
      match answer.error with
      | none => writes = kept call.resultVariable answer.value
      | some text => ∃ name, call.errorVariable = some name ∧ writes = [(name, .text text)] := by
  obtain ⟨url, headers, body, detail, rfl⟩ := Call.exists_of_outcome h
  obtain ⟨answer, taken, hanswer, htaken, rfl⟩ := hyields
  refine ⟨answer, hanswer, ?_⟩
  rcases Action.writes_eq_ok htaken with ⟨herror, rfl⟩ | ⟨text, name, herror, hname, rfl⟩
  · rw [herror]
    exact merge_nil_kept call.resultVariable answer.value
  · rw [herror]
    exact ⟨name, hname, rfl⟩

/-- A node that succeeds writes only what is its own to write. -/
theorem Node.writes_of_outcome {node : Node} {bindings : Variables} {context : Context}
    {declared : Entries Declaration} {generator after : Generator} {outcome : Outcome}
    {answer? : Option ActionResult} {writes : Variables}
    (h : node.outcome bindings context declared generator = (.ok outcome, after))
    (hyields : outcome.Yields answer? writes) : node.behavior.Writes answer? writes := by
  have hresult : (node.outcome bindings context declared generator).1 = .ok outcome := by rw [h]
  cases hbehavior : node.behavior <;> simp only [Node.outcome, hbehavior] at hresult
  case sendEmbed embed =>
    obtain ⟨content, rfl⟩ := Embed.exists_of_outcome hresult
    exact hyields.of_action_eq_none rfl
  case ifCondition test =>
    obtain ⟨holds, detail, rfl⟩ := Test.exists_of_outcome hresult
    exact hyields.of_action_eq_none rfl
  case setVariable assignment =>
    obtain ⟨value, detail, rfl⟩ := Assignment.exists_of_outcome hresult
    exact ⟨value, hyields.of_action_eq_none rfl⟩
  case mathOperation arithmetic =>
    obtain ⟨value, detail, rfl⟩ := Arithmetic.exists_of_outcome hresult
    exact ⟨value, hyields.of_action_eq_none rfl⟩
  case random draw =>
    obtain ⟨value, detail, rfl⟩ := Draw.exists_of_outcome hresult
    exact ⟨.int value, hyields.of_action_eq_none rfl⟩
  case addRole change => exact RoleChange.writes_of_outcome hresult hyields
  case removeRole change => exact RoleChange.writes_of_outcome hresult hyields
  case awaitReply wait => exact ReplyWait.writes_of_outcome hresult hyields
  case apiCall call => exact Call.writes_of_outcome hresult hyields
  case sendMessage message =>
    obtain ⟨content, rfl⟩ := Message.exists_of_outcome hresult
    exact hyields.of_action_eq_none rfl
  case getVariable readout =>
    obtain ⟨detail, rfl⟩ := Readout.exists_of_outcome hresult
    exact hyields.of_action_eq_none rfl
  case delay duration =>
    obtain ⟨detail, rfl⟩ := exists_of_delayOutcome hresult
    exact hyields.of_action_eq_none rfl
  all_goals
    cases hresult
    exact hyields.of_action_eq_none rfl

theorem Behavior.Writes.ofPairs_eq {behavior : Behavior} {answer? : Option ActionResult}
    {writes : Variables} (h : behavior.Writes answer? writes) : Entries.ofPairs writes = writes := by
  unfold Behavior.Writes at h
  split at h
  · obtain ⟨value, rfl⟩ := h
    rfl
  · obtain ⟨value, rfl⟩ := h
    rfl
  · obtain ⟨value, rfl⟩ := h
    rfl
  · obtain ⟨answer, -, -, rfl⟩ := h
    exact merge_nil_kept _ _
  · obtain ⟨answer, -, h⟩ := h
    split at h
    · rw [h]
      exact merge_nil_kept _ _
    · obtain ⟨name, -, rfl⟩ := h
      rfl
  · rw [h]
    rfl

/-! ## What visits write -/

/-- The answer to an action, unless it was refused or cut off. -/
def Event.result? : Event → Option ActionResult
  | .performed _ (.done answer) => some answer
  | _ => none

namespace Run

variable {σ : Type}

theorem andThen_eq_done {α β : Type} {answer : Reply α × σ} {next : α → σ → Reply β × σ} {b : β}
    {after : σ} (h : andThen answer next = (.done b, after)) :
    ∃ a world, answer = (.done a, world) ∧ next a world = (.done b, after) := by
  obtain ⟨reply, world⟩ := answer
  cases reply with
  | done a => exact ⟨a, world, rfl, h⟩
  | raised fault => cases h
  | expired => cases h

theorem result?_callIf {α : Type} (event : α → Reply Unit → Event)
    (hevent : ∀ a reply, (event a reply).result? = none) {call : α → σ → Reply Unit × σ}
    {a? : Option α} {reply : Reply Unit} {state after : σ × List Event}
    (h : callIf (fun a state => Event.note (event a) (call a state.1) state.2) a? state =
      (reply, after)) :
    after.2.findSome? Event.result? = state.2.findSome? Event.result? := by
  cases a? with
  | none =>
    cases h
    rfl
  | some a =>
    cases h
    simp [hevent]

theorem result?_performIf {backend : Backend σ} {action : Action} {taken : Variables}
    {state after : σ × List Event}
    (h : performIf backend.logged (some action) state = (.done taken, after))
    (hstate : state.2.findSome? Event.result? = none) :
    ∃ answer, after.2.findSome? Event.result? = some answer ∧ action.writes answer = .ok taken := by
  obtain ⟨answer, world, hperform, hwrites⟩ := andThen_eq_done h
  have hevents : world.2 = state.2 ++ [.performed action (.done answer)] := by
    simp only [Backend.logged, Event.note, Prod.mk.injEq] at hperform
    obtain ⟨hanswer, hworld⟩ := hperform
    rw [← hworld, hanswer]
  split at hwrites
  · rename_i writes hok
    cases hwrites
    refine ⟨answer, ?_, hok⟩
    rw [hevents, List.findSome?_append, hstate]
    rfl
  · cases hwrites

/-- What is realized of an outcome writes the variables that it yields. -/
theorem yields_of_realize {backend : Backend σ} {outcome : Outcome} {writes : Variables} {world : σ}
    {after : σ × List Event} (h : realize backend.logged outcome (world, []) = (.done writes, after)) :
    outcome.Yields (after.2.findSome? Event.result?) writes := by
  obtain ⟨⟨⟩, emitted, hemit, h⟩ := andThen_eq_done h
  obtain ⟨taken, performed, hperform, h⟩ := andThen_eq_done h
  obtain ⟨⟨⟩, paused, hpause, h⟩ := andThen_eq_done h
  cases h
  have hemitted : emitted.2.findSome? Event.result? = none :=
    result?_callIf .emitted (fun _ _ => rfl) hemit
  have hpaused : after.2.findSome? Event.result? = performed.2.findSome? Event.result? :=
    result?_callIf .paused (fun _ _ => rfl) hpause
  rw [hpaused]
  cases haction : outcome.action with
  | none =>
    rw [haction] at hperform
    cases hperform
    rw [Outcome.Yields, haction]
    rfl
  | some action =>
    rw [haction] at hperform
    obtain ⟨answer, hanswer, htaken⟩ := result?_performIf hperform hemitted
    rw [Outcome.Yields, haction]
    exact ⟨answer, taken, hanswer, htaken, rfl⟩

section
variable (backend : Backend σ) (graph : Graph) (context : Context)

namespace Visit

/-- The answer to the action of the visit, if it performs one that is answered. -/
def answer? (v : Visit σ) : Option ActionResult :=
  (v.calls backend graph context).findSome? Event.result?

/-- The visit writes only what is its own to write: what its node writes for the answer to its action, or
nothing if it does not succeed. -/
def WritesOwn (v : Visit σ) : Prop :=
  match v.reply backend graph context with
  | .done _ => v.node.behavior.Writes (v.answer? backend graph context) (v.writes backend graph context)
  | _ => v.writes backend graph context = []

end Visit

variable {backend graph context} in
theorem passes_of_reply {v : Visit σ} {outcome : Outcome} {writes : Variables}
    (h : v.reply backend graph context = .done (outcome, writes)) :
    ∃ generator, Passes backend graph context v outcome writes generator
      (v.leaves backend graph context) := by
  unfold Visit.reply at h
  rcases visit_cases backend graph context v with
    ⟨outcome', writes', generator, world, hpasses⟩ | ⟨fault, generator, world, -, hvisit⟩ |
    ⟨generator, world, -, hvisit⟩
  · rw [visit_of_passes hpasses] at h
    cases h
    have hleaves : v.leaves backend graph context = world := by
      rw [Visit.leaves, visit_of_passes hpasses]
    rw [hleaves]
    exact ⟨generator, hpasses⟩
  · rw [hvisit] at h
    cases h
  · rw [hvisit] at h
    cases h

theorem Visit.writesOwn (v : Visit σ) : v.WritesOwn backend graph context := by
  have hlogged := v.reply_withLog backend graph context []
  have hleaves := v.leaves_withLog backend graph context []
  unfold WritesOwn Visit.writes
  cases hreply : v.reply backend graph context with
  | raised fault => rfl
  | expired => rfl
  | done answer =>
    obtain ⟨outcome, writes⟩ := answer
    obtain ⟨generator, hpasses⟩ := passes_of_reply (hlogged.trans hreply)
    rw [hleaves, List.nil_append] at hpasses
    have hrealized : realize backend.logged outcome (v.world, []) =
      (.done writes, v.leaves backend graph context, v.calls backend graph context) := hpasses.realized
    have hyields := yields_of_realize hrealized
    exact Node.writes_of_outcome hpasses.handled hyields

end

/-! ## The last write -/

section
variable (backend : Backend σ) (graph : Graph) (context : Context)

/-- The value that the latest of the visits has written that writes the variable. -/
def lastWritten? (visits : List (Visit σ)) (name : String) : Option Value :=
  visits.reverse.findSome? fun v => Entries.get? (v.writes backend graph context) name

end

section
variable {backend : Backend σ} {graph : Graph} {context : Context}

theorem ofPairs_writes (v : Visit σ) :
    Entries.ofPairs (v.writes backend graph context) = v.writes backend graph context := by
  have hown := v.writesOwn backend graph context
  unfold Visit.WritesOwn at hown
  split at hown
  · exact hown.ofPairs_eq
  · rw [hown]
    rfl

theorem lastWritten?_cons (v : Visit σ) (visits : List (Visit σ)) (name : String) :
    lastWritten? backend graph context (v :: visits) name =
      (lastWritten? backend graph context visits name).or
        (Entries.get? (v.writes backend graph context) name) := by
  simp [lastWritten?, List.findSome?_append]

/-- Visit after visit writes over what is there: the last write counts. -/
theorem get?_foldl_writes (visits : List (Visit σ)) (bindings : Variables) (name : String) :
    Entries.get? (visits.foldl
        (fun bindings v => Entries.merge bindings (v.writes backend graph context)) bindings) name =
      (lastWritten? backend graph context visits name).or (Entries.get? bindings name) := by
  induction visits generalizing bindings with
  | nil => rfl
  | cons v rest ih =>
    rw [List.foldl_cons, ih, lastWritten?_cons, Entries.get?_merge, ofPairs_writes, Option.or_assoc]

/-- A visit meets what the visits before it have written. -/
theorem bindings_eq_foldl {limit : Nat} {first v : Visit σ} {before rest : List (Visit σ)}
    (h : visits backend graph context limit first = before ++ v :: rest) :
    v.bindings = before.foldl
      (fun bindings w => Entries.merge bindings (w.writes backend graph context)) first.bindings := by
  induction limit, first using walk_induction backend graph context generalizing before with
  | zero first => simp [visits] at h
  | last limit first hnext =>
    rw [visits_of_next?_eq_none hnext] at h
    rcases List.append_eq_singleton_iff.mp h.symm with ⟨rfl, hrest⟩ | ⟨-, hrest⟩
    · cases hrest
      rfl
    · cases hrest
  | next limit first w hnext ih =>
    rw [visits_of_next?_eq_some hnext] at h
    cases before with
    | nil =>
      cases h
      rfl
    | cons u before =>
      obtain ⟨rfl, hrest⟩ := List.cons.inj h
      rw [List.foldl_cons, ← bindings_of_next?_eq_some hnext]
      exact ih hrest

end

end Run

/-! ## Runs -/

/-- The value of a variable before a run: that of the variable, or else that of the option. -/
def Context.initial? (context : Context) (name : String) : Option Value :=
  (Entries.get? (Entries.ofPairs context.bindings) name).or
    (Entries.get? (Entries.ofPairs context.options) name)

theorem Context.get?_initialVariables (context : Context) (name : String) :
    Entries.get? context.initialVariables name = context.initial? name :=
  Entries.get?_merge _ _ _

namespace Run

variable {σ : Type}

theorem run_eq_course {backend : Backend σ} {graph : Graph} {context : Context} {limit : Int}
    {generator : Generator} {world after : σ} {result : Result}
    (h : run backend graph context limit generator world = (.ok result, after)) :
    ∃ v, v.bindings = context.initialVariables ∧
      course backend graph context limit generator world =
        visits backend graph context limit.toNat v ∧
      result = (walk backend graph context limit.toNat v.node v.bindings v.generator v.world).1 := by
  obtain ⟨node, -, -, hcourse, hwalk⟩ := walk_of_run h
  exact ⟨⟨node, context.initialVariables, generator, world⟩, rfl, hcourse, (congrArg Prod.fst hwalk).symm⟩

/-- Every visit of a run meets the value of a variable that the latest of the visits before it has written, or
else the one from before the run, and so does the run leave it, in its result and, if it comes to its end, in the
context. Every visit writes only what is its own to write, and the steps of the run are those of its visits. -/
theorem lastWritten_of_run {backend : Backend σ} {graph : Graph} {limit : Int} {generator : Generator}
    {state left : State σ} {result : Result}
    (h : runIn backend graph limit generator state = (.ok result, left)) :
    let context := state.context
    let course := course backend graph context limit generator state.world
    result.steps = course.filterMap (·.step? backend graph context) ∧
    (∀ before v rest, course = before ++ v :: rest → ∀ name, Entries.get? v.bindings name =
      (lastWritten? backend graph context before name).or (context.initial? name)) ∧
    (∀ name, Entries.get? result.bindings name =
      (lastWritten? backend graph context course name).or (context.initial? name)) ∧
    (result.status ≠ .expired → ∀ name, Entries.get? left.context.bindings name =
      (lastWritten? backend graph context course name).or (context.initial? name)) ∧
    ∀ v ∈ course, v.WritesOwn backend graph context := by
  intro context course
  obtain ⟨first, hinitial, hcourse, hresult⟩ := run_eq_course (run_of_runIn h)
  have hmeets (visits : List (Visit σ)) (name : String) :
      Entries.get? (visits.foldl
          (fun bindings v => Entries.merge bindings (v.writes backend graph context)) first.bindings) name =
        (lastWritten? backend graph context visits name).or (context.initial? name) := by
    rw [get?_foldl_writes, hinitial, Context.get?_initialVariables]
  have hfinal (name : String) : Entries.get? result.bindings name =
      (lastWritten? backend graph context course name).or (context.initial? name) := by
    rw [hresult, bindings_walk, ← hcourse]
    exact hmeets course name
  refine ⟨?_, ?_, hfinal, fun hstatus name => ?_, fun v _ => v.writesOwn backend graph context⟩
  · rw [hresult, steps_walk, ← hcourse]
  · intro before v rest hbefore name
    rw [bindings_eq_foldl (hcourse.symm.trans hbefore)]
    exact hmeets before name
  · rw [context_of_runIn_ok h hstatus]
    exact hfinal name

def overwriting : Graph where
  nodes := [⟨"begin", ⟨.zero, .zero⟩, .start ""⟩,
    ⟨"first", ⟨.zero, .zero⟩, .setVariable ⟨"name", .text "old", .local, .string⟩⟩,
    ⟨"second", ⟨.zero, .zero⟩, .setVariable ⟨"name", .text "new", .local, .string⟩⟩]
  edges := [{ id := "1", source := "begin", target := "first" },
    { id := "2", source := "first", target := "second" }]

theorem lastWritten_of_run_overwriting :
    ∃ result left,
      runIn (Simulation.backend {}) overwriting 5 (.ofSeed 0) ⟨.standIn, {}⟩ = (.ok result, left) ∧
      result.status = .stopped ∧
      let course := course (Simulation.backend {}) overwriting .standIn 5 (.ofSeed 0) {}
      result.steps = course.filterMap (·.step? (Simulation.backend {}) overwriting .standIn) ∧
      (∀ before v rest, course = before ++ v :: rest → ∀ name, Entries.get? v.bindings name =
        (lastWritten? (Simulation.backend {}) overwriting .standIn before name).or
          (Context.standIn.initial? name)) ∧
      (∀ name, Entries.get? result.bindings name =
        (lastWritten? (Simulation.backend {}) overwriting .standIn course name).or
          (Context.standIn.initial? name)) ∧
      (result.status ≠ .expired → ∀ name, Entries.get? left.context.bindings name =
        (lastWritten? (Simulation.backend {}) overwriting .standIn course name).or
          (Context.standIn.initial? name)) ∧
      ∀ v ∈ course, v.WritesOwn (Simulation.backend {}) overwriting .standIn := by
  have hstatus : (runIn (Simulation.backend {}) overwriting 5 (.ofSeed 0) ⟨.standIn, {}⟩).1.toOption.map
      (·.status) = some .stopped := by decide +kernel
  rcases hrun : runIn (Simulation.backend {}) overwriting 5 (.ofSeed 0) ⟨.standIn, {}⟩ with
    ⟨refusal | result, left⟩
  · rw [hrun] at hstatus
    cases hstatus
  · rw [hrun] at hstatus
    have hwritten := lastWritten_of_run hrun
    dsimp only at hwritten
    exact ⟨result, left, rfl, Option.some.inj hstatus, hwritten⟩

end Run

end CommandFlow
