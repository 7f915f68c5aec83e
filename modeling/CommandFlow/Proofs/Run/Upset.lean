import CommandFlow.Proofs.Run.Comparison
import CommandFlow.Proofs.Run.Limit

/-!
# Calls that fail

A call that makes its node fail ends a run there and changes nothing before.

* `Scenario.upset` : the scenario with another answer to one call; `Scenario.Answer.fault?` : the fault that an
  answer makes of the node that calls;
* `Scenario.upsetting` : two runs are the same up to that call, at which the second one fails;
* `Scenario.walk_upset` : the visit of the call, and the walk that ends there;
* `Live.execute_upset` : the same of whole runs.
-/

namespace CommandFlow

namespace Scenario

/-- The scenario in which the `k`-th call has another answer. -/
def upset (scenario : Scenario) (k : Nat) (answer : Answer) : Scenario where
  answer calls := if calls.length = k then answer else scenario.answer calls
  hasResponded := scenario.hasResponded
  library := scenario.library

@[simp] theorem library_upset (scenario : Scenario) (k : Nat) (answer : Answer) :
    (scenario.upset k answer).library = scenario.library := rfl

/-- The fault that the answer to a call makes of the node that calls, by the variable that takes its error. -/
def Answer.fault? (answer : Answer) (library : Http.Library) (errorVariable? : Option String) :
    Rehearsal.Call → Option Fault
  | .http request =>
    match Live.fetched library request answer.response, errorVariable? with
    | .raised fault, _ => some fault
    | .done { error := some text, .. }, none => some (.action text)
    | _, _ => none
  | _ => answer.fault

section
variable {answer : Answer} {library : Http.Library} {fault : Fault}

theorem Answer.fault?_of_isRequest {call : Rehearsal.Call} (h : call.isRequest = false)
    (library : Http.Library) (errorVariable? : Option String) :
    answer.fault? library errorVariable? call = answer.fault := by
  cases call with
  | http request => cases h
  | _ => rfl

/-- A fault of a request is what becomes of the action that makes it. -/
theorem Answer.written_of_fault? {action : Action} {request : Http.Request}
    (h : answer.fault? library action.errorVariable (.http request) = some fault) :
    Run.written action (Live.fetched library request answer.response) = .raised fault := by
  unfold Answer.fault? at h
  dsimp only at h
  generalize Live.fetched library request answer.response = reply at h ⊢
  split at h
  · cases h
    rfl
  · rename_i hnone
    cases h
    simp [Run.written, Action.writes, hnone]
  · cases h

end

/-- The two runs are the same until the `k`-th call. They part when the answer to it makes the node fail,
unless the time is up before. -/
def upsetting (library : Http.Library) (k : Nat) (answer : Answer) : Comparison where
  together world world' := world' = world ∧ world.calls.length < k
  parted node calls fate calls' :=
    ∃ made call others, calls = made ++ call :: others ∧ made.length + 1 = k ∧
      ∀ fault, answer.fault? library node.errorVariable? call = some fault →
        (fate = .raised fault ∨ fate = .expired) ∧ calls' = made ++ [call]
  mark := by
    rintro world _ ⟨rfl, hcalls⟩
    exact ⟨rfl, hcalls⟩
  mono := by
    rintro node _ fate calls' _ ⟨made, call, others, rfl, hmade, hfault⟩ ⟨rest, rfl⟩
    exact ⟨made, call, others ++ rest, by simp, hmade, hfault⟩
  final := by
    rintro node calls fate calls' calls'' ⟨made, call, others, hcalls, hmade, hfault⟩
    refine ⟨made, call, others, hcalls, hmade, fun fault h => ?_⟩
    obtain ⟨hdone | hdone, -⟩ := hfault fault h <;> cases hdone

section
variable (scenario : Scenario) {k : Nat} (answer : Answer)

theorem upset_answer_of_length_eq {calls : List Rehearsal.Call} (h : calls.length = k) :
    (scenario.upset k answer).answer calls = answer :=
  if_pos h

theorem upset_answer_of_length_ne {calls : List Rehearsal.Call} (h : calls.length ≠ k) :
    (scenario.upset k answer).answer calls = scenario.answer calls :=
  if_neg h

variable {world : Live.World World} (hk : world.calls.length < k)

include hk

theorem make_upset (node : Node) {α : Type} {call : Rehearsal.Call} (value : Answer → α)
    (hcall : call.isRequest = false) :
    (upsetting scenario.library k answer).Tracks node (Live.call (scenario.make call value) world)
      (Live.call ((scenario.upset k answer).make call value) world) := by
  obtain ⟨replied, calls, clock⟩ := world
  unfold Live.call
  dsimp only
  by_cases hlast : (calls ++ [call]).length = k
  · right
    have hanswer := scenario.upset_answer_of_length_eq answer hlast
    refine ⟨calls, call, [], scenario.calls_make call value _, by simpa using hlast, fun fault hfault => ?_⟩
    refine ⟨?_, (scenario.upset k answer).calls_make call value _⟩
    rw [Answer.fault?_of_isRequest hcall] at hfault
    rcases clock.wait_cases answer.ticks with hdone | hcut
    · left
      rw [(scenario.upset k answer).make_of_done call value (hanswer.symm ▸ hdone)]
      simp only [hanswer, Answer.settle, hfault]
      rfl
    · right
      rw [(scenario.upset k answer).make_of_expired call value (hanswer.symm ▸ hcut)]
      rfl
  · left
    have hanswer := scenario.upset_answer_of_length_ne answer hlast
    have hlength : (calls ++ [call]).length < k := lt_of_le_of_ne (List.length_append.trans_le hk) hlast
    rw [scenario.make_congr hanswer]
    refine ⟨rfl, rfl, ?_⟩
    exact (congrArg List.length (scenario.calls_make call value ⟨calls, clock⟩)).trans_lt hlength

theorem request_upset (node : Node) (action : Action) (request : Http.Request)
    (herror : action.errorVariable = node.errorVariable?) :
    (upsetting scenario.library k answer).Tracks node
      (Prod.map (Run.written action) id (Live.call (scenario.request request) world))
      (Prod.map (Run.written action) id (Live.call ((scenario.upset k answer).request request) world)) := by
  obtain ⟨replied, calls, clock⟩ := world
  unfold Live.call
  dsimp only [Prod.map, id]
  by_cases hlast : (calls ++ [Rehearsal.Call.http request]).length = k
  · right
    have hanswer := scenario.upset_answer_of_length_eq answer hlast
    refine ⟨calls, .http request, [], scenario.calls_request request _, by simpa using hlast,
      fun fault hfault => ?_⟩
    refine ⟨?_, (scenario.upset k answer).calls_request request _⟩
    rw [← herror] at hfault
    have hwritten := Answer.written_of_fault? hfault
    rw [request_eq]
    simp only [hanswer, library_upset]
    split
    · exact .inr rfl
    · rw [hwritten]
      exact .inl rfl
  · left
    have hanswer := scenario.upset_answer_of_length_ne answer hlast
    have hlength : (calls ++ [Rehearsal.Call.http request]).length < k :=
      lt_of_le_of_ne (List.length_append.trans_le hk) hlast
    rw [scenario.request_congr (scenario.library_upset k answer) hanswer]
    refine ⟨rfl, rfl, ?_⟩
    exact (congrArg List.length (scenario.calls_request request ⟨calls, clock⟩)).trans_lt hlength

end

theorem upsetting_holds (scenario : Scenario) (k : Nat) (answer : Answer) :
    (upsetting scenario.library k answer).Holds scenario (scenario.upset k answer) where
  library := rfl
  responded := by
    rintro world _ ⟨rfl, -⟩
    rfl
  made := by
    rintro node α call value world _ hcall ⟨rfl, hk⟩
    exact scenario.make_upset answer hk node value hcall
  requested := by
    rintro node action request world _ herror ⟨rfl, hk⟩
    exact scenario.request_upset answer hk node action request herror
  slept := by
    rintro node ticks world _ ⟨rfl, hk⟩
    exact .inl ⟨rfl, rfl, hk⟩

/-! ## Walks with a call that fails -/

/-- If the answer to the `k`-th call of a walk makes its node fail, the walk ends there. -/
theorem walk_upset (scenario : Scenario) (poll : Binary64) (graph : Graph) (context : Context) (limit : Nat)
    (v : Run.Visit (Live.World World)) (answer : Answer) {k : Nat} (hbegun : v.world.calls.length < k) :
    let backend := Live.backend scenario.platform poll
    let walk := Run.walk backend graph context limit v.node v.bindings v.generator v.world
    let walk' := Run.walk (Live.backend (scenario.upset k answer).platform poll) graph context limit v.node
      v.bindings v.generator v.world
    walk.1.status ≠ .expired → k ≤ walk.2.calls.length →
      ∃ before u rest call, Run.visits backend graph context limit v = before ++ u :: rest ∧
        u.world.calls.length < k ∧ k ≤ (u.leaves backend graph context).calls.length ∧
        walk.2.calls[k - 1]? = some call ∧
        ∀ fault, answer.fault? scenario.library u.node.errorVariable? call = some fault → walk'.1.status ≠ .expired →
          walk'.2.calls = walk.2.calls.take k ∧
          walk'.1 =
            { status := if before.length + 1 = limit then .stepLimit else .failed
              steps := walk.1.steps.take before.length ++ [⟨u.node.id, u.node.type, .error fault.message⟩]
              bindings := u.bindings
              failure := some ⟨u.node.id, u.node.type, fault⟩ } := by
  intro backend walk walk' hstatus hmade
  rcases Comparison.walk_tracks (scenario.upsetting_holds k answer) poll graph context limit v ⟨rfl, hbegun⟩ with
    ⟨-, -, hcalls⟩ | ⟨before, u, rest, after, left, hvisits, hlimit, ⟨rfl, hu⟩, hparted, hwalk⟩
  · exact absurd hmade (Nat.not_le_of_lt hcalls)
  obtain ⟨made, call, others, hleaves, rfl, hfault⟩ := hparted
  have hmem : u ∈ Run.visits backend graph context limit v := by
    rw [hvisits]
    exact List.mem_append_right before List.mem_cons_self
  have hgrown : made ++ [call] <+: walk.2.calls := by
    refine Run.walk_keeps_of_mem (scenario.keeps_calls poll (made ++ [call])) hmem ?_
    exact ⟨others, by rw [hleaves]; simp⟩
  obtain ⟨more, hmore⟩ := hgrown
  refine ⟨before, u, rest, call, hvisits, hu, ?_, ?_, fun fault hanswer hwhole => ?_⟩
  · rw [hleaves]
    simp
  · rw [← hmore]
    simp
  obtain ⟨hraised | hcut, hcalls⟩ := hfault fault hanswer
  · have hend := Run.walk_of_raised (Reply.eq_raised_of_fate hraised) left
    have hwalk' : walk' = _ := hwalk.trans
      (congrArg (fun others : Result × Live.World World => (others.1.afterAll _, others.2)) hend)
    rw [hwalk', ← hmore]
    refine ⟨hcalls.trans (List.take_left' List.length_append).symm, ?_⟩
    have hlast : left = 0 ↔ before.length + 1 = limit := by omega
    rw [← Run.filterMap_step?_of_visits hstatus hvisits]
    simp only [Result.afterAll, hlast]
    rfl
  · have hend := Run.walk_of_expired (Reply.eq_expired_of_fate hcut) left
    have hwalk' : walk' = _ := hwalk.trans
      (congrArg (fun others : Result × Live.World World => (others.1.afterAll _, others.2)) hend)
    rw [hwalk'] at hwhole
    exact absurd rfl hwhole

end Scenario

/-! ## Executions with a call that fails -/

namespace Live

/-- A call that makes its node fail cuts an execution. It is made during one visit; and if another answer to it
makes the node of that visit fail, and the time is not up, then the calls are those up to it, the steps are
those before the visit and an error, the variables in the result and in the context are those that the visit
met, and the failure names its node. -/
theorem execute_upset (scenario : Scenario) (settings : Settings) (graph : Graph) (generator : Generator)
    {state left : Run.State (World Scenario.World)} {result : Result}
    (hrun : executeIn scenario.platform settings graph generator state = (.ok result, left)) {k : Nat}
    (hbegun : state.world.calls.length < k) (hmade : k ≤ left.world.calls.length) (answer : Scenario.Answer) :
    let context := state.context
    let backend := backend scenario.platform settings.pollInterval
    let begun := adjust scenario.platform (·.allow settings.timeLimit) state.world
    let upset := executeIn (scenario.upset k answer).platform settings graph generator state
    ∃ before v rest call,
      Run.course backend graph context settings.visitLimit generator begun = before ++ v :: rest ∧
      v.world.calls.length < k ∧ k ≤ (v.leaves backend graph context).calls.length ∧
      left.world.calls[k - 1]? = some call ∧
      ∀ fault, answer.fault? scenario.library v.node.errorVariable? call = some fault →
        (∀ seconds, upset.1 ≠ .error (.timeout seconds)) →
        upset.2.world.calls = left.world.calls.take k ∧ upset.2.context.bindings = v.bindings ∧
        upset.1 = .ok
          { status := if before.length + 1 = settings.visitLimit then .stepLimit else .failed
            steps := result.steps.take before.length ++ [⟨v.node.id, v.node.type, .error fault.message⟩]
            bindings := v.bindings
            failure := some ⟨v.node.id, v.node.type, fault⟩ } := by
  intro context backend begun upset
  have hexecute : execute scenario.platform settings graph context generator state.world =
      (.ok result, left.world) := by
    rw [execute, hrun]
  obtain ⟨htime, hstatus, node, after, hfirst, hlimit, ⟨hcourse, hwalk⟩, hleft⟩ := walk_of_execute hexecute
  rw [hleft] at hmade ⊢
  let walk' := Run.walk (Live.backend (scenario.upset k answer).platform settings.pollInterval) graph context
    settings.visitLimit.toNat node context.initialVariables generator begun
  have hupset : (upset.1, upset.2.world) = (ended settings.timeLimit (.ok walk'.1),
      adjust (scenario.upset k answer).platform Clock.free walk'.2) :=
    execute_eq_walk (scenario.upset k answer).platform htime hfirst hlimit context generator state.world
  obtain ⟨hended, hworld⟩ := Prod.mk.inj hupset
  have hcut := scenario.walk_upset settings.pollInterval graph context settings.visitLimit.toNat
    ⟨node, context.initialVariables, generator, begun⟩ answer hbegun
  dsimp only at hcut
  rw [hwalk] at hcut
  obtain ⟨before, v, rest, call, hvisits, hv, hleaves, hcall, hfault⟩ := hcut hstatus hmade
  refine ⟨before, v, rest, call, hcourse.trans hvisits, hv, hleaves, hcall, fun fault hanswer htimely => ?_⟩
  have hwhole : walk'.1.status ≠ .expired :=
    fun hexpired => htimely settings.timeLimit (hended.trans (if_pos hexpired))
  obtain ⟨hcalls, hresult⟩ := hfault fault hanswer hwhole
  have hlast : before.length + 1 = settings.visitLimit.toNat ↔ (before.length : Int) + 1 = settings.visitLimit := by
    omega
  simp only [hlast] at hresult
  have hok : upset.1 = .ok _ :=
    (hended.trans (ended_eq_ok_iff.mpr ⟨rfl, hwhole⟩)).trans (congrArg Except.ok hresult)
  have hcontext : upset.2.context.bindings = v.bindings :=
    congrArg Context.bindings (context_of_executeIn_ok (Prod.ext hok rfl))
  exact ⟨(congrArg World.calls hworld).trans hcalls, hcontext, hok⟩

/-- A wait for a reply that fails. -/
def gone : Scenario.Answer := { fault := some (.action "channel is gone") }

/-- The wait fails after the prompt has been sent. -/
theorem execute_upset_question :
    ∃ result left,
      executeIn Scenario.attentive.platform .usual Scenario.question (.ofSeed 0) ⟨.standIn, ⟨false, {}⟩⟩ =
        (.ok result, left) ∧
      (⟨false, {}⟩ : World Scenario.World).calls.length < 2 ∧ 2 ≤ left.world.calls.length ∧
      let backend := backend Scenario.attentive.platform Settings.usual.pollInterval
      let begun := adjust Scenario.attentive.platform (·.allow Settings.usual.timeLimit) ⟨false, {}⟩
      let upset := executeIn (Scenario.attentive.upset 2 gone).platform .usual Scenario.question (.ofSeed 0)
        ⟨.standIn, ⟨false, {}⟩⟩
      (∀ seconds, upset.1 ≠ .error (.timeout seconds)) ∧
      ∃ before v rest call,
        Run.course backend Scenario.question .standIn Settings.usual.visitLimit (.ofSeed 0) begun =
          before ++ v :: rest ∧
        v.world.calls.length < 2 ∧ 2 ≤ (v.leaves backend Scenario.question .standIn).calls.length ∧
        left.world.calls[1]? = some call ∧
        gone.fault? Scenario.attentive.library v.node.errorVariable? call = some (.action "channel is gone") ∧
        upset.2.world.calls = left.world.calls.take 2 ∧ upset.2.context.bindings = v.bindings ∧
        upset.1 = .ok
          { status := if before.length + 1 = Settings.usual.visitLimit then .stepLimit else .failed
            steps := result.steps.take before.length ++
              [⟨v.node.id, v.node.type, .error (Fault.action "channel is gone").message⟩]
            bindings := v.bindings
            failure := some ⟨v.node.id, v.node.type, .action "channel is gone"⟩ } := by
  have hrequests : (executeIn Scenario.attentive.platform .usual Scenario.question (.ofSeed 0)
      ⟨.standIn, ⟨false, {}⟩⟩).2.world.calls.map (·.isRequest) = [false, false, false] := by decide +kernel
  have hsome : (executeIn Scenario.attentive.platform .usual Scenario.question (.ofSeed 0)
      ⟨.standIn, ⟨false, {}⟩⟩).1.toOption.isSome = true := by decide +kernel
  have hupset : (executeIn (Scenario.attentive.upset 2 gone).platform .usual Scenario.question (.ofSeed 0)
      ⟨.standIn, ⟨false, {}⟩⟩).1.toOption.isSome = true := by decide +kernel
  have htimely (seconds : Binary64) : (executeIn (Scenario.attentive.upset 2 gone).platform .usual
      Scenario.question (.ofSeed 0) ⟨.standIn, ⟨false, {}⟩⟩).1 ≠ .error (.timeout seconds) := by
    intro htimeout
    rw [htimeout] at hupset
    cases hupset
  rcases hrun : executeIn Scenario.attentive.platform .usual Scenario.question (.ofSeed 0)
    ⟨.standIn, ⟨false, {}⟩⟩ with ⟨stop | result, left⟩
  · rw [hrun] at hsome
    cases hsome
  rw [hrun] at hrequests
  have hmade : 2 ≤ left.world.calls.length := by
    have hlength := congrArg List.length hrequests
    rw [List.length_map] at hlength
    exact hlength ▸ (by decide : 2 ≤ 3)
  have hcut := execute_upset Scenario.attentive .usual Scenario.question (.ofSeed 0) hrun (by decide : 0 < 2)
    hmade gone
  dsimp only at hcut
  obtain ⟨before, v, rest, call, hcourse, hv, hleaves, hcall, hfault⟩ := hcut
  have hrequest : call.isRequest = false := by
    have hsecond := congrArg (·[1]?) hrequests
    simp only [List.getElem?_map, hcall] at hsecond
    exact Option.some.inj hsecond
  have hgone : gone.fault? Scenario.attentive.library v.node.errorVariable? call = some (.action "channel is gone") :=
    Scenario.Answer.fault?_of_isRequest hrequest Scenario.attentive.library v.node.errorVariable?
  exact ⟨result, left, rfl, by decide, hmade, htimely, before, v, rest, call, hcourse, hv, hleaves, hcall, hgone,
    hfault _ hgone htimely⟩

example :
    (execute (Scenario.attentive.upset 2 gone).platform .usual Scenario.question .standIn (.ofSeed 0)
      ⟨false, {}⟩).1.toOption.map (fun result => (result.path, result.status)) =
        some (["begin", "ask"], .failed) := by
  decide +kernel

end Live

end CommandFlow
