import CommandFlow.Proofs.Run.Scenario

/-!
# Two runs compared

Two live runs go together call by call, until they part.

* `Comparison` : when two runs go together, and what holds once they have parted; `Comparison.Tracks` : two answers
  are the same, or have parted;
* `Comparison.Holds` : the calls that runs make are answered so in two scenarios;
* `Comparison.visit_tracks` : then so are visits;
* `Comparison.walk_tracks` : two walks are the same, or they are so up to a visit at which they part.
-/

namespace CommandFlow

/-- How a call ends. -/
def Reply.fate {α : Type} : Reply α → Reply Unit
  | .done _ => .done ()
  | .raised fault => .raised fault
  | .expired => .expired

theorem Reply.eq_expired_of_fate {α : Type} {reply : Reply α} (h : reply.fate = .expired) :
    reply = .expired := by
  cases reply with
  | expired => rfl
  | done a => cases h
  | raised fault => cases h

theorem Reply.eq_raised_of_fate {α : Type} {reply : Reply α} {fault : Fault}
    (h : reply.fate = .raised fault) : reply = .raised fault := by
  cases reply with
  | raised fault' =>
    cases h
    rfl
  | done a => cases h
  | expired => cases h

/-- The result of a run that makes these steps first. -/
def Result.afterAll (steps : List Step) (result : Result) : Result :=
  { result with steps := steps ++ result.steps }

namespace Scenario

/-! ## Runs in two scenarios -/

/-- When two live runs go together, and what holds once they have parted: of the node at which they did, the
calls of the first one, how the second one ended there, and its calls. -/
structure Comparison where
  together : Live.World World → Live.World World → Prop
  parted : Node → List Rehearsal.Call → Reply Unit → List Rehearsal.Call → Prop
  mark : ∀ {world world'}, together world world' →
    together { world with hasReplied := true } { world' with hasReplied := true }
  mono : ∀ {node calls fate calls' more}, parted node calls fate calls' → calls <+: more →
    parted node more fate calls'
  /-- Whoever has parted does not go on. -/
  final : ∀ {node calls fate calls' calls''}, parted node calls (.done ()) calls' →
    parted node calls fate calls''

namespace Comparison

variable (comparison : Comparison)

/-- The two answers are the same and the runs go together, or the runs have parted. -/
def Tracks (node : Node) {α : Type} (answer answer' : Reply α × Live.World World) : Prop :=
  (answer'.1 = answer.1 ∧ comparison.together answer.2 answer'.2) ∨
    comparison.parted node answer.2.calls answer'.1.fate answer'.2.calls

/-- The answers that two scenarios give to the calls of a run. -/
structure Holds (first second : Scenario) : Prop where
  library : second.library = first.library
  responded : ∀ {world world'}, comparison.together world world' →
    (world'.hasReplied || second.hasResponded world'.calls) =
      (world.hasReplied || first.hasResponded world.calls)
  made : ∀ node {α : Type} (call : Rehearsal.Call) (value : Answer → α) {world world'},
    call.isRequest = false → comparison.together world world' →
    comparison.Tracks node (Live.call (first.make call value) world)
      (Live.call (second.make call value) world')
  requested : ∀ (node : Node) (action : Action) (request : Http.Request) {world world'},
    action.errorVariable = node.errorVariable? → comparison.together world world' →
    comparison.Tracks node
      (Prod.map (Run.written action) id (Live.call (first.request request) world))
      (Prod.map (Run.written action) id (Live.call (second.request request) world'))
  slept : ∀ node ticks {world world'}, comparison.together world world' →
    comparison.Tracks node (Live.call (first.platform.sleep ticks) world)
      (Live.call (second.platform.sleep ticks) world')

section
variable {comparison} {node : Node}

theorem tracks_of_eq {α : Type} {reply : Reply α} {world world' : Live.World World}
    (h : comparison.together world world') : comparison.Tracks node (reply, world) (reply, world') :=
  .inl ⟨rfl, h⟩

theorem Tracks.andThen {α β : Type} {answer answer' : Reply α × Live.World World}
    {next next' : α → Live.World World → Reply β × Live.World World}
    (h : comparison.Tracks node answer answer')
    (hcalls : ∀ a world, world.calls <+: (next a world).2.calls)
    (hnext : ∀ a {world world'}, comparison.together world world' →
      comparison.Tracks node (next a world) (next' a world')) :
    comparison.Tracks node (Run.andThen answer next) (Run.andThen answer' next') := by
  rcases h with ⟨hreply, hworld⟩ | hparted
  · obtain ⟨reply, world⟩ := answer
    obtain ⟨reply', world'⟩ := answer'
    dsimp only at hreply hworld
    subst hreply
    cases reply' with
    | done a => exact hnext a hworld
    | raised fault => exact tracks_of_eq hworld
    | expired => exact tracks_of_eq hworld
  · right
    -- The first run may go on and adds calls; the second one does not.
    have hgrows : answer.2.calls <+: (Run.andThen answer next).2.calls :=
      Run.andThen_keeps (I := fun after : Live.World World => answer.2.calls <+: after.calls)
        List.prefix_rfl fun a world h => h.trans (hcalls a world)
    have hmore := comparison.mono hparted hgrows
    obtain ⟨reply', world'⟩ := answer'
    cases reply' with
    | done a => exact comparison.final hmore
    | raised fault => exact hmore
    | expired => exact hmore

/-- What an answer to an action writes does not matter once the runs have parted. -/
theorem Tracks.written {answer answer' : Reply ActionResult × Live.World World}
    (h : comparison.Tracks node answer answer') (action : Action) :
    comparison.Tracks node (Prod.map (Run.written action) id answer)
      (Prod.map (Run.written action) id answer') := by
  rcases h with ⟨hreply, hworld⟩ | hparted
  · exact .inl ⟨congrArg (Run.written action) hreply, hworld⟩
  · right
    obtain ⟨reply', world'⟩ := answer'
    cases reply' with
    | done a => exact comparison.final hparted
    | raised fault => exact hparted
    | expired => exact hparted

theorem tracks_callIf {α : Type} {call call' : α → Live.World World → Reply Unit × Live.World World}
    (hcall : ∀ a {world world'}, comparison.together world world' →
      comparison.Tracks node (call a world) (call' a world')) (a? : Option α)
    {world world' : Live.World World} (hworld : comparison.together world world') :
    comparison.Tracks node (Run.callIf call a? world) (Run.callIf call' a? world') := by
  cases a? with
  | none => exact tracks_of_eq hworld
  | some a => exact hcall a hworld

end

end Comparison

/-! ## Visits in two scenarios -/

theorem call_andThen {σ α β : Type} (make : σ → Reply α × σ) (next : α → σ → Reply β × σ)
    (world : Live.World σ) :
    Live.call (fun outside => Run.andThen (make outside) next) world =
      Run.andThen (Live.call make world) fun a => Live.call (next a) := by
  simp only [Live.call]
  obtain ⟨reply, outside⟩ := make world.outside
  cases reply <;> rfl

namespace Comparison

section
variable {comparison : Comparison} {first second : Scenario} (h : comparison.Holds first second)
  (node : Node)

include h

theorem emit_tracks (output : Output) {world world' : Live.World World}
    (hworld : comparison.together world world') :
    comparison.Tracks node (Live.emit first.platform output world)
      (Live.emit second.platform output world') := by
  have hresponded : (world'.hasReplied || second.platform.hasResponded world'.outside) =
      (world.hasReplied || first.platform.hasResponded world.outside) := h.responded hworld
  unfold Live.emit
  rw [hresponded]
  split
  · exact h.made node (.followUp output.payload) (fun _ => ()) rfl hworld
  · have hmade := h.made node (.respond output.payload) (fun _ => ()) rfl hworld
    exact hmade.andThen (fun _ _ => List.prefix_rfl) fun _ _ _ hworld =>
      .inl ⟨rfl, comparison.mark hworld⟩

theorem make_tracks {α : Type} (call : Rehearsal.Call) (value : Answer → α) (result : α → ActionResult)
    (hcall : call.isRequest = false) {world world' : Live.World World}
    (hworld : comparison.together world world') :
    comparison.Tracks node
      (Live.call (fun outside => Run.andThen (first.make call value outside)
        fun a outside => (.done (result a), outside)) world)
      (Live.call (fun outside => Run.andThen (second.make call value outside)
        fun a outside => (.done (result a), outside)) world') := by
  have hmade := h.made node call value hcall hworld
  rw [call_andThen, call_andThen]
  exact hmade.andThen (fun _ _ => List.prefix_rfl) fun _ _ _ => tracks_of_eq

theorem perform_tracks (poll : Binary64) (action : Action)
    (herror : action.errorVariable = node.errorVariable?) {world world' : Live.World World}
    (hworld : comparison.together world world') :
    comparison.Tracks node
      (Prod.map (Run.written action) id (Live.call (Live.perform first.platform poll action.task) world))
      (Prod.map (Run.written action) id
        (Live.call (Live.perform second.platform poll action.task) world')) := by
  cases htask : action.task with
  | addRole guildId userId roleId =>
    refine Tracks.written ?_ action
    exact make_tracks h node (.addRole guildId userId roleId) (fun _ => ()) (fun _ => {}) rfl hworld
  | removeRole guildId userId roleId =>
    refine Tracks.written ?_ action
    exact make_tracks h node (.removeRole guildId userId roleId) (fun _ => ()) (fun _ => {}) rfl hworld
  | awaitReply timeout userId channelId =>
    refine Tracks.written ?_ action
    unfold Live.perform Live.withSeconds
    dsimp only
    cases Live.seconds? timeout with
    | none => exact tracks_of_eq hworld
    | some seconds =>
      exact make_tracks h node (.wait ⟨channelId, userId, seconds, poll⟩) (·.message)
        (fun value => { value }) rfl hworld
  | call url method headers body =>
    have hlibrary : second.platform.library = first.platform.library := h.library
    unfold Live.perform Live.fetch
    dsimp only
    rw [hlibrary]
    split
    · exact tracks_of_eq hworld
    · rename_i request _
      have htracks := h.requested node action request herror hworld
      unfold Scenario.request at htracks
      rwa [h.library] at htracks

theorem performIf_tracks (poll : Binary64) (action? : Option Action)
    (herror : ∀ action, action? = some action → action.errorVariable = node.errorVariable?)
    {world world' : Live.World World} (hworld : comparison.together world world') :
    comparison.Tracks node (Run.performIf (Live.backend first.platform poll) action? world)
      (Run.performIf (Live.backend second.platform poll) action? world') := by
  cases action? with
  | none => exact tracks_of_eq hworld
  | some action =>
    rw [Run.performIf_some, Run.performIf_some]
    exact perform_tracks h node poll action (herror action rfl) hworld

theorem pause_tracks (poll : Binary64) (milliseconds : Nat) {world world' : Live.World World}
    (hworld : comparison.together world world') :
    comparison.Tracks node ((Live.backend first.platform poll).pause milliseconds world)
      ((Live.backend second.platform poll).pause milliseconds world') := by
  simp only [Live.backend, Live.withSeconds]
  split
  · exact tracks_of_eq hworld
  · exact h.slept node _ hworld

theorem realize_tracks (poll : Binary64) (outcome : Outcome)
    (herror : ∀ action, outcome.action = some action → action.errorVariable = node.errorVariable?)
    {world world' : Live.World World} (hworld : comparison.together world world') :
    comparison.Tracks node (Run.realize (Live.backend first.platform poll) outcome world)
      (Run.realize (Live.backend second.platform poll) outcome world') := by
  have hpause (calls : List Rehearsal.Call) (world : Live.World World) (hcalls : calls <+: world.calls) :
      calls <+: (Run.callIf (Live.backend first.platform poll).pause outcome.delay world).2.calls :=
    Run.callIf_keeps (first.keeps_calls poll calls).pause outcome.delay hcalls
  refine Tracks.andThen (tracks_callIf (fun output _ _ => emit_tracks h node output) _ hworld)
    (fun _ world => ?_) fun _ world world' hworld => ?_
  · have hkeeps := first.keeps_calls poll world.calls
    refine Run.andThen_keeps (I := fun after => world.calls <+: Live.World.calls after)
      (Run.performIf_keeps hkeeps _ List.prefix_rfl) fun _ after hcalls => ?_
    exact Run.andThen_keeps (I := fun after => world.calls <+: Live.World.calls after)
      (hpause _ after hcalls) fun _ _ hcalls => hcalls
  refine Tracks.andThen (performIf_tracks h node poll _ herror hworld)
    (fun _ world => ?_) fun _ world world' hworld => ?_
  · exact Run.andThen_keeps (I := fun after => world.calls <+: Live.World.calls after)
      (hpause _ world List.prefix_rfl) fun _ _ hcalls => hcalls
  exact Tracks.andThen (tracks_callIf (fun ms _ _ => pause_tracks h node poll ms) _ hworld)
    (fun _ _ => List.prefix_rfl) fun _ _ _ => tracks_of_eq

omit node in
theorem visit_tracks (poll : Binary64) (graph : Graph) (context : Context)
    (v : Run.Visit (Live.World World)) {world' : Live.World World}
    (hworld : comparison.together v.world world') :
    let backend := Live.backend first.platform poll
    let other := Live.backend second.platform poll
    comparison.Tracks v.node (v.reply backend graph context, v.leaves backend graph context)
      ((v.moved world').reply other graph context, (v.moved world').leaves other graph context) := by
  simp only [Run.Visit.reply, Run.Visit.leaves, Run.Visit.moved, Run.visit]
  cases houtcome : v.node.outcome v.bindings context graph.declarations v.generator with
  | mk answer after =>
    cases answer with
    | error fault => exact tracks_of_eq hworld
    | ok outcome =>
      have herror (action : Action) (haction : outcome.action = some action) :
          action.errorVariable = v.node.errorVariable? := Node.errorVariable_of_outcome houtcome haction
      exact (realize_tracks h v.node poll outcome herror hworld).andThen (fun _ _ => List.prefix_rfl)
        fun _ _ _ => tracks_of_eq

/-! ## Walks in two scenarios -/

omit node in
/-- Two walks are the same, or they are so up to a visit at which they part. Up to there the second one makes
the visits of the first one, each in a world of its own, and from there it goes on as it will. -/
theorem walk_tracks (poll : Binary64) (graph : Graph) (context : Context) (limit : Nat)
    (v : Run.Visit (Live.World World)) {world' : Live.World World}
    (hworld : comparison.together v.world world') :
    let backend := Live.backend first.platform poll
    let other := Live.backend second.platform poll
    let walk := Run.walk backend graph context limit v.node v.bindings v.generator v.world
    let walk' := Run.walk other graph context limit v.node v.bindings v.generator world'
    walk'.1 = walk.1 ∧ comparison.together walk.2 walk'.2 ∨
      ∃ before u rest after left,
        Run.visits backend graph context limit v = before ++ u :: rest ∧
        limit = before.length + (left + 1) ∧ comparison.together u.world after ∧
        comparison.parted u.node (u.leaves backend graph context).calls
          ((u.moved after).reply other graph context).fate
          ((u.moved after).leaves other graph context).calls ∧
        walk' =
          let others := Run.walk other graph context (left + 1) u.node u.bindings u.generator after
          (others.1.afterAll (before.filterMap (·.step? backend graph context)), others.2) := by
  intro backend other
  induction limit, v using Run.walk_induction backend graph context generalizing world' with
  | zero v => exact .inl ⟨rfl, hworld⟩
  | last limit v hnext =>
    rcases visit_tracks h poll graph context v hworld with ⟨hreply, hleaves⟩ | hparted
    · left
      have hnext' : (v.moved world').next? other graph context = none := by
        rw [Run.Visit.next?_moved hreply, hnext]
        rfl
      rw [show Run.walk other graph context (limit + 1) v.node v.bindings v.generator world' = _ from
          Run.walk_of_next?_eq_none hnext' limit, Run.walk_of_next?_eq_none hnext]
      exact ⟨Run.Visit.result_moved hreply limit, hleaves⟩
    · right
      exact ⟨[], v, [], world', limit, Run.visits_of_next?_eq_none hnext limit, (Nat.zero_add _).symm,
        hworld, hparted, rfl⟩
  | next limit v w hnext ih =>
    rcases visit_tracks h poll graph context v hworld with ⟨hreply, hleaves⟩ | hparted
    · have hnext' : (v.moved world').next? other graph context =
          some (w.moved ((v.moved world').leaves other graph context)) := by
        rw [Run.Visit.next?_moved hreply, hnext]
        rfl
      obtain ⟨step, hstep, hwalk⟩ := Run.walk_of_next?_eq_some hnext limit
      have hwalk' := Run.walk_of_step? hnext' ((Run.Visit.step?_moved hreply).trans hstep) limit
      rw [show Run.walk other graph context (limit + 1) v.node v.bindings v.generator world' = _ from hwalk',
        hwalk, Run.visits_of_next?_eq_some hnext]
      have htogether : comparison.together w.world ((v.moved world').leaves other graph context) := by
        rw [Run.world_of_next?_eq_some hnext]
        exact hleaves
      rcases ih htogether with
        ⟨hresult, hafter⟩ | ⟨before, u, rest, after, left, hvisits, hlimit, hu, hparted, hrest⟩
      · exact .inl ⟨congrArg (Result.after step) hresult, hafter⟩
      · right
        refine ⟨v :: before, u, rest, after, left, congrArg (v :: ·) hvisits, ?_, hu, hparted, ?_⟩
        · rw [hlimit, List.length_cons]
          omega
        · refine (congrArg (fun answer => (Result.after step answer.1, answer.2)) hrest).trans ?_
          rw [List.filterMap_cons_some hstep]
          rfl
    · -- What follows in the second scenario is kept as a walk of its own.
      right
      exact ⟨[], v, _, world', limit, Run.visits_of_next?_eq_some hnext limit, (Nat.zero_add _).symm,
        hworld, hparted, rfl⟩

end

end Comparison

end Scenario

end CommandFlow
