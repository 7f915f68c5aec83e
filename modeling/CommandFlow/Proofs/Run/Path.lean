import CommandFlow.Proofs.Run.Outcome
import CommandFlow.Run.Simulation
import Mathlib.Data.List.Chain
import Mathlib.Data.List.Forall2

/-!
# The path of a run

The steps of a run are one path through its graph.

* `Graph.Defines` : a node is the first of the document that has an identifier;
* `Run.Visit` : a node and what it meets; `Run.Passes`, `Run.Fails` : how a visit can end;
* `Run.Leads` : one visit follows another along the edge that its node is left by;
* `Run.IsPath` : a list of visits accounts for the steps of a result and for its status;
* `Run.exists_isPath_walk` : every walk has such a list; `Run.exists_isRun` : so has every run, and the list
  begins at the first start node.
-/

namespace CommandFlow

/-! ## The node of an identifier -/

/-- The node is the first of the document that has the identifier. -/
def Graph.Defines (graph : Graph) (id : String) (node : Node) : Prop :=
  node.id = id ∧ ∃ before after, graph.nodes = before ++ node :: after ∧ ∀ other ∈ before, other.id ≠ id

theorem Graph.find?_eq_some_iff (graph : Graph) (id : String) (node : Node) :
    graph.find? id = some node ↔ graph.Defines id node := by
  simp [Graph.find?, Graph.Defines, List.find?_eq_some_iff_append]

theorem Graph.find?_eq_none_iff (graph : Graph) (id : String) :
    graph.find? id = none ↔ ∀ node ∈ graph.nodes, node.id ≠ id := by
  simp [Graph.find?]

theorem Graph.isSome_find?_of_mem {graph : Graph} {node : Node} (h : node ∈ graph.nodes) :
    (graph.find? node.id).isSome = true := by
  rw [Graph.find?, List.find?_isSome]
  exact ⟨node, h, by simp⟩

/-- The edge that a node is left by is one of its edges. -/
theorem mem_of_route {type : NodeType} {edges : List Edge} {branch : Option String} {edge : Edge}
    (h : route type edges branch = some edge) : edge ∈ edges := by
  unfold route at h
  split at h
  · exact List.mem_of_find?_eq_some h
  · exact List.mem_of_head? h

def Step.isError (step : Step) : Bool :=
  match step.report with
  | .error _ => true
  | .success _ => false

/-- Every call is answered or refused; none is cut off. -/
structure Backend.Answers {σ : Type} (backend : Backend σ) : Prop where
  emit : ∀ output world, (backend.emit output world).1 ≠ .expired
  perform : ∀ action world, (backend.perform action world).1 ≠ .expired
  pause : ∀ milliseconds world, (backend.pause milliseconds world).1 ≠ .expired

namespace Run

variable {σ : Type}

/-! ## Visits -/

/-- A node that is visited, and the variables, the generator and the world that it meets. -/
structure Visit (σ : Type) where
  node : Node
  bindings : Variables
  generator : Generator
  world : σ

section
variable (backend : Backend σ) (graph : Graph) (context : Context)

/-- The handler of the node returns an outcome, and all that it asks for is done: the node writes
variables, and leaves a generator and a world. -/
structure Passes (v : Visit σ) (outcome : Outcome) (writes : Variables) (generator : Generator)
    (world : σ) : Prop where
  handled : v.node.outcome v.bindings context graph.declarations v.generator = (.ok outcome, generator)
  realized : realize backend outcome v.world = (.done writes, world)

/-- The handler of the node fails, or a call that its outcome asks for. -/
def Fails (v : Visit σ) (fault : Fault) : Prop :=
  (v.node.outcome v.bindings context graph.declarations v.generator).1 = .error fault ∨
    ∃ outcome, (v.node.outcome v.bindings context graph.declarations v.generator).1 = .ok outcome ∧
      (realize backend outcome v.world).1 = .raised fault

/-- A call that the outcome of the node asks for is cut off. -/
def IsCut (v : Visit σ) : Prop :=
  ∃ outcome, (v.node.outcome v.bindings context graph.declarations v.generator).1 = .ok outcome ∧
    (realize backend outcome v.world).1 = .expired

/-- The second visit follows the first: it meets what the first one leaves, at the node that the taken edge
leads to. -/
def Leads (v w : Visit σ) : Prop :=
  v.node.type ≠ .finish ∧ ∃ outcome writes,
    Passes backend graph context v outcome writes w.generator w.world ∧
    w.bindings = Entries.merge v.bindings writes ∧
    ∃ edge, route v.node.type (graph.outgoing v.node.id) outcome.branch = some edge ∧
      graph.Defines edge.target w.node

/-- The visit succeeds at a node other than an end node, and no edge is taken or the taken one leads
nowhere. -/
def Stops (v : Visit σ) : Prop :=
  v.node.type ≠ .finish ∧ ∃ outcome writes generator world,
    Passes backend graph context v outcome writes generator world ∧
    ∀ edge, route v.node.type (graph.outgoing v.node.id) outcome.branch = some edge →
      ∀ node ∈ graph.nodes, node.id ≠ edge.target

/-- The step records the visit. -/
def Records (v : Visit σ) (step : Step) : Prop :=
  step.nodeId = v.node.id ∧ step.type = v.node.type ∧
    ((∃ outcome writes generator world, Passes backend graph context v outcome writes generator world ∧
        step.report = .success outcome.detail) ∨
      ∃ fault, Fails backend graph context v fault ∧ step.report = .error fault.message)

/-- The visits account for a result: they are recorded as its steps, each leads to the next, only the last one
may fail or be at an end node, and unless the limit is reached the last one decides the status. -/
structure IsPath (limit : Nat) (visits : List (Visit σ)) (result : Result) : Prop where
  steps : List.Forall₂ (Records backend graph context) visits result.steps
  leads : visits.IsChain (Leads backend graph context)
  inner : ∀ step ∈ result.steps.dropLast, step.isError = false ∧ step.type ≠ .finish
  failed : result.steps.length < limit →
    (result.status = .failed ↔ ∃ step ∈ result.steps.getLast?, step.isError = true)
  completed : result.steps.length < limit →
    (result.status = .completed ↔
      ∃ step ∈ result.steps.getLast?, step.isError = false ∧ step.type = .finish)
  stopped : result.steps.length < limit →
    (result.status = .stopped ↔ ∃ v ∈ visits.getLast?, Stops backend graph context v)
  failure : result.failure.isSome = true ↔ ∃ step ∈ result.steps.getLast?, step.isError = true

end

/-! ## How a visit ends -/

section
variable {backend : Backend σ} {graph : Graph} {context : Context}

theorem visit_of_passes {v : Visit σ} {outcome : Outcome} {writes : Variables}
    {generator : Generator} {world : σ}
    (h : Passes backend graph context v outcome writes generator world) :
    visit backend graph context v.node v.bindings v.generator v.world =
      ((.done (outcome, writes), world), generator) := by
  simp only [visit, h.handled, h.realized, andThen]

variable (backend graph context) in
/-- A visit passes, fails or is cut off. -/
theorem visit_cases (v : Visit σ) :
    (∃ outcome writes generator world, Passes backend graph context v outcome writes generator world) ∨
    (∃ fault generator world, Fails backend graph context v fault ∧
      visit backend graph context v.node v.bindings v.generator v.world =
        ((.raised fault, world), generator)) ∨
    (∃ generator world, IsCut backend graph context v ∧
      visit backend graph context v.node v.bindings v.generator v.world =
        ((.expired, world), generator)) := by
  cases houtcome : v.node.outcome v.bindings context graph.declarations v.generator with
  | mk answer generator =>
    cases answer with
    | error fault =>
      refine .inr (.inl ⟨fault, generator, v.world, .inl (by rw [houtcome]), ?_⟩)
      simp only [visit, houtcome]
    | ok outcome =>
      cases hrealize : realize backend outcome v.world with
      | mk reply world =>
        cases reply with
        | done writes => exact .inl ⟨outcome, writes, generator, world, houtcome, hrealize⟩
        | raised fault =>
          refine .inr (.inl ⟨fault, generator, world,
            .inr ⟨outcome, by rw [houtcome], by rw [hrealize]⟩, ?_⟩)
          simp only [visit, houtcome, hrealize, andThen]
        | expired =>
          refine .inr (.inr ⟨generator, world, ⟨outcome, by rw [houtcome], by rw [hrealize]⟩, ?_⟩)
          simp only [visit, houtcome, hrealize, andThen]

theorem Passes.unique {v : Visit σ} {outcome outcome' : Outcome} {writes writes' : Variables}
    {generator generator' : Generator} {world world' : σ}
    (h : Passes backend graph context v outcome writes generator world)
    (h' : Passes backend graph context v outcome' writes' generator' world') :
    outcome' = outcome ∧ writes' = writes := by
  have houtcome := h'.handled
  rw [h.handled] at houtcome
  cases houtcome
  have hwrites := h'.realized
  rw [h.realized] at hwrites
  cases hwrites
  exact ⟨rfl, rfl⟩

theorem Passes.terminal_iff {v : Visit σ} {outcome : Outcome} {writes : Variables}
    {generator : Generator} {world : σ}
    (h : Passes backend graph context v outcome writes generator world) :
    outcome.terminal = true ↔ v.node.type = .finish :=
  (Node.fits_of_outcome h.handled).terminal

theorem successor?_eq_some_iff (graph : Graph) (node : Node) (branch : Option String) (next : Node) :
    successor? graph node branch = some next ↔
      ∃ edge, route node.type (graph.outgoing node.id) branch = some edge ∧
        graph.Defines edge.target next := by
  simp only [successor?, Option.bind_eq_some_iff, Graph.find?_eq_some_iff]

theorem successor?_eq_none_iff (graph : Graph) (node : Node) (branch : Option String) :
    successor? graph node branch = none ↔
      ∀ edge, route node.type (graph.outgoing node.id) branch = some edge →
        ∀ other ∈ graph.nodes, other.id ≠ edge.target := by
  simp only [successor?, Option.bind_eq_none_iff, Graph.find?_eq_none_iff]

/-! ## Paths -/

theorem isPath_singleton {limit : Nat} {v : Visit σ} {step : Step} {result : Result}
    (hsteps : result.steps = [step]) (hrecords : Records backend graph context v step)
    (hfailed : 1 < limit → (result.status = .failed ↔ step.isError = true))
    (hcompleted : 1 < limit →
      (result.status = .completed ↔ step.isError = false ∧ step.type = .finish))
    (hstopped : 1 < limit → (result.status = .stopped ↔ Stops backend graph context v))
    (hfailure : result.failure.isSome = true ↔ step.isError = true) :
    IsPath backend graph context limit [v] result where
  steps := by
    rw [hsteps]
    exact .cons hrecords .nil
  leads := List.isChain_singleton v
  inner := by simp [hsteps]
  failed := by simpa [hsteps] using hfailed
  completed := by simpa [hsteps] using hcompleted
  stopped := by simpa [hsteps] using hstopped
  failure := by simpa [hsteps] using hfailure

theorem IsPath.cons {limit : Nat} {v : Visit σ} {visits : List (Visit σ)} {step : Step} {result : Result}
    (h : IsPath backend graph context limit visits result)
    (hempty : visits = [] → limit = 0 ∨ result.status = .expired)
    (hrecords : Records backend graph context v step) (herror : step.isError = false)
    (htype : step.type ≠ .finish) (hstops : ¬ Stops backend graph context v)
    (hleads : ∀ w ∈ visits.head?, Leads backend graph context v w) :
    IsPath backend graph context (limit + 1) (v :: visits) (result.after step) := by
  cases visits with
  | nil =>
    have hsteps : result.steps = [] := List.forall₂_nil_left_iff.mp h.steps
    have hfailure : result.failure.isSome = false := by simpa [hsteps] using h.failure
    -- the walk goes on to a node that leaves no step: the limit is reached or the time is up
    have hstatus : (result.after step).steps.length < limit + 1 →
        (result.after step).status = .expired := by
      intro hlimit
      refine (hempty rfl).resolve_left fun hzero => ?_
      simp [Result.after, hzero] at hlimit
    refine isPath_singleton (by simp [Result.after, hsteps]) hrecords ?_ ?_ ?_ ?_
    · intro hlimit
      rw [hstatus (by simpa [Result.after, hsteps] using hlimit)]
      simp [herror]
    · intro hlimit
      rw [hstatus (by simpa [Result.after, hsteps] using hlimit)]
      simp [htype]
    · intro hlimit
      rw [hstatus (by simpa [Result.after, hsteps] using hlimit)]
      simp [hstops]
    · simp [Result.after, hfailure, herror]
  | cons w rest =>
    obtain ⟨first, others, -, -, hsteps⟩ := List.forall₂_cons_left_iff.mp h.steps
    have hlast : (result.after step).steps.getLast? = result.steps.getLast? := by
      simp [Result.after, hsteps]
    have hlength : (result.after step).steps.length < limit + 1 ↔ result.steps.length < limit := by
      simp [Result.after]
    refine ⟨.cons hrecords h.steps, ?_, ?_, ?_, ?_, ?_, ?_⟩
    · exact List.isChain_cons_cons.mpr ⟨hleads w rfl, h.leads⟩
    · have hinner := h.inner
      rw [hsteps] at hinner
      simp only [Result.after, hsteps, List.dropLast_cons_cons, List.mem_cons, forall_eq_or_imp]
      exact ⟨⟨herror, htype⟩, by simpa using hinner⟩
    · rw [hlast, hlength]
      exact h.failed
    · rw [hlast, hlength]
      exact h.completed
    · rw [hlength, List.getLast?_cons_cons]
      exact h.stopped
    · rw [hlast]
      exact h.failure

theorem Passes.records {v : Visit σ} {outcome : Outcome} {writes : Variables} {generator : Generator}
    {world : σ} (h : Passes backend graph context v outcome writes generator world) :
    Records backend graph context v ⟨v.node.id, v.node.type, .success outcome.detail⟩ :=
  ⟨rfl, rfl, .inl ⟨outcome, writes, generator, world, h, rfl⟩⟩

theorem Passes.stops_iff {v : Visit σ} {outcome : Outcome} {writes : Variables} {generator : Generator}
    {world : σ} (h : Passes backend graph context v outcome writes generator world) :
    Stops backend graph context v ↔
      v.node.type ≠ .finish ∧ successor? graph v.node outcome.branch = none := by
  rw [Stops, successor?_eq_none_iff]
  constructor
  · rintro ⟨htype, outcome', writes', generator', world', h', hnone⟩
    obtain ⟨rfl, -⟩ := h.unique h'
    exact ⟨htype, hnone⟩
  · rintro ⟨htype, hnone⟩
    exact ⟨htype, outcome, writes, generator, world, h, hnone⟩

theorem Fails.not_stops {v : Visit σ} {fault : Fault} (h : Fails backend graph context v fault) :
    ¬ Stops backend graph context v := by
  rintro ⟨-, outcome, writes, generator, world, hpasses, -⟩
  rcases h with h | ⟨outcome', houtcome, hraised⟩
  · rw [hpasses.handled] at h
    cases h
  · rw [hpasses.handled] at houtcome
    cases houtcome
    rw [hpasses.realized] at hraised
    cases hraised

variable (backend graph context) in
/-- Visits account for every walk. The first of them is the one that the walk begins with, there is none only
if the walk has no visits left or its time is up, and the time is up only if a visit is cut off. -/
theorem exists_isPath_walk (limit : Nat) (v : Visit σ) :
    ∃ visits, IsPath backend graph context limit visits
        (walk backend graph context limit v.node v.bindings v.generator v.world).1 ∧
      (∀ w ∈ visits.head?, w = v) ∧
      (visits = [] → limit = 0 ∨
        (walk backend graph context limit v.node v.bindings v.generator v.world).1.status = .expired) ∧
      ((walk backend graph context limit v.node v.bindings v.generator v.world).1.status = .expired →
        ∃ w : Visit σ, IsCut backend graph context w) := by
  induction limit generalizing v with
  | zero =>
    refine ⟨[], ⟨.nil, .nil, ?_, ?_, ?_, ?_, ?_⟩, ?_, ?_, ?_⟩ <;> simp [walk]
  | succ limit ih =>
    rw [walk]
    rcases visit_cases backend graph context v with
      ⟨outcome, writes, generator, world, h⟩ | ⟨fault, generator, world, h, hvisit⟩ |
      ⟨generator, world, h, hvisit⟩
    · simp only [visit_of_passes h]
      by_cases hterminal : outcome.terminal = true
      · have htype : v.node.type = .finish := h.terminal_iff.mp hterminal
        rw [if_pos hterminal]
        refine ⟨[v], isPath_singleton rfl h.records ?_ ?_ ?_ ?_, by simp, by simp, ?_⟩
        · intro hlimit
          simp [show limit ≠ 0 by omega, Step.isError]
        · intro hlimit
          simp [show limit ≠ 0 by omega, Step.isError, htype]
        · intro hlimit
          simp [show limit ≠ 0 by omega, h.stops_iff, htype]
        · simp [Step.isError]
        · exact fun hstatus => absurd hstatus (by dsimp only; split <;> simp)
      · have htype : v.node.type ≠ .finish := fun hfinish => hterminal (h.terminal_iff.mpr hfinish)
        rw [if_neg hterminal]
        cases hnext : successor? graph v.node outcome.branch with
        | none =>
          refine ⟨[v], isPath_singleton rfl h.records ?_ ?_ ?_ ?_, by simp, by simp, ?_⟩
          · intro hlimit
            simp [show limit ≠ 0 by omega, Step.isError]
          · intro hlimit
            simp [show limit ≠ 0 by omega, htype]
          · intro hlimit
            simp [show limit ≠ 0 by omega, h.stops_iff, htype, hnext]
          · simp [Step.isError]
          · exact fun hstatus => absurd hstatus (by dsimp only; split <;> simp)
        | some next =>
          obtain ⟨visits, hpath, hhead, hempty, hcut⟩ :=
            ih ⟨next, Entries.merge v.bindings writes, generator, world⟩
          refine ⟨v :: visits, hpath.cons hempty h.records rfl htype ?_ ?_, by simp, by simp, hcut⟩
          · rw [h.stops_iff, hnext]
            simp
          · intro w hw
            rw [hhead w hw]
            obtain ⟨edge, hedge, hdefines⟩ := (successor?_eq_some_iff _ _ _ _).mp hnext
            exact ⟨htype, outcome, writes, h, rfl, edge, hedge, hdefines⟩
    · simp only [hvisit]
      refine ⟨[v], isPath_singleton rfl ⟨rfl, rfl, .inr ⟨fault, h, rfl⟩⟩ ?_ ?_ ?_ ?_, by simp,
        by simp, ?_⟩
      · intro hlimit
        simp [show limit ≠ 0 by omega, Step.isError]
      · intro hlimit
        simp [show limit ≠ 0 by omega, Step.isError]
      · intro hlimit
        simp [show limit ≠ 0 by omega, h.not_stops]
      · simp [Step.isError]
      · exact fun hstatus => absurd hstatus (by split <;> simp)
    · simp only [hvisit]
      refine ⟨[], ⟨.nil, .nil, ?_, ?_, ?_, ?_, ?_⟩, by simp, by simp, fun _ => ⟨v, h⟩⟩ <;> simp

/-! ## Runs -/

theorem andThen_ne_expired {α β : Type} {answer : Reply α × σ} {next : α → σ → Reply β × σ}
    (hanswer : answer.1 ≠ .expired) (hnext : ∀ a world, (next a world).1 ≠ .expired) :
    (andThen answer next).1 ≠ .expired := by
  obtain ⟨reply, world⟩ := answer
  cases reply with
  | done a => exact hnext a world
  | raised fault => simp [andThen]
  | expired => exact absurd rfl hanswer

theorem callIf_ne_expired {α : Type} {call : α → σ → Reply Unit × σ}
    (h : ∀ a world, (call a world).1 ≠ .expired) (a? : Option α) (world : σ) :
    (callIf call a? world).1 ≠ .expired := by
  cases a? with
  | none => simp [callIf]
  | some a => exact h a world

/-- No visit is cut off if no call is. -/
theorem not_isCut (h : backend.Answers) (v : Visit σ) : ¬ IsCut backend graph context v := by
  rintro ⟨outcome, -, hexpired⟩
  refine andThen_ne_expired (callIf_ne_expired h.emit _ _) (fun _ world => ?_) hexpired
  refine andThen_ne_expired ?_ (fun writes world => ?_)
  · cases outcome.action with
    | none => simp [performIf]
    | some action =>
      refine andThen_ne_expired (h.perform action world) (fun result world => ?_)
      split <;> simp
  · exact andThen_ne_expired (callIf_ne_expired h.pause _ _) fun _ _ => by simp

variable (backend graph context) in
/-- The visits account for the result of a run: they are the path of its steps, and begin at the node that the
identifier of the first start node means, under the initial variables. There are visits unless the time is
up, which it is only if a call is cut off. -/
structure IsRun (limit : Nat) (generator : Generator) (world : σ) (visits : List (Visit σ))
    (result : Result) : Prop where
  path : IsPath backend graph context limit visits result
  first : ∀ v ∈ visits.head?, (∃ start ∈ graph.starts.head?, graph.Defines start.id v.node) ∧
    v.bindings = context.initialVariables ∧ v.generator = generator ∧ v.world = world
  nonempty : visits = [] → result.status = .expired
  answered : backend.Answers → result.status ≠ .expired

theorem exists_first?_eq_some (h : graph.starts ≠ []) :
    ∃ start node, start ∈ graph.starts.head? ∧ first? graph = some node ∧
      graph.Defines start.id node := by
  obtain ⟨start, rest, hstarts⟩ := List.exists_cons_of_ne_nil h
  have hmem : start ∈ graph.nodes := by
    have : start ∈ graph.starts := by simp [hstarts]
    exact List.mem_of_mem_filter this
  obtain ⟨node, hnode⟩ := Option.isSome_iff_exists.mp (Graph.isSome_find?_of_mem hmem)
  refine ⟨start, node, by simp [hstarts], ?_, (Graph.find?_eq_some_iff _ _ _).mp hnode⟩
  simp [first?, hstarts, hnode]

theorem run_eq_walk {node : Node} (backend : Backend σ) (context : Context) {limit : Int}
    (generator : Generator) (world : σ) (hfirst : first? graph = some node) (hlimit : 1 ≤ limit) :
    run backend graph context limit generator world =
      (.ok (walk backend graph context limit.toNat node context.initialVariables generator world).1,
        (walk backend graph context limit.toNat node context.initialVariables generator world).2) := by
  rw [run, hfirst]
  dsimp only
  rw [if_neg (by omega)]

/-- A run of a graph with a start node gives a result, and visits account for it. -/
theorem exists_isRun (backend : Backend σ) (graph : Graph) (context : Context) (limit : Int)
    (generator : Generator) (world : σ) (hstarts : graph.starts ≠ []) (hlimit : 1 ≤ limit) :
    ∃ result after visits, run backend graph context limit generator world = (.ok result, after) ∧
      IsRun backend graph context limit.toNat generator world visits result := by
  obtain ⟨start, node, hstart, hfirst, hdefines⟩ := exists_first?_eq_some hstarts
  obtain ⟨visits, hpath, hhead, hempty, hcut⟩ := exists_isPath_walk backend graph context
    limit.toNat ⟨node, context.initialVariables, generator, world⟩
  refine ⟨_, _, visits, run_eq_walk backend context generator world hfirst hlimit, hpath, ?_, ?_, ?_⟩
  · intro v hv
    rw [hhead v hv]
    exact ⟨⟨start, hstart, hdefines⟩, rfl, rfl, rfl⟩
  · exact fun hnil => (hempty hnil).resolve_left (by omega)
  · intro hanswers hexpired
    obtain ⟨w, hw⟩ := hcut hexpired
    exact not_isCut hanswers w hw

end

/-- A start node that is not the first node, an identifier of two nodes, and an edge that leads nowhere. -/
def detour : Graph where
  nodes := [⟨"wait", ⟨.zero, .zero⟩, .delay 5⟩, ⟨"begin", ⟨.zero, .zero⟩, .start ""⟩,
    ⟨"wait", ⟨.zero, .zero⟩, .finish ""⟩]
  edges := [{ id := "1", source := "begin", target := "wait" },
    { id := "2", source := "wait", target := "gone" }]

theorem exists_isRun_detour :
    detour.starts ≠ [] ∧ (1 : Int) ≤ 5 ∧
    ∃ result after visits,
      run (Simulation.backend {}) detour .standIn 5 (.ofSeed 0) {} = (.ok result, after) ∧
      IsRun (Simulation.backend {}) detour .standIn (5 : Int).toNat (.ofSeed 0) {} visits result :=
  ⟨List.cons_ne_nil _ _, by decide,
    exists_isRun _ detour _ 5 _ _ (List.cons_ne_nil _ _) (by decide)⟩

end Run

end CommandFlow
