import CommandFlow.Proofs.Run.Visits

/-!
# Graphs with more at the end

What a document declares first has priority, so nodes and edges that are added at its end matter only where
a run would have stopped.

* `Graph.extend` : a graph with nodes and edges added at its end;
* `Graph.find?_extend`, `route_append`, `Run.first?_extend` : an identifier that means a node, a node that is
  left by an edge and a graph with a start node keep what they have;
* `Run.next?_extend` : a visit that another one follows is followed by the same one;
* `Run.walk_extend` : a walk goes on at most where it stopped;
* `simulate_extend` : so does a simulation, and it is the same if it did not stop.
-/

namespace CommandFlow

/-! ## What is added -/

def Graph.extend (graph : Graph) (nodes : List Node) (edges : List Edge) : Graph :=
  { graph with nodes := graph.nodes ++ nodes, edges := graph.edges ++ edges }

section
variable {graph : Graph} (nodes : List Node) (edges : List Edge)

theorem Graph.find?_extend {id : String} {node : Node} (h : graph.find? id = some node) :
    (graph.extend nodes edges).find? id = some node := by
  rw [find?] at h
  rw [find?, extend, List.find?_append, h]
  rfl

theorem Graph.outgoing_extend (graph : Graph) (id : String) :
    (graph.extend nodes edges).outgoing id =
      graph.outgoing id ++ edges.filter (·.source = id) := by
  simp only [outgoing, extend, List.filter_append]

theorem Graph.head?_starts_extend {start : Node} (h : graph.starts.head? = some start) :
    (graph.extend nodes edges).starts.head? = some start := by
  rw [starts] at h
  rw [starts, extend, List.filter_append, List.head?_append, h]
  rfl

theorem Graph.starts_extend_ne_nil (h : graph.starts ≠ []) : (graph.extend nodes edges).starts ≠ [] := by
  rw [starts] at h
  rw [starts, extend, List.filter_append]
  exact List.append_ne_nil_of_left_ne_nil h _

theorem route_append {type : NodeType} {before : List Edge} {branch : Option String} {edge : Edge}
    (h : route type before branch = some edge) (after : List Edge) :
    route type (before ++ after) branch = some edge := by
  unfold route at h ⊢
  split at h
  · rw [if_pos (by assumption), List.find?_append, h]
    rfl
  · rw [if_neg (by assumption), List.head?_append, h]
    rfl

namespace Run

theorem first?_extend {node : Node} (h : first? graph = some node) :
    first? (graph.extend nodes edges) = some node := by
  obtain ⟨start, hstart, hnode⟩ := Option.bind_eq_some_iff.mp h
  rw [first?, Graph.head?_starts_extend nodes edges hstart]
  exact Graph.find?_extend nodes edges hnode

theorem successor?_extend {node next : Node} {branch : Option String}
    (h : successor? graph node branch = some next) :
    successor? (graph.extend nodes edges) node branch = some next := by
  obtain ⟨edge, hroute, hnext⟩ := Option.bind_eq_some_iff.mp h
  rw [successor?, Graph.outgoing_extend, route_append hroute]
  exact Graph.find?_extend nodes edges hnext

/-! ## Walks -/

variable {σ : Type} {backend : Backend σ} {context : Context}

/-- A visit that another one follows is followed by the same one. -/
theorem next?_extend {v w : Visit σ} (h : v.next? backend graph context = some w) :
    v.next? backend (graph.extend nodes edges) context = some w := by
  have hreply : v.reply backend (graph.extend nodes edges) context = v.reply backend graph context := rfl
  unfold Visit.next? at h ⊢
  rw [hreply]
  split at h
  · split at h
    · cases h
    · obtain ⟨node, hnode, rfl⟩ := Option.map_eq_some_iff.mp h
      rw [if_neg (by assumption), successor?_extend nodes edges hnode]
      rfl
  · cases h

/-- A visit that another one follows succeeds short of the end, so that without it the walk would stop. -/
theorem status_of_next?_eq_some {v w : Visit σ} (h : v.next? backend graph context = some w) :
    v.status backend graph context = .stopped ∧ v.failure? backend graph context = none := by
  unfold Visit.next? at h
  unfold Visit.status Visit.failure?
  split at h
  · rename_i hreply
    split at h
    · cases h
    · rename_i hterminal
      rw [hreply]
      exact ⟨if_neg hterminal, rfl⟩
  · cases h

variable (backend context) in
/-- A walk through more goes on at most where the walk stopped. -/
theorem walk_extend (limit : Nat) (v : Visit σ) :
    let short := walk backend graph context limit v.node v.bindings v.generator v.world
    let long := walk backend (graph.extend nodes edges) context limit v.node v.bindings v.generator v.world
    short.1.steps <+: long.1.steps ∧ (short.1.status ≠ .stopped → long = short) := by
  induction limit, v using walk_induction backend graph context with
  | zero v => exact ⟨List.prefix_rfl, fun _ => rfl⟩
  | last limit v hnext =>
    dsimp only
    rw [walk_of_next?_eq_none hnext]
    cases hextend : v.next? backend (graph.extend nodes edges) context with
    | none =>
      rw [walk_of_next?_eq_none hextend]
      exact ⟨List.prefix_rfl, fun _ => rfl⟩
    | some w =>
      -- what was added shows in the visit that follows, but not in the visit itself
      have hstopped : v.status backend graph context = .stopped :=
        (status_of_next?_eq_some hextend).1
      have hfailure : v.failure? backend graph context = none := (status_of_next?_eq_some hextend).2
      obtain ⟨step, hstep, hwalk⟩ := walk_of_next?_eq_some hextend limit
      replace hstep : v.step? backend graph context = some step := hstep
      rw [hwalk]
      refine ⟨?_, fun hstatus => ?_⟩
      · simp [Visit.result, Result.after, hstep]
      · have hlimit : limit = 0 := by
          by_contra hne
          simp [Visit.result, hne, hstopped] at hstatus
        have hbindings := bindings_of_next?_eq_some hextend
        have hworld := world_of_next?_eq_some hextend
        rw [show v.writes backend (graph.extend nodes edges) context =
          v.writes backend graph context from rfl] at hbindings
        rw [show v.leaves backend (graph.extend nodes edges) context =
          v.leaves backend graph context from rfl] at hworld
        simp [hlimit, walk, Visit.result, Result.after, hstep, hfailure, hbindings, hworld]
  | next limit v w hnext ih =>
    obtain ⟨step, hstep, hwalk⟩ := walk_of_next?_eq_some hnext limit
    have hlong := walk_of_step? (next?_extend nodes edges hnext) hstep limit
    dsimp only at ih ⊢
    rw [hwalk, hlong]
    refine ⟨List.prefix_cons_inj step |>.mpr ih.1, fun hstatus => ?_⟩
    rw [ih.2 hstatus]

variable (backend context) in
theorem run_extend (generator : Generator) (world : σ) (hstarts : graph.starts ≠ []) {limit : Int}
    (hlimit : 1 ≤ limit) :
    ∃ short long : Result × σ, run backend graph context limit generator world = (.ok short.1, short.2) ∧
      run backend (graph.extend nodes edges) context limit generator world = (.ok long.1, long.2) ∧
      short.1.steps <+: long.1.steps ∧ (short.1.status ≠ .stopped → long = short) := by
  obtain ⟨-, node, -, hfirst, -⟩ := exists_first?_eq_some hstarts
  exact ⟨_, _, run_eq_walk backend context generator world hfirst hlimit,
    run_eq_walk backend context generator world (first?_extend nodes edges hfirst) hlimit,
    walk_extend nodes edges backend context limit.toNat
      ⟨node, context.initialVariables, generator, world⟩⟩

theorem run_eq_limitTooLow (backend : Backend σ) (context : Context) (generator : Generator) (world : σ)
    (hstarts : graph.starts ≠ []) {limit : Int} (hlimit : limit < 1) :
    run backend graph context limit generator world = (.error .limitTooLow, world) := by
  obtain ⟨-, node, -, hfirst, -⟩ := exists_first?_eq_some hstarts
  rw [run, hfirst]
  exact if_pos hlimit

end Run

end

/-! ## Simulations -/

/-- The simulation of a graph with a start node makes the first of the steps that it makes with nodes and edges
added at the end of the document, and unless it stops it is the same in everything. -/
theorem simulate_extend (settings : Simulation.Settings) (graph : Graph) (nodes : List Node)
    (edges : List Edge) (context : Context) (generator : Generator) (hstarts : graph.starts ≠ []) :
    (settings.limit < 1 →
      simulate settings graph context generator = .error .limitTooLow ∧
      simulate settings (graph.extend nodes edges) context generator = .error .limitTooLow) ∧
    (1 ≤ settings.limit → ∃ short long,
      simulate settings graph context generator = .ok short ∧
      simulate settings (graph.extend nodes edges) context generator = .ok long ∧
      short.result.steps <+: long.result.steps ∧
      (short.result.status ≠ .stopped → long = short)) := by
  refine ⟨fun hlimit => ?_, fun hlimit => ?_⟩
  · have hrefused {graph : Graph} (hstarts : graph.starts ≠ []) :
        simulate settings graph context generator = .error .limitTooLow :=
      simulate_eq_error (Run.run_eq_limitTooLow (Simulation.backend settings) context generator {}
        hstarts hlimit)
    exact ⟨hrefused hstarts, hrefused (Graph.starts_extend_ne_nil nodes edges hstarts)⟩
  · obtain ⟨short, long, hshort, hlong, hsteps, hsame⟩ :=
      Run.run_extend nodes edges (Simulation.backend settings) context generator {} hstarts hlimit
    refine ⟨_, _, simulate_eq_ofRun hshort, simulate_eq_ofRun hlong, hsteps, fun hstatus => ?_⟩
    rw [hsame hstatus]

/-- A node for the identifier to which an edge leads that led nowhere, another start node and a second node of
an identifier are added. -/
theorem simulate_extend_detour :
    let nodes : List Node := [⟨"gone", ⟨.zero, .zero⟩, .finish ""⟩, ⟨"other", ⟨.zero, .zero⟩, .start ""⟩,
      ⟨"begin", ⟨.zero, .zero⟩, .delay 1⟩]
    let edges : List Edge := [{ id := "3", source := "begin", target := "gone" }]
    Run.detour.starts ≠ [] ∧ (1 : Int) ≤ 1000 ∧
    ∃ short long, simulate {} Run.detour .standIn (.ofSeed 0) = .ok short ∧
      simulate {} (Run.detour.extend nodes edges) .standIn (.ofSeed 0) = .ok long ∧
      short.result.steps <+: long.result.steps ∧
      (short.result.status ≠ .stopped → long = short) :=
  ⟨List.cons_ne_nil _ _, by decide,
    (simulate_extend {} Run.detour _ _ .standIn (.ofSeed 0) (List.cons_ne_nil _ _)).2 (by decide)⟩

/-- The run that stopped goes on to the node that was added. -/
example :
    (simulate {} Run.detour .standIn (.ofSeed 0)).toOption.map
        (fun run => (run.result.status, run.result.path)) = some (.stopped, ["begin", "wait"]) ∧
      (simulate {} (Run.detour.extend [⟨"gone", ⟨.zero, .zero⟩, .finish ""⟩] []) .standIn
        (.ofSeed 0)).toOption.map (fun run => (run.result.status, run.result.path)) =
        some (.completed, ["begin", "wait", "gone"]) := by
  decide +kernel

end CommandFlow
