import CommandFlow.Proofs.Graph.Validation
import CommandFlow.Proofs.Run.Acyclic

/-!
# Runs of validated graphs

What validation reports matters to runs.

* `Graph.IsSound.exists_start`, `Graph.IsSound.find?_eq_some` : the start node, and the node of an identifier;
* `Edge.IsFor` : an edge may be taken on a branch; `route_eq_none_iff` : no edge is taken if none may be;
* `Run.step?_of_start` : a visit of a start node is recorded;
* `Run.exists_last_of_stopped` : a walk that stops does so where no edge leads to a node;
* `Run.validation_protects` : validation is exact, and what it promises of runs.
-/

namespace CommandFlow

/-! ## Sound graphs -/

namespace Graph

variable {graph : Graph}

theorem IsSound.exists_start (h : graph.IsSound) : ∃ start, graph.starts = [start] := by
  have hlength := h.start
  rw [List.countP_eq_length_filter] at hlength
  exact List.length_eq_one_iff.mp hlength

theorem IsSound.countP_eq_one (h : graph.IsSound) {node : Node} (hmem : node ∈ graph.nodes) :
    graph.nodes.countP (·.id = node.id) = 1 := by
  have hcount := List.count_eq_one_of_mem h.distinct (List.mem_map_of_mem hmem)
  rw [List.count, List.countP_map] at hcount
  rw [← hcount]
  exact List.countP_congr fun other _ => by simp

theorem IsSound.find?_eq_some (h : graph.IsSound) {node : Node} (hmem : node ∈ graph.nodes) :
    graph.find? node.id = some node := by
  obtain ⟨other, hother⟩ := Option.isSome_iff_exists.mp (isSome_find?_of_mem hmem)
  have hdefines := (find?_eq_some_iff _ _ _).mp hother
  rw [hother, List.inj_on_of_nodup_map h.distinct hdefines.mem_nodes hmem hdefines.1]

end Graph

/-! ## Edges that are taken -/

/-- A node of the type may be left by the edge on the branch. -/
def Edge.IsFor (edge : Edge) (type : NodeType) (branch : Option String) : Prop :=
  type = .ifCondition → edge.branch = branch

theorem route_eq_none_iff {type : NodeType} {edges : List Edge} {branch : Option String} :
    route type edges branch = none ↔ ∀ edge ∈ edges, ¬ edge.IsFor type branch := by
  unfold route Edge.IsFor
  split
  · rename_i htype
    simp [htype]
  · rename_i htype
    simp [htype, List.eq_nil_iff_forall_not_mem]

/-- Where the ends of edges are nodes, an edge that is taken leads to a node. -/
theorem route_eq_none_of_isClosed {graph : Graph} (hclosed : graph.IsClosed) {node : Node} {branch : Option String}
    (h : Run.successor? graph node branch = none) : route node.type (graph.outgoing node.id) branch = none := by
  cases hroute : route node.type (graph.outgoing node.id) branch with
  | none => rfl
  | some edge =>
    have hedge := List.mem_of_mem_filter (mem_of_route hroute)
    obtain ⟨-, target, hmem, htarget⟩ := hclosed edge hedge
    exact absurd htarget ((Run.successor?_eq_none_iff _ _ _).mp h edge hroute target hmem)

namespace Run

variable {σ : Type} {backend : Backend σ} {graph : Graph} {context : Context}

/-! ## The first and the last visit -/

theorem step?_of_start {v : Visit σ} (h : v.node.type = .start) :
    ∃ report, v.step? backend graph context = some ⟨v.node.id, .start, report⟩ := by
  have hreply : ∃ outcome writes, v.reply backend graph context = .done (outcome, writes) := by
    unfold Visit.reply visit Node.outcome
    unfold Node.type at h
    cases hbehavior : v.node.behavior <;> rw [hbehavior] at h <;> cases h
    exact ⟨_, _, rfl⟩
  obtain ⟨outcome, writes, hdone⟩ := hreply
  exact ⟨.success outcome.detail, by rw [Visit.step?, hdone, h]⟩

variable (backend graph context) in
/-- A walk that stops does so at a node that is left by no edge, or by one that leads nowhere. -/
theorem exists_last_of_stopped (limit : Nat) (v : Visit σ)
    (h : (walk backend graph context limit v.node v.bindings v.generator v.world).1.status = .stopped) :
    ∃ u outcome writes, (visits backend graph context limit v).getLast? = some u ∧
      u.reply backend graph context = .done (outcome, writes) ∧ successor? graph u.node outcome.branch = none ∧
      (walk backend graph context limit v.node v.bindings v.generator v.world).1.path.getLast? = some u.node.id := by
  induction limit, v using walk_induction backend graph context with
  | zero v => cases h
  | last limit v hnext =>
    rw [walk_of_next?_eq_none hnext] at h ⊢
    rw [visits_of_next?_eq_none hnext]
    have hstatus : v.status backend graph context = .stopped := by
      simp only [Visit.result] at h
      split at h
      · cases h
      · exact h
    unfold Visit.status at hstatus
    split at hstatus
    · rename_i outcome writes hreply
      split at hstatus
      · cases hstatus
      · rename_i hterminal
        refine ⟨v, outcome, writes, rfl, hreply, ?_, ?_⟩
        · simpa [Visit.next?, hreply, hterminal] using hnext
        · simp [Visit.result, Visit.step?, hreply, Result.path]
    · cases hstatus
    · cases hstatus
  | next limit v w hnext ih =>
    obtain ⟨step, -, hwalk⟩ := walk_of_next?_eq_some hnext limit
    rw [hwalk] at h ⊢
    rw [visits_of_next?_eq_some hnext]
    obtain ⟨u, outcome, writes, hlast, hreply, hnone, hpath⟩ := ih h
    refine ⟨u, outcome, writes, ?_, hreply, hnone, ?_⟩
    · rw [List.getLast?_cons, hlast]
      rfl
    · simp only [Result.path, Result.after, List.map_cons] at hpath ⊢
      rw [List.getLast?_cons, hpath]
      rfl

/-! ## Validation and runs -/

/-- What becomes of a run: it begins at the start node, its identifiers are those of one node each, and if it stops
where the ends of edges are nodes, no edge leaves the last node on the branch taken. -/
structure IsGuarded (backend : Backend σ) (graph : Graph) (context : Context) (limit : Int) (generator : Generator)
    (world : σ) (result : Result) : Prop where
  first : ∃ start step, graph.starts = [start] ∧ result.steps.head? = some step ∧ step.nodeId = start.id ∧
    step.type = .start
  single : ∀ id ∈ result.path, graph.nodes.countP (·.id = id) = 1
  stopped : graph.warnings = [] → result.status = .stopped →
    ∃ v outcome writes, (course backend graph context limit generator world).getLast? = some v ∧
      v.reply backend graph context = .done (outcome, writes) ∧ result.path.getLast? = some v.node.id ∧
      ∀ edge ∈ graph.outgoing v.node.id, ¬ edge.IsFor v.node.type outcome.branch

/-- A graph has no faults just if it has one start node, identifiers that differ and an edge to every other node, and
no warnings just if the ends of its edges are nodes; there is a duplicate for every node whose identifier an earlier
one has, and a warning for every end of an edge that is no node. A run of a graph without faults that may make a visit
gives a result, and keeps to what it was validated for. -/
theorem validation_protects (graph : Graph) :
    (graph.faults = [] ↔ graph.IsSound) ∧ (graph.warnings = [] ↔ graph.IsClosed) ∧
    graph.faults.filterMap StructureFault.duplicate? = graph.repeated.map (·.id) ∧
    graph.warnings = graph.looseEnds.map (fun entry => ⟨entry.1.id, entry.2⟩) ∧
    (graph.faults = [] → ∀ {σ : Type} (backend : Backend σ) (context : Context) (limit : Int) (generator : Generator)
      (world : σ), 1 ≤ limit →
      ∃ result after, run backend graph context limit generator world = (.ok result, after) ∧
        IsGuarded backend graph context limit generator world result) := by
  refine ⟨graph.faults_eq_nil_iff, graph.warnings_eq_nil_iff, graph.duplicates_faults, graph.warnings_eq_map, ?_⟩
  intro hfaults σ backend context limit generator world hlimit
  have hsound := graph.faults_eq_nil_iff.mp hfaults
  obtain ⟨start, hstarts⟩ := hsound.exists_start
  have hstart := List.mem_filter.mp (show start ∈ graph.starts by simp [hstarts])
  have hfirst : first? graph = some start := by
    rw [first?, hstarts]
    exact hsound.find?_eq_some hstart.1
  let v : Visit σ := ⟨start, context.initialVariables, generator, world⟩
  refine ⟨_, _, run_eq_walk backend context generator world hfirst hlimit, ?_, ?_, ?_⟩
  · obtain ⟨n, hn⟩ : ∃ n, limit.toNat = n + 1 := ⟨limit.toNat - 1, by omega⟩
    obtain ⟨report, hstep⟩ : ∃ report, v.step? backend graph context = some ⟨start.id, .start, report⟩ :=
      step?_of_start (by simpa using hstart.2)
    refine ⟨start, ⟨start.id, .start, report⟩, hstarts, ?_, rfl, rfl⟩
    rw [steps_walk backend graph context limit.toNat v, hn, visits, List.filterMap_cons_some hstep]
    rfl
  · intro id hid
    have hsub := (path_walk_sublist backend graph context limit.toNat v).subset hid
    obtain ⟨u, hu, rfl⟩ := List.mem_map.mp hsub
    exact hsound.countP_eq_one (node_mem_of_mem_visits backend context limit.toNat (v := v) hstart.1 u hu)
  · intro hwarnings hstatus
    obtain ⟨u, outcome, writes, hlast, hreply, hnone, hpath⟩ :=
      exists_last_of_stopped backend graph context limit.toNat v hstatus
    rw [course_of_first? hfirst]
    exact ⟨u, outcome, writes, hlast, hreply, hpath,
      route_eq_none_iff.mp (route_eq_none_of_isClosed (graph.warnings_eq_nil_iff.mp hwarnings) hnone)⟩

/-- A condition with an edge for one branch only. -/
def fork : Graph where
  nodes := [⟨"begin", ⟨.zero, .zero⟩, .start ""⟩,
    ⟨"test", ⟨.zero, .zero⟩, .ifCondition ⟨"user.id", .lessThan, .int 1, none, none⟩⟩,
    ⟨"end", ⟨.zero, .zero⟩, .finish ""⟩]
  edges := [{ id := "1", source := "begin", target := "test" },
    { id := "2", source := "test", target := "end", sourceHandle := some "true" }]

theorem validation_protects_fork :
    fork.faults = [] ∧ fork.warnings = [] ∧ (1 : Int) ≤ 5 ∧
    ∃ result after, run (Simulation.backend {}) fork .standIn 5 (.ofSeed 0) {} = (.ok result, after) ∧
      result.status = .stopped ∧
      IsGuarded (Simulation.backend {}) fork .standIn 5 (.ofSeed 0) {} result := by
  have hfaults : fork.faults = [] := by rfl
  have hstatus : ((run (Simulation.backend {}) fork .standIn 5 (.ofSeed 0) {}).1.toOption.map (·.status)) =
      some .stopped := by
    decide +kernel
  obtain ⟨result, after, hrun, hguarded⟩ := (validation_protects fork).2.2.2.2 hfaults (Simulation.backend {}) .standIn
    5 (.ofSeed 0) {} (by decide)
  rw [hrun] at hstatus
  exact ⟨hfaults, rfl, by decide, result, after, hrun, Option.some.inj hstatus, hguarded⟩

end Run

end CommandFlow
