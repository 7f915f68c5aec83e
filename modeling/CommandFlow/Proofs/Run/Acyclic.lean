import CommandFlow.Proofs.Run.Limit
import Mathlib.Data.Finset.Card
import Mathlib.Logic.Relation

/-!
# Runs of acyclic graphs

A run of a graph without cycles comes to an end of its own.

* `Graph.Joins` : an edge leads from a node to a node; `Graph.IsAcyclic` : no way along such edges leads back;
* `Graph.isAcyclic_of_lt` : edges that all lead upwards make no cycle;
* `Run.joins_of_next?` : a run goes along such edges; `Run.nodup_visits` : so it visits no identifier twice;
* `Run.exists_run_of_isAcyclic` : a run that may visit more nodes than there are identifiers does not reach its
  limit.
-/

namespace CommandFlow

/-! ## Acyclic graphs -/

namespace Graph

def ids (graph : Graph) : Finset String := (graph.nodes.map (·.id)).toFinset

/-- An edge leads from the one identifier to the other, and both are those of nodes. -/
def Joins (graph : Graph) (source target : String) : Prop :=
  (∃ edge ∈ graph.edges, edge.source = source ∧ edge.target = target) ∧
    source ∈ graph.ids ∧ target ∈ graph.ids

/-- No way along the edges between nodes leads back to where it begins. -/
def IsAcyclic (graph : Graph) : Prop := ∀ id, ¬ Relation.TransGen graph.Joins id id

theorem id_mem_ids {graph : Graph} {node : Node} (h : node ∈ graph.nodes) : node.id ∈ graph.ids :=
  List.mem_toFinset.mpr (List.mem_map_of_mem h)

theorem Defines.mem_nodes {graph : Graph} {id : String} {node : Node} (h : graph.Defines id node) :
    node ∈ graph.nodes := by
  obtain ⟨-, before, after, hnodes, -⟩ := h
  simp [hnodes]

/-- Edges that all lead upwards make no cycle. -/
theorem isAcyclic_of_lt {graph : Graph} (height : String → Nat)
    (h : ∀ edge ∈ graph.edges, height edge.source < height edge.target) : graph.IsAcyclic := by
  intro id hway
  have hlt : ∀ {source target}, Relation.TransGen graph.Joins source target →
      height source < height target := by
    intro source target hway
    induction hway with
    | single hjoins =>
      obtain ⟨⟨edge, hmem, rfl, rfl⟩, -⟩ := hjoins
      exact h edge hmem
    | tail _ hjoins ih =>
      obtain ⟨⟨edge, hmem, rfl, rfl⟩, -⟩ := hjoins
      exact ih.trans (h edge hmem)
  exact Nat.lt_irrefl _ (hlt hway)

end Graph

namespace Run

variable {σ : Type} {backend : Backend σ} {graph : Graph} {context : Context}

/-! ## The way of a run -/

theorem joins_of_next? {v w : Visit σ} (h : v.next? backend graph context = some w)
    (hmem : v.node ∈ graph.nodes) : w.node ∈ graph.nodes ∧ graph.Joins v.node.id w.node.id := by
  obtain ⟨outcome, writes, -, hnode, -⟩ := of_next?_eq_some h
  obtain ⟨edge, hroute, hdefines⟩ := (successor?_eq_some_iff _ _ _ _).mp hnode
  have hedge := List.mem_filter.mp (mem_of_route hroute)
  have hsource : edge.source = v.node.id := by simpa using hedge.2
  have hnodes := hdefines.mem_nodes
  exact ⟨hnodes, ⟨edge, hedge.1, hsource, hdefines.1.symm⟩, Graph.id_mem_ids hmem,
    Graph.id_mem_ids hnodes⟩

variable (backend context) in
theorem node_mem_of_mem_visits (limit : Nat) {v : Visit σ} (hmem : v.node ∈ graph.nodes) :
    ∀ u ∈ visits backend graph context limit v, u.node ∈ graph.nodes := by
  induction limit, v using walk_induction backend graph context with
  | zero v => simp [visits]
  | last limit v hnext => simpa [visits_of_next?_eq_none hnext] using hmem
  | next limit v w hnext ih =>
    have hrest := ih (joins_of_next? hnext hmem).1
    rw [visits_of_next?_eq_some hnext]
    exact List.forall_mem_cons.mpr ⟨hmem, hrest⟩

variable (backend context) in
/-- A walk through an acyclic graph visits no identifier twice. -/
theorem nodup_visits (h : graph.IsAcyclic) (limit : Nat) {v : Visit σ} (hmem : v.node ∈ graph.nodes) :
    ((visits backend graph context limit v).map (·.node.id)).Nodup := by
  have hnodes := node_mem_of_mem_visits backend context limit hmem
  have hchain := isChain_visits backend graph context limit v
  have hways : ((visits backend graph context limit v).map (·.node.id)).IsChain
      (Relation.TransGen graph.Joins) := by
    refine (List.isChain_map _).mpr (hchain.imp_of_mem_imp fun u w hu _ hnext => ?_)
    exact .single (joins_of_next? hnext (hnodes u hu)).2
  refine (List.isChain_iff_pairwise.mp hways).imp ?_
  rintro source _ hway rfl
  exact h source hway

variable (backend context) in
/-- A walk through an acyclic graph makes no more visits than there are identifiers. -/
theorem length_visits_le_card (h : graph.IsAcyclic) (limit : Nat) {v : Visit σ}
    (hmem : v.node ∈ graph.nodes) :
    (visits backend graph context limit v).length ≤ graph.ids.card := by
  have hnodes := node_mem_of_mem_visits backend context limit hmem
  have hsub : ((visits backend graph context limit v).map (·.node.id)).toFinset ⊆ graph.ids := by
    intro id hid
    obtain ⟨u, hu, rfl⟩ := List.mem_map.mp (List.mem_toFinset.mp hid)
    exact Graph.id_mem_ids (hnodes u hu)
  have hcard := Finset.card_le_card hsub
  rwa [List.toFinset_card_of_nodup (nodup_visits backend context h limit hmem), List.length_map] at hcard

variable (backend graph context) in
theorem path_walk_sublist (limit : Nat) (v : Visit σ) :
    (walk backend graph context limit v.node v.bindings v.generator v.world).1.path.Sublist
      ((visits backend graph context limit v).map (·.node.id)) := by
  rw [Result.path, steps_walk]
  induction visits backend graph context limit v with
  | nil => exact .slnil
  | cons u rest ih =>
    cases hstep : u.step? backend graph context with
    | none => simpa [hstep] using ih.cons _
    | some step => simpa [hstep, Visit.nodeId_of_step? hstep] using ih

/-! ## Runs of acyclic graphs -/

/-- A run of an acyclic graph with a start node that may visit more nodes than there are identifiers does not
reach its limit, and visits no identifier twice. -/
theorem exists_run_of_isAcyclic (backend : Backend σ) (graph : Graph) (context : Context)
    (generator : Generator) (world : σ) (hstarts : graph.starts ≠ []) (hacyclic : graph.IsAcyclic)
    {limit : Int} (hlimit : graph.ids.card < limit) :
    ∃ result after, run backend graph context limit generator world = (.ok result, after) ∧
      result.status ≠ .stepLimit ∧ result.path.Nodup := by
  obtain ⟨start, node, -, hfirst, hdefines⟩ := exists_first?_eq_some hstarts
  let v : Visit σ := ⟨node, context.initialVariables, generator, world⟩
  have hmem : v.node ∈ graph.nodes := hdefines.mem_nodes
  have hpath := path_walk_sublist backend graph context limit.toNat v
  have hvisits := length_visits_le_card backend context hacyclic limit.toNat hmem
  refine ⟨_, _, run_eq_walk backend context generator world hfirst (by omega), ?_,
    hpath.nodup (nodup_visits backend context hacyclic limit.toNat hmem)⟩
  intro hstatus
  have hsteps := (status_walk backend graph context limit.toNat v).mp hstatus
  have hlength := hpath.length_le
  rw [Result.path, List.length_map, List.length_map, hsteps] at hlength
  omega

theorem exists_run_of_isAcyclic_detour :
    detour.starts ≠ [] ∧ detour.IsAcyclic ∧ (detour.ids.card : Int) < 3 ∧
    ∃ result after, run (Simulation.backend {}) detour .standIn 3 (.ofSeed 0) {} = (.ok result, after) ∧
      result.status ≠ .stepLimit ∧ result.path.Nodup := by
  have hstarts : detour.starts ≠ [] := List.cons_ne_nil _ _
  have hacyclic : detour.IsAcyclic :=
    Graph.isAcyclic_of_lt (fun id => if id = "begin" then 0 else if id = "wait" then 1 else 2) (by decide)
  have hlimit : (detour.ids.card : Int) < 3 := by decide
  exact ⟨hstarts, hacyclic, hlimit, exists_run_of_isAcyclic _ detour _ _ _ hstarts hacyclic hlimit⟩

/-- As many visits as there are identifiers may still reach the limit. -/
example : (detour.ids.card : Int) = 2 ∧
    ((run (Simulation.backend {}) detour .standIn 2 (.ofSeed 0) {}).1.toOption.map (·.status)) =
      some .stepLimit := by
  decide +kernel

end Run

end CommandFlow
