import CommandFlow.Graph.Validation
import Mathlib.Logic.Basic

/-!
# What validation reports

The faults and warnings of a graph, against what is said of graphs without them.

* `Graph.IsSound` : one start node, identifiers that differ, and an edge to every other node;
  `Graph.faults_eq_nil_iff` : such graphs have no faults;
* `Graph.IsClosed` : the ends of edges are nodes; `Graph.warnings_eq_nil_iff` : such graphs have no warnings;
* `Graph.repeated`, `Graph.duplicates_faults` : the nodes whose identifier an earlier node has, and their faults;
* `Graph.looseEnds`, `Graph.warnings_eq_map` : the ends of edges that are no nodes, and their warnings.
-/

namespace CommandFlow

def StructureFault.duplicate? : StructureFault → Option String
  | duplicate id => some id
  | _ => none

namespace Graph

/-- One start node, no two nodes of one identifier, and an edge to every node that is no start node. -/
structure IsSound (graph : Graph) : Prop where
  start : graph.nodes.countP (·.type = .start) = 1
  distinct : (graph.nodes.map (·.id)).Nodup
  connected : ∀ node ∈ graph.nodes, node.type ≠ .start → ∃ edge ∈ graph.edges, edge.target = node.id

def IsClosed (graph : Graph) : Prop :=
  ∀ edge ∈ graph.edges, (∃ node ∈ graph.nodes, node.id = edge.source) ∧ ∃ node ∈ graph.nodes, node.id = edge.target

/-- The nodes whose identifier an earlier node has, in the order of the document. -/
def repeated (graph : Graph) : List Node :=
  (graph.nodes.zipIdx.filter fun entry => (graph.nodes.take entry.2).any (·.id = entry.1.id)).map (·.1)

/-- The ends of edges that are no nodes, in the order of the document, sources before targets. -/
def looseEnds (graph : Graph) : List (Edge × String) :=
  (graph.edges.flatMap fun edge => [(edge, edge.source), (edge, edge.target)]).filter fun entry =>
    graph.nodes.all (·.id ≠ entry.2)

/-! ## Faults -/

theorem startFaults_eq_nil_iff (graph : Graph) :
    graph.startFaults = [] ↔ graph.nodes.countP (·.type = .start) = 1 := by
  rw [List.countP_eq_length_filter]
  show graph.startFaults = [] ↔ graph.starts.length = 1
  unfold startFaults
  split
  · rename_i hstarts
    simp [hstarts]
  · rename_i start hstarts
    simp [hstarts]
  · rename_i hnone hone
    match hstarts : graph.starts with
    | [] => exact absurd hstarts hnone
    | [start] => exact absurd hstarts (hone start)
    | _ :: _ :: _ => simp

theorem duplicateFaults_eq_nil_iff (nodes : List Node) (seen : List String) :
    duplicateFaults nodes seen = [] ↔ (nodes.map (·.id)).Nodup ∧ ∀ node ∈ nodes, node.id ∉ seen := by
  induction nodes generalizing seen with
  | nil => simp [duplicateFaults]
  | cons node rest ih =>
    rw [duplicateFaults]
    by_cases hseen : node.id ∈ seen
    · simp [hseen]
    · have hrest : (∀ other ∈ rest, other.id ∉ node.id :: seen) ↔
          node.id ∉ rest.map (·.id) ∧ ∀ other ∈ rest, other.id ∉ seen := by
        simp only [List.mem_cons, List.mem_map, not_or, not_exists, not_and]
        exact forall₂_and
      rw [if_neg (by simpa using hseen), ih, hrest, List.map_cons, List.nodup_cons, List.forall_mem_cons]
      exact ⟨fun ⟨hnodup, hmem, hothers⟩ => ⟨⟨hmem, hnodup⟩, hseen, hothers⟩,
        fun ⟨⟨hmem, hnodup⟩, _, hothers⟩ => ⟨hnodup, hmem, hothers⟩⟩

theorem connectionFaults_eq_nil_iff (graph : Graph) :
    graph.connectionFaults = [] ↔
      ∀ node ∈ graph.nodes, node.type ≠ .start → ∃ edge ∈ graph.edges, edge.target = node.id := by
  simp [connectionFaults, isTarget]

theorem faults_eq_nil_iff (graph : Graph) : graph.faults = [] ↔ graph.IsSound := by
  rw [faults, List.append_eq_nil_iff, List.append_eq_nil_iff, startFaults_eq_nil_iff, duplicateFaults_eq_nil_iff,
    connectionFaults_eq_nil_iff]
  constructor
  · rintro ⟨⟨hstart, hdistinct, -⟩, hconnected⟩
    exact ⟨hstart, hdistinct, hconnected⟩
  · rintro ⟨hstart, hdistinct, hconnected⟩
    exact ⟨⟨hstart, hdistinct, by simp⟩, hconnected⟩

/-! ## Duplicates -/

/-- The nodes that come after others: those whose identifier was seen are the duplicates. -/
theorem duplicateFaults_eq_map {before : List Node} (nodes : List Node) {seen : List String}
    (hseen : ∀ id, id ∈ seen ↔ id ∈ before.map (·.id)) :
    duplicateFaults nodes seen =
      ((nodes.zipIdx before.length).filter fun entry =>
        ((before ++ nodes).take entry.2).any (·.id = entry.1.id)).map fun entry => .duplicate entry.1.id := by
  induction nodes generalizing before seen with
  | nil => rfl
  | cons node rest ih =>
    have hnext : ∀ id, id ∈ node.id :: seen ↔ id ∈ (before ++ [node]).map (·.id) := by
      intro id
      rw [List.mem_cons, hseen, List.map_append, List.mem_append, List.map_singleton, List.mem_singleton, or_comm]
    have hrest := ih hnext
    have hnode : ((before ++ node :: rest).take before.length).any (·.id = node.id) = seen.contains node.id := by
      rw [List.take_left, List.contains_eq_mem, Bool.eq_iff_iff, decide_eq_true_iff, hseen]
      simp
    rw [List.append_assoc, List.singleton_append, List.length_append, List.length_singleton] at hrest
    rw [duplicateFaults, List.zipIdx_cons, List.filter_cons, hnode, hrest]
    split <;> rfl

/-- There is one duplicate for every node whose identifier an earlier node has. -/
theorem duplicates_faults (graph : Graph) :
    graph.faults.filterMap StructureFault.duplicate? = graph.repeated.map (·.id) := by
  have hstart : graph.startFaults.filterMap StructureFault.duplicate? = [] := by
    unfold startFaults
    split <;> rfl
  have hconnection : graph.connectionFaults.filterMap StructureFault.duplicate? = [] := by
    rw [connectionFaults, List.filterMap_map, List.filterMap_eq_nil_iff]
    exact fun _ _ => rfl
  have hnone : ∀ id, id ∈ ([] : List String) ↔ id ∈ ([] : List Node).map (·.id) := by simp
  have hduplicate := duplicateFaults_eq_map graph.nodes hnone
  rw [faults, List.filterMap_append, List.filterMap_append, hstart, hconnection, List.nil_append, List.append_nil,
    hduplicate, List.filterMap_map, repeated, List.map_map]
  exact congrFun List.filterMap_eq_map _

/-! ## Warnings -/

theorem hasNode_eq_true_iff (graph : Graph) (id : String) :
    graph.hasNode id = true ↔ ∃ node ∈ graph.nodes, node.id = id := by
  simp [hasNode]

theorem warnings_eq_nil_iff (graph : Graph) : graph.warnings = [] ↔ graph.IsClosed := by
  simp only [warnings, IsClosed, List.flatMap_eq_nil_iff, List.map_eq_nil_iff, List.filter_eq_nil_iff,
    List.mem_cons, List.not_mem_nil, or_false, forall_eq_or_imp, forall_eq, Bool.not_eq_true', Bool.not_eq_false,
    hasNode_eq_true_iff]

/-- There is one warning for every end of an edge that is no node. -/
theorem warnings_eq_map (graph : Graph) :
    graph.warnings = graph.looseEnds.map fun entry => ⟨entry.1.id, entry.2⟩ := by
  have hnode : ∀ id, (!graph.hasNode id) = graph.nodes.all (·.id ≠ id) := by
    intro id
    rw [Bool.eq_iff_iff]
    simp [hasNode]
  rw [warnings, looseEnds, List.filter_flatMap, List.map_flatMap]
  congr 1
  funext edge
  rw [show [(edge, edge.source), (edge, edge.target)] = [edge.source, edge.target].map (edge, ·) from rfl,
    List.filter_map, List.map_map]
  simp only [hnode]
  rfl

end Graph

end CommandFlow
