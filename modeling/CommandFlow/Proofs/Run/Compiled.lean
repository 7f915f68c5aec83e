import CommandFlow.Proofs.Entries
import CommandFlow.Proofs.Run.Path
import CommandFlow.Proofs.Run.Renaming
import CommandFlow.Run.Machine
import Mathlib.Data.List.Nodup

/-!
# Runs of compiled graphs

A compiled graph runs as the graph does, and its names tell nothing of the identifiers.

* `labelAt_injective`, `labelAt_ne_endLabel` : different nodes have different names, and none is that of the end;
* `Labels.Counts`, `Graph.counts_labels` : the names of a graph count the first nodes of its identifiers;
* `Graph.get?_stations` : a node stands under the name of its identifier; `Machine.next?_eq` : the name that follows
  a visit is that of the node that follows;
* `Machine.walk?_eq`, `Graph.run?_compile` : a compiled graph runs as the graph does;
* `Graph.compile?_rename` : a graph with other identifiers is compiled to the same names at the same places.
-/

namespace CommandFlow

/-! ## Names -/

theorem labelAt_injective : Function.Injective labelAt := by
  intro m n h
  have hrepr : m.repr = n.repr := (String.append_right_inj "n").mp h
  rw [Nat.repr_eq_ofList_toDigits, Nat.repr_eq_ofList_toDigits, String.ofList_inj] at hrepr
  rw [← @Nat.ofDigitChars_toDigits 10 m (by decide) (by decide), hrepr,
    Nat.ofDigitChars_toDigits (by decide) (by decide)]

theorem labelAt_ne_endLabel (n : Nat) : labelAt n ≠ endLabel := by
  intro h
  have hfirst := congrArg (·.toList.head?) h
  simp [labelAt, endLabel] at hfirst

/-- The nodes have been counted: the first one of every identifier, under its number. -/
structure Labels.Counts (labels : Labels) (nodes : List Node) : Prop where
  names : labels.names = labels.nodes.mapIdx fun n node => (node.id, labelAt n)
  nodup : (labels.nodes.map (·.id)).Nodup
  find? : ∀ id, labels.nodes.find? (·.id = id) = nodes.find? (·.id = id)

namespace Labels.Counts

variable {labels : Labels} {nodes : List Node} (h : labels.Counts nodes)

include h

theorem names_eq_ids : Entries.names labels.names = labels.nodes.map (·.id) := by
  rw [h.names]
  exact List.ext_getElem (by simp [Entries.names]) fun n _ _ => by simp [Entries.names]

theorem get?_of_getElem? {n : Nat} {node : Node} (hnode : labels.nodes[n]? = some node) :
    Entries.get? labels.names node.id = some (labelAt n) := by
  refine Entries.get?_of_mem (h.names_eq_ids ▸ h.nodup) ?_
  rw [h.names]
  refine List.mem_iff_getElem?.mpr ⟨n, ?_⟩
  rw [List.getElem?_mapIdx, hnode]
  rfl

theorem nameOf_of_getElem? {n : Nat} {node : Node} (hnode : labels.nodes[n]? = some node) :
    labels.nameOf node.id = labelAt n := by
  rw [nameOf, h.get?_of_getElem? hnode]
  rfl

theorem exists_getElem?_of_find? {id : String} {node : Node} (hfind : nodes.find? (·.id = id) = some node) :
    node.id = id ∧ ∃ n : Nat, labels.nodes[n]? = some node := by
  rw [← h.find?] at hfind
  have hmem : node ∈ labels.nodes := List.mem_of_find?_eq_some hfind
  exact ⟨by simpa using List.find?_some hfind, List.mem_iff_getElem?.mp hmem⟩

theorem get?_of_find?_eq_none {id : String} (hfind : nodes.find? (·.id = id) = none) :
    Entries.get? labels.names id = none := by
  rw [← h.find?, List.find?_eq_none] at hfind
  rw [Entries.get?_eq_none_iff, h.names_eq_ids]
  intro hmem
  obtain ⟨node, hnode, rfl⟩ := List.mem_map.mp hmem
  exact hfind node hnode (by simp)

theorem count (node : Node) : (labels.count node).Counts (nodes ++ [node]) := by
  unfold Labels.count
  split
  · rename_i hknown
    refine ⟨h.names, h.nodup, fun id => ?_⟩
    rw [h.find?, List.find?_append]
    cases hfind : nodes.find? (·.id = id) with
    | some first => rfl
    | none =>
      have hid : node.id ≠ id := by
        rintro rfl
        rw [Entries.contains, h.get?_of_find?_eq_none hfind] at hknown
        cases hknown
      simp [hid]
  · rename_i hnew
    have hid : node.id ∉ Entries.names labels.names := by
      rw [← Entries.get?_eq_none_iff]
      simpa [Entries.contains] using hnew
    have hlength : labels.names.length = labels.nodes.length := by rw [h.names, List.length_mapIdx]
    refine ⟨?_, ?_, fun id => ?_⟩
    · rw [Entries.insert_of_not_mem hid, List.mapIdx_concat, ← h.names, hlength]
    · rw [h.names_eq_ids] at hid
      rw [List.map_append, List.nodup_append]
      refine ⟨h.nodup, List.pairwise_singleton .., fun id hmem other hlast => ?_⟩
      obtain rfl : other = node.id := List.mem_singleton.mp hlast
      exact fun heq => hid (heq ▸ hmem)
    · rw [List.find?_append, List.find?_append, h.find?]

end Labels.Counts

theorem Labels.counts_foldl (rest : List Node) {labels : Labels} {nodes : List Node} (h : labels.Counts nodes) :
    (rest.foldl Labels.count labels).Counts (nodes ++ rest) := by
  induction rest generalizing labels nodes with
  | nil => exact (List.append_nil nodes).symm ▸ h
  | cons node rest ih =>
    rw [List.append_cons]
    exact ih (h.count node)

/-- The names of a graph count the first nodes of its identifiers. -/
theorem Graph.counts_labels (graph : Graph) : graph.labels.Counts graph.nodes :=
  @Labels.counts_foldl graph.nodes {} [] ⟨rfl, List.nodup_nil, fun _ => rfl⟩

/-! ## Stations -/

namespace Graph

variable (graph : Graph)

theorem exists_nameOf_of_find? {id : String} {node : Node} (hfind : graph.find? id = some node) :
    node.id = id ∧ ∃ n : Nat, graph.labels.nodes[n]? = some node ∧ graph.labels.nameOf id = labelAt n := by
  obtain ⟨rfl, n, hn⟩ := graph.counts_labels.exists_getElem?_of_find? hfind
  exact ⟨rfl, n, hn, graph.counts_labels.nameOf_of_getElem? hn⟩

theorem nameOf_of_find?_eq_none {id : String} (hfind : graph.find? id = none) :
    graph.labels.nameOf id = endLabel := by
  rw [Labels.nameOf, graph.counts_labels.get?_of_find?_eq_none hfind]
  rfl

theorem get?_stations {id : String} {node : Node} (hfind : graph.find? id = some node) :
    Entries.get? (graph.labels.nodes.map fun node => (graph.labels.nameOf node.id, graph.labels.station graph node))
      (graph.labels.nameOf id) = some (graph.labels.station graph node) := by
  obtain ⟨rfl, n, hn, -⟩ := graph.exists_nameOf_of_find? hfind
  have hnames : graph.labels.nodes.map (fun node => graph.labels.nameOf node.id) =
      (List.range graph.labels.nodes.length).map labelAt := by
    refine List.ext_getElem (by simp) fun m hm _ => ?_
    rw [List.length_map] at hm
    rw [List.getElem_map, List.getElem_map, List.getElem_range]
    exact graph.counts_labels.nameOf_of_getElem? (List.getElem?_eq_getElem hm)
  refine Entries.get?_of_mem ?_ (List.mem_map_of_mem (List.mem_iff_getElem?.mpr ⟨n, hn⟩))
  rw [Entries.names, List.map_map]
  show (graph.labels.nodes.map fun node => graph.labels.nameOf node.id).Nodup
  rw [hnames]
  exact List.Nodup.map labelAt_injective List.nodup_range

end Graph

/-! ## Runs -/

namespace Machine

variable {graph : Graph}

theorem stations_of_compile? {machine : Machine} (h : graph.compile? = some machine) :
    machine.labels = graph.labels ∧
    machine.stations = (graph.labels.nodes.map fun node =>
      (graph.labels.nameOf node.id, graph.labels.station graph node)) ∧
    ∃ start, graph.starts.head? = some start ∧ machine.entry = graph.labels.nameOf start.id := by
  obtain ⟨start, hstart, rfl⟩ := Option.map_eq_some_iff.mp h
  exact ⟨rfl, rfl, start, hstart, rfl⟩

/-- The name that follows a visit is that of the node that follows, or the end if none does. -/
theorem next?_eq {machine : Machine} (h : graph.compile? = some machine) (node : Node) (branch : Option String) :
    machine.next? (graph.labels.station graph node) branch =
      some (((Run.successor? graph node branch).map fun next => graph.labels.nameOf next.id).getD endLabel) := by
  obtain ⟨hlabels, -, -⟩ := stations_of_compile? h
  unfold next? Labels.station Run.successor?
  rw [hlabels]
  dsimp only
  cases hroute : route node.type (graph.outgoing node.id) branch with
  | none => exact Entries.get?_insert_self ..
  | some edge =>
    dsimp only [Option.bind_some]
    cases hfind : graph.find? edge.target with
    | none =>
      rw [graph.nameOf_of_find?_eq_none hfind]
      exact Entries.get?_insert_self ..
    | some next =>
      obtain ⟨hid, n, hn, hname⟩ := graph.exists_nameOf_of_find? hfind
      rw [Entries.get?_insert, hname, if_neg (labelAt_ne_endLabel n).symm, Option.map_some, Option.getD_some, hid,
        hname]
      refine Entries.get?_merge_self _ (.inl (List.mem_filterMap.mpr ⟨edge, mem_of_route hroute, ?_⟩))
      rw [← hid]
      exact graph.counts_labels.get?_of_getElem? hn

variable {σ : Type}

/-- A walk from the name of a node is the walk from the node. -/
theorem walk?_eq {machine : Machine} (h : graph.compile? = some machine) (backend : Backend σ) (context : Context)
    (limit : Nat) {id : String} {node : Node} (hfind : graph.find? id = some node) (bindings : Variables)
    (generator : Generator) (world : σ) :
    machine.walk? backend graph context limit (graph.labels.nameOf id) bindings generator world =
      some (Run.walk backend graph context limit node bindings generator world) := by
  obtain ⟨-, hstations, -⟩ := stations_of_compile? h
  induction limit generalizing id node bindings generator world with
  | zero => rfl
  | succ limit ih =>
    rw [walk?, Run.walk, hstations, graph.get?_stations hfind]
    dsimp only [Option.bind_some]
    rw [show (graph.labels.station graph node).node = node from rfl]
    obtain ⟨⟨reply, world⟩, generator⟩ := Run.visit backend graph context node bindings generator world
    cases reply with
    | expired => rfl
    | raised fault => rfl
    | done answer =>
      obtain ⟨outcome, writes⟩ := answer
      dsimp only
      split
      · rfl
      · rw [next?_eq h, Option.bind_some]
        cases hnext : Run.successor? graph node outcome.branch with
        | none => exact if_pos rfl
        | some next =>
          obtain ⟨edge, -, htarget⟩ := Option.bind_eq_some_iff.mp hnext
          obtain ⟨hid, n, -, hname⟩ := graph.exists_nameOf_of_find? htarget
          rw [Option.map_some, Option.getD_some, hid, if_neg (hname ▸ labelAt_ne_endLabel n), ih htarget]
          rfl

end Machine

/-- A compiled graph runs as the graph does, and only a graph without a start node cannot be compiled. -/
theorem Graph.run?_compile (graph : Graph) {σ : Type} (backend : Backend σ) (context : Context) (limit : Int)
    (generator : Generator) (world : σ) :
    match graph.compile? with
    | some machine => machine.run? backend graph context limit generator world =
        some (Run.run backend graph context limit generator world)
    | none => Run.run backend graph context limit generator world = (.error .noStart, world) := by
  cases hcompile : graph.compile? with
  | none =>
    have hstart : graph.starts.head? = none := by simpa [compile?] using hcompile
    dsimp only
    rw [Run.run, Run.first?, hstart]
    rfl
  | some machine =>
    obtain ⟨-, -, start, hstart, hentry⟩ := Machine.stations_of_compile? hcompile
    have hstarts : graph.starts ≠ [] := fun hnil => by simp [hnil] at hstart
    obtain ⟨other, node, hother, hfirst, hdefines⟩ := Run.exists_first?_eq_some hstarts
    obtain rfl : start = other := Option.some.inj (hstart.symm.trans hother)
    have hfind : graph.find? start.id = some node := (graph.find?_eq_some_iff _ _).mpr hdefines
    dsimp only
    rw [Machine.run?, Run.run, hfirst, hentry, Machine.walk?_eq hcompile backend context _ hfind]
    dsimp only
    split <;> rfl

/-! ## Other identifiers -/

section
variable (ρ : String → String)

def Labels.rename (labels : Labels) : Labels :=
  ⟨labels.names.map fun entry => (ρ entry.1, entry.2), labels.nodes.map (·.rename ρ)⟩

/-- The station of the renamed node: the names that may follow are the same. -/
def Station.rename (station : Station) : Station :=
  { station with node := station.node.rename ρ, edges := station.edges.map (·.rename ρ) }

/-- The machine of renamed nodes: they stand under the same names. -/
def Machine.rename (machine : Machine) : Machine :=
  { machine with labels := machine.labels.rename ρ, stations := machine.stations.mapValues (·.rename ρ) }

variable {ρ} (hρ : Function.Injective ρ)

include hρ

theorem Labels.get?_rename (labels : Labels) (id : String) :
    Entries.get? (labels.rename ρ).names (ρ id) = Entries.get? labels.names id := by
  show Entries.get? (labels.names.map _) _ = _
  induction labels.names with
  | nil => rfl
  | cons entry rest ih =>
    rw [List.map_cons, Entries.get?, Entries.get?, ih]
    simp only [hρ.eq_iff]

theorem Labels.nameOf_rename (labels : Labels) (id : String) :
    (labels.rename ρ).nameOf (ρ id) = labels.nameOf id := by
  rw [nameOf, labels.get?_rename hρ]
  rfl

theorem Labels.count_rename (labels : Labels) (node : Node) :
    (labels.rename ρ).count (node.rename ρ) = (labels.count node).rename ρ := by
  have hinsert (names : Entries String) (name : String) :
      Entries.insert (names.map fun entry => (ρ entry.1, entry.2)) (ρ node.id) name =
        (Entries.insert names node.id name).map fun entry => (ρ entry.1, entry.2) := by
    induction names with
    | nil => rfl
    | cons entry rest ih =>
      simp only [List.map_cons, Entries.insert, hρ.eq_iff, ih]
      split <;> rfl
  unfold count Entries.contains
  rw [show (node.rename ρ).id = ρ node.id from rfl, labels.get?_rename hρ]
  split
  · rfl
  · simp [rename, hinsert]

theorem Graph.labels_rename (graph : Graph) : (graph.rename ρ).labels = graph.labels.rename ρ := by
  have hfoldl (nodes : List Node) (labels : Labels) :
      (nodes.map (·.rename ρ)).foldl Labels.count (labels.rename ρ) =
        (nodes.foldl Labels.count labels).rename ρ := by
    induction nodes generalizing labels with
    | nil => rfl
    | cons node rest ih =>
      rw [List.map_cons, List.foldl_cons, labels.count_rename hρ, ih]
      rfl
  exact hfoldl graph.nodes {}

theorem Labels.station_rename (labels : Labels) (graph : Graph) (node : Node) :
    (labels.rename ρ).station (graph.rename ρ) (node.rename ρ) = (labels.station graph node).rename ρ := by
  have hget (edge : Edge) : Entries.get? (labels.rename ρ).names (edge.rename ρ).target =
      Entries.get? labels.names edge.target := labels.get?_rename hρ edge.target
  have houtgoing : (graph.rename ρ).outgoing (node.rename ρ).id = (graph.outgoing node.id).map (·.rename ρ) :=
    graph.outgoing_rename hρ node.id
  simp only [station, Station.rename, houtgoing, List.filterMap_map, Function.comp_def, hget]

/-- A graph with other identifiers is compiled to the same names at the same places. -/
theorem Graph.compile?_rename (graph : Graph) :
    (graph.rename ρ).compile? = graph.compile?.map (Machine.rename ρ) := by
  have hstation (node : Node) : graph.labels.nameOf node.id = (graph.labels.rename ρ).nameOf (node.rename ρ).id :=
    (graph.labels.nameOf_rename hρ node.id).symm
  unfold compile?
  rw [graph.starts_rename, List.head?_map, graph.labels_rename hρ]
  cases graph.starts.head? with
  | none => rfl
  | some start =>
    simp only [Option.map_some, Machine.rename, Entries.mapValues, List.map_map, Function.comp_def, hstation,
      ← Labels.station_rename hρ]
    simp only [Labels.rename, List.map_map, Function.comp_def]

end

/-- Nodes under names that a machine keeps for its own. -/
def confusing : Graph where
  nodes := [⟨"n1", ⟨.zero, .zero⟩, .start ""⟩, ⟨endLabel, ⟨.zero, .zero⟩, .start ""⟩,
    ⟨"n1", ⟨.zero, .zero⟩, .finish ""⟩]
  edges := [{ id := "1", source := "n1", target := endLabel }]

/-- The way goes through both, by the names `n0` and `n1`. -/
example :
    confusing.compile?.map (fun machine => (machine.entry, machine.stations.map fun entry =>
      (entry.1, entry.2.node.id, entry.2.exits.map (·.1)))) =
      some ("n0", [("n0", "n1", ["n1", "__end__"]), ("n1", "__end__", ["__end__"])]) := by
  decide +kernel

end CommandFlow
