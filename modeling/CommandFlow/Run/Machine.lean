import CommandFlow.Run.Walk

/-!
# Compiled graphs

A graph is compiled for a run. What it is compiled to knows the nodes by names of its own, which count them, for an
identifier may be any text, even the name under which a run ends.

* `labelAt`, `endLabel` : the names of nodes, and the one that is none;
* `Labels`, `Graph.labels` : the names of the identifiers of a graph, and the nodes that they mean;
* `Station`, `Machine`, `Graph.compile?` : a node with the names that may follow it, and what a graph is compiled to;
* `Machine.next?` : the name that follows a visit; `Machine.walk?`, `Machine.run?` : a run from name to name.
-/

namespace CommandFlow

/-- The name of the node that has been counted so. -/
def labelAt (n : Nat) : String := "n" ++ n.repr

/-- The name under which a run ends. -/
def endLabel : String := "__end__"

/-- The names of identifiers, and the nodes that they mean, as they have been counted. -/
structure Labels where
  names : Entries String := []
  nodes : List Node := []

namespace Labels

def count (labels : Labels) (node : Node) : Labels :=
  if Entries.contains labels.names node.id then labels
  else ⟨Entries.insert labels.names node.id (labelAt labels.names.length), labels.nodes ++ [node]⟩

/-- The name of an identifier. One that means no node leads to the end. -/
def nameOf (labels : Labels) (id : String) : String := (Entries.get? labels.names id).getD endLabel

end Labels

def Graph.labels (graph : Graph) : Labels := graph.nodes.foldl Labels.count {}

/-- A node, the edges that leave it, and the names that may follow it. -/
structure Station where
  node : Node
  edges : List Edge
  exits : Entries String

/-- What a graph is compiled to: the names of identifiers, what stands under them, and where a run begins. -/
structure Machine where
  labels : Labels
  stations : Entries Station
  entry : String

def Labels.station (labels : Labels) (graph : Graph) (node : Node) : Station :=
  let edges := graph.outgoing node.id
  let targets := edges.filterMap fun edge => Entries.get? labels.names edge.target
  { node, edges
    exits := Entries.insert (Entries.ofPairs (targets.map fun name => (name, name))) endLabel endLabel }

def Graph.compile? (graph : Graph) : Option Machine :=
  let labels := graph.labels
  graph.starts.head?.map fun start =>
    { labels
      stations := labels.nodes.map fun node => (labels.nameOf node.id, labels.station graph node)
      entry := labels.nameOf start.id }

namespace Machine

variable {σ : Type}

/-- The name that follows a visit of a station: where the edge that is taken leads. There is none if the station
does not know the name. -/
def next? (machine : Machine) (station : Station) (branch : Option String) : Option String :=
  Entries.get? station.exits <|
    match route station.node.type station.edges branch with
    | none => endLabel
    | some edge => machine.labels.nameOf edge.target

/-- Walks from a name, visiting at most `limit` stations. There is no walk over a name that nothing stands under. -/
def walk? (machine : Machine) (backend : Backend σ) (graph : Graph) (context : Context) :
    Nat → String → Variables → Generator → σ → Option (Result × σ)
  | 0, _, bindings, _, world => some (⟨.stepLimit, [], bindings, none⟩, world)
  | limit + 1, name, bindings, generator, world =>
    let ending (status : Status) : Status := if limit = 0 then .stepLimit else status
    (Entries.get? machine.stations name).bind fun station =>
      let node := station.node
      match Run.visit backend graph context node bindings generator world with
      | ((.expired, world), _) => some (⟨.expired, [], bindings, none⟩, world)
      | ((.raised fault, world), _) =>
        let step : Step := ⟨node.id, node.type, .error fault.message⟩
        let failure : Failure := ⟨node.id, node.type, fault⟩
        some (⟨ending .failed, [step], bindings, some failure⟩, world)
      | ((.done (outcome, writes), world), generator) =>
        let step : Step := ⟨node.id, node.type, .success outcome.detail⟩
        let bindings := Entries.merge bindings writes
        if outcome.terminal then some (⟨ending .completed, [step], bindings, none⟩, world)
        else (machine.next? station outcome.branch).bind fun name =>
          if name = endLabel then some (⟨ending .stopped, [step], bindings, none⟩, world)
          else
            (machine.walk? backend graph context limit name bindings generator world).map fun (result, world) =>
              (result.after step, world)

def run? (machine : Machine) (backend : Backend σ) (graph : Graph) (context : Context) (limit : Int)
    (generator : Generator) (world : σ) : Option (Except Run.Refusal Result × σ) :=
  if limit < 1 then some (.error .limitTooLow, world)
  else
    (machine.walk? backend graph context limit.toNat machine.entry context.initialVariables generator world).map
      fun (result, world) => (.ok result, world)

end Machine

end CommandFlow
