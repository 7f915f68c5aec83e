import CommandFlow.Graph.Basic

/-!
# Validation of graphs

* `StructureFault` : what keeps a graph from being saved, with its wording;
* `Warning` : what is tolerated in a saved graph, with its wording;
* `Graph.faults`, `Graph.warnings` : those of a graph, in the order of the document.
-/

namespace CommandFlow

/-- What keeps a graph from being saved. -/
inductive StructureFault where
  | noStart
  | manyStarts
  | duplicate (id : String)
  | unconnected (id : String) (type : NodeType)

def StructureFault.message : StructureFault → String
  | noStart => "Graph must have a START node"
  | manyStarts => "Graph can only have one START node"
  | duplicate id => "Duplicate node id " ++ id
  | unconnected id type => "Node " ++ id ++ " (" ++ type.name ++ ") is not connected"

/-- An edge refers to a node that there is not. -/
structure Warning where
  edge : String
  node : String

def Warning.message (warning : Warning) : String :=
  "Edge " ++ warning.edge ++ " references unknown node " ++ warning.node

namespace Graph

def startFaults (graph : Graph) : List StructureFault :=
  match graph.starts with
  | [] => [.noStart]
  | [_] => []
  | _ => [.manyStarts]

/-- A fault for every node whose identifier an earlier node has. -/
def duplicateFaults : List Node → List String → List StructureFault
  | [], _ => []
  | node :: rest, seen =>
    let later := duplicateFaults rest (node.id :: seen)
    if seen.contains node.id then .duplicate node.id :: later else later

def isTarget (graph : Graph) (id : String) : Bool := graph.edges.any (·.target = id)

/-- A fault for every node other than a start node that no edge leads to. -/
def connectionFaults (graph : Graph) : List StructureFault :=
  (graph.nodes.filter fun node => node.type ≠ .start && !graph.isTarget node.id).map
    fun node => .unconnected node.id node.type

def faults (graph : Graph) : List StructureFault :=
  graph.startFaults ++ duplicateFaults graph.nodes [] ++ graph.connectionFaults

def hasNode (graph : Graph) (id : String) : Bool := graph.nodes.any (·.id = id)

/-- A warning for every end of an edge that is no node. -/
def warnings (graph : Graph) : List Warning :=
  graph.edges.flatMap fun edge =>
    ([edge.source, edge.target].filter fun id => !graph.hasNode id).map fun id => ⟨edge.id, id⟩

end Graph

end CommandFlow
