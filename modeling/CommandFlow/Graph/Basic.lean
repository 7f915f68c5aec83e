import CommandFlow.Graph.Node

/-!
# Graphs of commands

* `Edge`, `Declaration`, `Graph` : nodes, the edges between them and the declared variables;
* `Graph.starts`, `Graph.outgoing`, `Graph.find?` : the nodes that a run may begin with, the edges that
  leave a node, and the node that an identifier means;
* `route` : the edge that a node is left by.
-/

namespace CommandFlow

/-- A directed edge. The source handle, or else the label, names the branch that it is for. -/
structure Edge where
  id : String
  source : String
  target : String
  sourceHandle : Option String := none
  targetHandle : Option String := none
  label : Option String := none

structure Declaration where
  name : String
  type : VariableType := .string
  scope : VariableScope := .local
  initial : Value := .null
  description : Option String := none

/-- The behaviour of a command: nodes joined by edges, and the variables that it declares. -/
structure Graph where
  nodes : List Node
  edges : List Edge
  declarations : Entries Declaration := []

namespace Graph

/-- The nodes that a run may begin with, in the order of the document. -/
def starts (graph : Graph) : List Node := graph.nodes.filter (·.type = .start)

/-- The edges that leave a node, in the order of the document. -/
def outgoing (graph : Graph) (id : String) : List Edge := graph.edges.filter (·.source = id)

/-- The node that an identifier means: the first one that has it. -/
def find? (graph : Graph) (id : String) : Option Node := graph.nodes.find? (·.id = id)

end Graph

def Edge.branch (edge : Edge) : Option String := edge.sourceHandle.or edge.label

/-- The edge that a node is left by: a condition takes the first edge for the branch taken, any other
node its first edge. -/
def route (type : NodeType) (edges : List Edge) (branch : Option String) : Option Edge :=
  if type = .ifCondition then edges.find? (·.branch = branch) else edges.head?

end CommandFlow
