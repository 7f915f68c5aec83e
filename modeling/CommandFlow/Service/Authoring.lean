import CommandFlow.Graph.Document
import CommandFlow.Graph.Validation
import CommandFlow.Service.Store

/-!
# Authoring

* `SaveRefusal` : why a graph is not saved;
* `Store.saveGraph` : saves a graph without faults as the next version of a command.
-/

namespace CommandFlow.Service

/-- Why a graph is not saved. -/
inductive SaveRefusal where
  /-- There is no such command. -/
  | noCommand
  /-- The graph has faults. -/
  | faulty (faults : List StructureFault)

/-- Saves a graph as the next version of a command, in its written form. The command has to exist and the graph
to have no faults. -/
def Store.saveGraph (store : Store) (command : Uuid) (document : GraphDocument) :
    Except SaveRefusal (Snapshot × Store) :=
  match store.command? command, document.graph.faults with
  | none, _ => .error .noCommand
  | some _, [] => .ok (store.saveVersion command document.write none)
  | some _, faults => .error (.faulty faults)

end CommandFlow.Service
