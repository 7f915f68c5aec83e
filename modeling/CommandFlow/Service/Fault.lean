import CommandFlow.Fault
import CommandFlow.Graph.Validation
import CommandFlow.Run.Walk

/-!
# What the service refuses

* `ServiceFault` : why a deployment, a resolution or an invocation goes wrong;
* `ServiceFault.message` : the fault in words.
-/

namespace CommandFlow.Service

/-- Why a deployment, a resolution or an invocation goes wrong. -/
inductive ServiceFault where
  /-- The store does not answer. -/
  | storage
  /-- A project without commands to register is to be deployed. -/
  | noCommands
  /-- The chat platform does not take a registration. -/
  | registration (cause : Fault)
  /-- No project in a guild has a command of a name. -/
  | notDeployed (guild name : String)
  /-- A value is malformed, or the chat platform does not take a notice. -/
  | fault (cause : Fault)
  /-- A graph cannot be run. -/
  | refused (refusal : Run.Refusal)

def ServiceFault.message : ServiceFault → String
  | storage => "the store does not answer"
  | noCommands => "project has no enabled slash commands"
  | registration cause => "Failed to register commands: " ++ cause.message
  | notDeployed guild name => s!"command /{name} is not deployed to guild {guild}"
  | fault cause => cause.message
  | refused .noStart => StructureFault.noStart.message
  | refused .limitTooLow => "recursion_limit must be at least 1"

end CommandFlow.Service
