import CommandFlow.Chat.Registration
import CommandFlow.Service.Procedure

/-!
# Deployments

A guild has the commands of every project that is deployed in it. They are registered with the chat platform
as one list, and the index tells which project answers to a name.

* `Listing` : the commands of several projects; of one name the first project's counts;
* `Procedure.deploy`, `Procedure.undeploy`, `Procedure.resolve`, `Procedure.join`, `Procedure.leave` : what
  the service does under the lock of a guild;
* `Operation` : one of these; `Operation.perform` : does it while no other task acts.
-/

namespace CommandFlow.Service

/-! ## Listings -/

def Command.form (command : Command) : Except ServiceFault Value :=
  (Chat.registration (.text command.name) (.ofText? command.description)
    command.options).mapError .fault

/-- The commands of several projects as they are registered, and the project of each name. -/
structure Listing where
  payload : List Value := []
  names : Names := []

namespace Listing

def add (project : Uuid) (listing : Listing) (command : Command) : Except ServiceFault Listing :=
  if Entries.contains listing.names command.name then .ok listing
  else command.form.map fun form =>
    ⟨listing.payload ++ [form], Entries.insert listing.names command.name project⟩

def addAll (listing : Listing) (project : Uuid) (commands : List Command) :
    Except ServiceFault Listing :=
  commands.foldlM (add project) listing

end Listing

namespace Procedure

def list : List Uuid → Listing → Procedure Listing
  | [], listing => done listing
  | project :: projects, listing =>
    .commands project fun commands =>
      (ofExcept (listing.addAll project commands)).andThen (list projects)

/-! ## Operations -/

/-- Deploys a project. Its commands are listed before those of the other projects. The answer is how many
commands it has. -/
def deploy (project : Uuid) : Procedure Nat :=
  .commands project fun own =>
    if own.isEmpty then fail .noCommands
    else .deployed fun projects =>
      (list (project :: projects.filter (· ≠ project)) {}).andThen fun listing =>
        register listing.payload <| prepare <| commit (.activate project) <|
          note (some listing.names) <| done own.length

def undeploy (project : Uuid) : Procedure Unit :=
  .deployed fun projects =>
    (list (projects.filter (· ≠ project)) {}).andThen fun listing =>
      register listing.payload <| prepare <| commit (.deactivate project) <|
        note (some listing.names) <| done ()

def answering (guild name : String) (names : Names) : Procedure Uuid :=
  match Entries.get? names name with
  | some project => done project
  | none => fail (.notDeployed guild name)

/-- Finds the project that answers to a name. Names that are not known are read from the records. -/
def resolve (guild name : String) : Procedure Uuid :=
  .known fun
    | some names => answering guild name names
    | none => .deployed fun projects =>
      (list projects {}).andThen fun listing =>
        note (some listing.names) <| answering guild name listing.names

/-- Registers what is deployed in a guild that the bot has joined. Where nothing is deployed nothing is
registered. -/
def join : Procedure Unit :=
  .deployed fun projects =>
    (list projects {}).andThen fun listing =>
      if projects.isEmpty then note (some listing.names) <| done ()
      else register listing.payload <| note (some listing.names) <| done ()

/-- Ends every deployment in a guild that the bot has left. -/
def leave : Procedure Unit := prepare <| commit .deactivateAll <| note none <| done ()

end Procedure

/-- What is asked of the service for a guild. -/
inductive Operation where
  | deploy (project : Uuid)
  | undeploy (project : Uuid)
  | resolve (name : String)
  | join
  | leave
  deriving DecidableEq

inductive Answer where
  | count (commands : Nat)
  | project (id : Uuid)
  | done
  deriving DecidableEq

namespace Operation

variable {σ : Type}

def procedure (guild : String) : Operation → Procedure Answer
  | deploy project => (Procedure.deploy project).andThen fun count => .done (.count count)
  | undeploy project => (Procedure.undeploy project).andThen fun _ => .done .done
  | resolve name => (Procedure.resolve guild name).andThen fun project => .done (.project project)
  | join => Procedure.join.andThen fun _ => .done .done
  | leave => Procedure.leave.andThen fun _ => .done .done

/-- The operation only reports what happened to a guild, and its faults are nobody's concern. -/
def isReport : Operation → Bool
  | join | leave => true
  | _ => false

def answer (operation : Operation) (result : Except ServiceFault Answer) :
    Except ServiceFault Answer :=
  if operation.isReport then .ok .done else result

/-- Does an operation for a guild while no other task acts. -/
def perform (gateway : Gateway σ) (guild : String) (operation : Operation) (world : World σ) :
    Except ServiceFault Answer × World σ :=
  let (result, world) := (operation.procedure guild).run gateway guild world
  (operation.answer result, world)

end Operation

end CommandFlow.Service
