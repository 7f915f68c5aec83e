import CommandFlow.Uuid
import CommandFlow.Value.Basic

/-!
# The store

* `Project`, `Command`, `Snapshot`, `Deployment` : the records, each kind in the order of creation;
* `Store.slashCommands` : the commands of a project that are registered, by name;
* `Store.saveVersion`, `Store.activeSnapshot`, `Store.activeGraph` : the versions of a command's graph;
* `Store.activeProjects`, `Store.activate`, `Store.deactivate`, `Store.deactivateGuild` : which projects
  are deployed in a guild, in the order of their first deployment.
-/

namespace CommandFlow.Service

/-! ## Records -/

/-- A set of commands that belong together. -/
structure Project where
  id : Uuid
  owner : String
  name : String

/-- The kinds of commands. Only slash commands are registered. -/
inductive CommandType where
  | slash
  | user
  | message
  deriving DecidableEq

namespace CommandType

def all : List CommandType := [slash, user, message]

def name : CommandType → String
  | slash => "SLASH"
  | user => "USER"
  | message => "MESSAGE"

def ofName? (s : String) : Option CommandType := all.find? (·.name = s)

end CommandType

/-- A command of a project. Nothing makes its name unique. -/
structure Command where
  id : Uuid
  project : Uuid
  name : String
  description : Option String := none
  options : Value := .list []
  type : CommandType := .slash
  isEnabled : Bool := true

def Command.isRegistered (command : Command) : Bool := command.isEnabled && command.type = .slash

/-- A version of the graph of a command. -/
structure Snapshot where
  command : Uuid
  version : Nat
  graph : Value
  isActive : Bool := true
  note : Option String := none

/-- That a project is, or was, deployed in a guild. -/
structure Deployment where
  guild : String
  project : Uuid
  isActive : Bool
  deriving DecidableEq

/-- The records, each kind in the order of creation, and how many projects and commands there ever were. -/
structure Store where
  created : Nat := 0
  projects : List Project := []
  commands : List Command := []
  snapshots : List Snapshot := []
  deployments : List Deployment := []

namespace Store

/-! ## Projects and commands -/

def addProject (store : Store) (owner name : String) : Project × Store :=
  let project : Project := ⟨⟨store.created + 1⟩, owner, name⟩
  (project, { store with
    created := store.created + 1
    projects := store.projects ++ [project] })

def addCommand (store : Store) (command : Command) : Uuid × Store :=
  let id : Uuid := ⟨store.created + 1⟩
  (id, { store with
    created := store.created + 1
    commands := store.commands ++ [{ command with id }] })

def editCommand (store : Store) (id : Uuid) (change : Command → Command) : Store :=
  { store with
    commands := store.commands.map fun command =>
      if command.id = id then { change command with id } else command }

def command? (store : Store) (id : Uuid) : Option Command := store.commands.find? (·.id = id)

/-- The commands of a project that are registered, by name; of one name the oldest comes first. -/
def slashCommands (store : Store) (project : Uuid) : List Command :=
  (store.commands.filter fun command => command.project = project && command.isRegistered).mergeSort
    fun a b => a.name ≤ b.name

/-! ## Versions -/

/-- The snapshots of a command, the oldest first. -/
def versions (store : Store) (command : Uuid) : List Snapshot :=
  store.snapshots.filter (·.command = command)

/-- The greatest version of a command, 0 if there is none. -/
def lastVersion (store : Store) (command : Uuid) : Nat :=
  (store.versions command).foldl (fun greatest snapshot => max greatest snapshot.version) 0

/-- A snapshot that is no longer active, if it is one of the command. -/
def retire (command : Uuid) (snapshot : Snapshot) : Snapshot :=
  if snapshot.command = command then { snapshot with isActive := false } else snapshot

/-- Saves a graph as the next version of a command, which is then its only active one. -/
def saveVersion (store : Store) (command : Uuid) (graph : Value) (note : Option String) :
    Snapshot × Store :=
  let snapshot : Snapshot :=
    { command, version := store.lastVersion command + 1, graph, note }
  (snapshot, { store with
    snapshots := store.snapshots.map (retire command) ++ [snapshot] })

/-- The active snapshot of a command. -/
def activeSnapshot (store : Store) (command : Uuid) : Option Snapshot :=
  (store.versions command).find? (·.isActive)

def belongs (store : Store) (project : Uuid) (name : String) (snapshot : Snapshot) : Bool :=
  store.commands.any fun command =>
    command.id = snapshot.command && command.project = project && command.name = name &&
      command.isEnabled

/-- The graph of the enabled command of a project and a name, of any kind. Of several the one that was saved
first counts. -/
def activeGraph (store : Store) (project : Uuid) (name : String) : Option Value :=
  (store.snapshots.find? fun snapshot =>
    snapshot.isActive && store.belongs project name snapshot).map (·.graph)

/-! ## Deployments -/

def deployment? (store : Store) (guild : String) (project : Uuid) : Option Deployment :=
  store.deployments.find? fun d => d.guild = guild && d.project = project

/-- The projects that are deployed in a guild, in the order of their first deployment. -/
def activeProjects (store : Store) (guild : String) : List Uuid :=
  (store.deployments.filter fun d => d.guild = guild && d.isActive).map (·.project)

/-- Marks the record of a project in a guild, if there is one. -/
def mark (guild : String) (project : Uuid) (isActive : Bool) (d : Deployment) : Deployment :=
  if d.guild = guild && d.project = project then { d with isActive } else d

/-- Deploys a project: a new record comes last, an old one keeps its place. -/
def activate (store : Store) (guild : String) (project : Uuid) : Store :=
  { store with
    deployments :=
      if (store.deployment? guild project).isSome then
        store.deployments.map (mark guild project true)
      else store.deployments ++ [⟨guild, project, true⟩] }

def deactivate (store : Store) (guild : String) (project : Uuid) : Store :=
  { store with deployments := store.deployments.map (mark guild project false) }

def deactivateGuild (store : Store) (guild : String) : Store :=
  { store with
    deployments := store.deployments.map fun d =>
      if d.guild = guild then { d with isActive := false } else d }

end Store

end CommandFlow.Service
