import CommandFlow.Entries
import CommandFlow.Service.Fault
import CommandFlow.Service.Store

/-!
# Procedures on the records of a guild

What the service does under the lock of a guild is a procedure: the accesses it makes, one after the other.
Between two accesses other tasks may act.

* `Index` : which project answers to a command name in a guild, as far as it is known;
* `Router` : the store and the index; `Gateway` : whether the store answers, and the chat platform;
* `Procedure` : the accesses of a task; `Procedure.step` : makes one of them;
* `Procedure.run` : makes all of them at once.
-/

namespace CommandFlow.Service

abbrev Names := Entries Uuid

/-- The names of each guild, as far as they are known. -/
abbrev Index := Entries Names

/-- The records, and what is known of them. -/
structure Router where
  store : Store := {}
  index : Index := []

/-- The parts of the store: projects, commands and graphs, or deployments. -/
inductive Area where
  | catalogue
  | deployments
  deriving DecidableEq

/-- The outside of procedures, over a state of it: whether an access to the store is answered, and whether
the chat platform takes a registration for a guild. -/
structure Gateway (σ : Type) where
  serves : Area → σ → Bool × σ
  register : String → List Value → σ → Except Fault Unit × σ

/-- A change of the deployments of a guild. -/
inductive Change where
  | activate (project : Uuid)
  | deactivate (project : Uuid)
  | deactivateAll

def Change.apply (guild : String) : Change → Store → Store
  | activate project, store => store.activate guild project
  | deactivate project, store => store.deactivate guild project
  | deactivateAll, store => store.deactivateGuild guild

/-- The accesses that a task makes under the lock of a guild, one after the other. An access that goes wrong
ends it. -/
inductive Procedure (α : Type) where
  /-- The task is done. -/
  | done (answer : α)
  /-- The task gives up. -/
  | fail (fault : ServiceFault)
  /-- Looks up the names that are known. -/
  | known (next : Option Names → Procedure α)
  /-- Reads the registered commands of a project. -/
  | commands (project : Uuid) (next : List Command → Procedure α)
  /-- Reads the projects that are deployed. -/
  | deployed (next : List Uuid → Procedure α)
  /-- Registers commands. -/
  | register (payload : List Value) (next : Procedure α)
  /-- Prepares a change of the deployments. -/
  | prepare (next : Procedure α)
  /-- Makes a change of the deployments. -/
  | commit (change : Change) (next : Procedure α)
  /-- Notes the names, or forgets them. -/
  | note (names : Option Names) (next : Procedure α)

namespace Procedure

variable {α β σ : Type}

def andThen : Procedure α → (α → Procedure β) → Procedure β
  | done answer, f => f answer
  | fail fault, _ => fail fault
  | known next, f => known fun names => (next names).andThen f
  | commands project next, f => commands project fun found => (next found).andThen f
  | deployed next, f => deployed fun projects => (next projects).andThen f
  | register payload next, f => register payload (next.andThen f)
  | prepare next, f => prepare (next.andThen f)
  | commit change next, f => commit change (next.andThen f)
  | note names next, f => note names (next.andThen f)

/-- The procedure of a value that may be missing for a reason. -/
def ofExcept : Except ServiceFault α → Procedure α
  | .ok answer => done answer
  | .error fault => fail fault

end Procedure

def Index.note (index : Index) (guild : String) : Option Names → Index
  | some names => Entries.insert index guild names
  | none => Entries.erase index guild

structure World (σ : Type) where
  router : Router := {}
  outside : σ

namespace World

variable {σ : Type}

def known (world : World σ) (guild : String) : Option Names :=
  Entries.get? world.router.index guild

def commands (world : World σ) (project : Uuid) : List Command :=
  world.router.store.slashCommands project

def deployed (world : World σ) (guild : String) : List Uuid :=
  world.router.store.activeProjects guild

def commit (world : World σ) (guild : String) (change : Change) : World σ :=
  { world with
    router := { world.router with store := change.apply guild world.router.store } }

def note (world : World σ) (guild : String) (names : Option Names) : World σ :=
  { world with
    router := { world.router with index := world.router.index.note guild names } }

end World

namespace Procedure

variable {α σ : Type}

/-- Goes on one way or the other: a part of the store answers, or it does not. -/
def ifServed {γ : Type} (gateway : Gateway σ) (area : Area) (world : World σ)
    (answered refused : World σ → γ) : γ :=
  match gateway.serves area world.outside with
  | (true, outside) => answered { world with outside }
  | (false, outside) => refused { world with outside }

/-- Goes on one way or the other: the chat platform takes a registration, or it does not. -/
def ifRegistered {γ : Type} (gateway : Gateway σ) (guild : String) (payload : List Value)
    (world : World σ) (taken : World σ → γ) (refused : Fault → World σ → γ) : γ :=
  match gateway.register guild payload world.outside with
  | (.ok (), outside) => taken { world with outside }
  | (.error fault, outside) => refused fault { world with outside }

/-- Makes the first access of a procedure; what is left is to be done afterwards. -/
def step (gateway : Gateway σ) (guild : String) (procedure : Procedure α) (world : World σ) :
    Procedure α × World σ :=
  match procedure with
  | done answer => (done answer, world)
  | fail fault => (fail fault, world)
  | known next => (next (world.known guild), world)
  | commands project next =>
    ifServed gateway .catalogue world (fun world => (next (world.commands project), world))
      fun world => (fail .storage, world)
  | deployed next =>
    ifServed gateway .deployments world (fun world => (next (world.deployed guild), world))
      fun world => (fail .storage, world)
  | register payload next =>
    ifRegistered gateway guild payload world (fun world => (next, world))
      fun fault world => (fail (.registration fault), world)
  | prepare next =>
    ifServed gateway .deployments world (fun world => (next, world))
      fun world => (fail .storage, world)
  | commit change next =>
    ifServed gateway .deployments world (fun world => (next, world.commit guild change))
      fun world => (fail .storage, world)
  | note names next => (next, world.note guild names)

/-- Makes every access of a procedure, without any other task in between. -/
def run (gateway : Gateway σ) (guild : String) (procedure : Procedure α) (world : World σ) :
    Except ServiceFault α × World σ :=
  match procedure with
  | done answer => (.ok answer, world)
  | fail fault => (.error fault, world)
  | known next => run gateway guild (next (world.known guild)) world
  | commands project next =>
    ifServed gateway .catalogue world
      (fun world => run gateway guild (next (world.commands project)) world)
      fun world => (.error .storage, world)
  | deployed next =>
    ifServed gateway .deployments world
      (fun world => run gateway guild (next (world.deployed guild)) world)
      fun world => (.error .storage, world)
  | register payload next =>
    ifRegistered gateway guild payload world (fun world => run gateway guild next world)
      fun fault world => (.error (.registration fault), world)
  | prepare next =>
    ifServed gateway .deployments world (fun world => run gateway guild next world)
      fun world => (.error .storage, world)
  | commit change next =>
    ifServed gateway .deployments world
      (fun world => run gateway guild next (world.commit guild change))
      fun world => (.error .storage, world)
  | note names next => run gateway guild next (world.note guild names)

end Procedure

end CommandFlow.Service
