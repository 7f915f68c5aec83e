import CommandFlow.Service.LockTable
import CommandFlow.Service.Router

/-!
# Operations at the same time

Several tasks carry out operations. A task that knows the answer at once gives it; any other asks for the lock
of its guild, waits for its turn, makes the accesses of its procedure and gives the lock back. Between two
moves of a task every other task may move.

* `Stage` : how far a task has come; `Session` : the tasks, the locks and the world;
* `Session.move` : the next move of a task; `Session.follow` : the moves of a schedule;
* `Session.settle` : rounds in which every task moves once, until all have finished.
-/

namespace CommandFlow.Service

inductive Stage where
  /-- The task has not begun. -/
  | pending
  /-- The task waits for a lock. -/
  | waiting (lock : Nat)
  /-- The task holds a lock and has accesses left. -/
  | inside (lock : Nat) (rest : Procedure Answer)
  /-- The task has its answer. -/
  | finished (answer : Except ServiceFault Answer)

def Stage.isFinished : Stage → Bool
  | finished _ => true
  | _ => false

/-- An operation for a guild, and how far it has come. -/
structure Task where
  guild : String
  operation : Operation
  stage : Stage := .pending

def Task.answer? (task : Task) : Option (Except ServiceFault Answer) :=
  match task.stage with
  | .finished answer => some answer
  | _ => none

/-- The tasks, the locks and the world. -/
structure Session (σ : Type) where
  tasks : List Task
  locks : LockTable := {}
  world : World σ

/-- The answer to an operation that is given without the lock: the project of a name, in a guild whose names
are known. -/
def Operation.immediate? {σ : Type} (world : World σ) (guild : String) :
    Operation → Option (Except ServiceFault Answer)
  | resolve name => (world.known guild).map fun names =>
    match Entries.get? names name with
    | some project => .ok (.project project)
    | none => .error (.notDeployed guild name)
  | _ => none

namespace Session

variable {σ : Type}

def place (session : Session σ) (task : Nat) (stage : Stage) : Session σ :=
  { session with tasks := session.tasks.modify task fun t => { t with stage } }

/-- A task enters, if it holds the lock that it has asked for. -/
def enter (session : Session σ) (number : Nat) (task : Task) (lock : Nat) : Session σ :=
  if session.locks.holds lock number then
    session.place number (.inside lock (task.operation.procedure task.guild))
  else session.place number (.waiting lock)

/-- A task begins: it answers at once or asks for the lock. -/
def start (session : Session σ) (number : Nat) (task : Task) : Session σ :=
  match task.operation.immediate? session.world task.guild with
  | some answer => session.place number (.finished answer)
  | none =>
    { session with locks := session.locks.request task.guild number }.enter number task
      (session.locks.numberFor task.guild)

def finish (session : Session σ) (number : Nat) (task : Task) (lock : Nat)
    (result : Except ServiceFault Answer) : Session σ :=
  { session with locks := session.locks.leave task.guild lock number }.place number
    (.finished (task.operation.answer result))

def move (gateway : Gateway σ) (number : Nat) (session : Session σ) : Session σ :=
  match session.tasks[number]? with
  | none => session
  | some task =>
    match task.stage with
    | .pending => session.start number task
    | .waiting lock =>
      { session with locks := session.locks.take lock number }.enter number task lock
    | .inside lock (.done answer) => session.finish number task lock (.ok answer)
    | .inside lock (.fail fault) => session.finish number task lock (.error fault)
    | .inside lock rest =>
      let (rest, world) := rest.step gateway task.guild session.world
      { session with world }.place number (.inside lock rest)
    | .finished _ => session

/-- The moves of a schedule, which names the task of each move. -/
def follow (gateway : Gateway σ) (schedule : List Nat) (session : Session σ) : Session σ :=
  schedule.foldl (fun session number => session.move gateway number) session

/-- Every task has its answer. -/
def isSettled (session : Session σ) : Bool := session.tasks.all (·.stage.isFinished)

/-- One move of every task, in turn. -/
def round (gateway : Gateway σ) (session : Session σ) : Session σ :=
  session.follow gateway (List.range session.tasks.length)

/-- At most so many rounds, until every task has its answer. -/
def rounds (gateway : Gateway σ) : Nat → Session σ → Session σ
  | 0, session => session
  | n + 1, session =>
    if session.isSettled then session else rounds gateway n (session.round gateway)

/-- Enough rounds for every task: in its turn each reads the commands of no more projects than there are
records and tasks, and makes few other accesses. -/
def enough (session : Session σ) : Nat :=
  session.tasks.length * (session.world.router.store.deployments.length + session.tasks.length + 12)

/-- Rounds in which every task moves once, until all have finished. -/
def settle (gateway : Gateway σ) (session : Session σ) : Session σ :=
  session.rounds gateway session.enough

end Session

end CommandFlow.Service
