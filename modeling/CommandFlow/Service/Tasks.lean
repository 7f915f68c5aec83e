/-!
# Running invocations

* `Tasks` : the invocations that run, those that the bot keeps, whether it is started, and which invocations a stop
  awaits;
* `Tasks.start`, `Tasks.dispatch`, `Tasks.finish`, `Tasks.forget`, `Tasks.beginStop`, `Tasks.endStop` : what happens
  to them;
* `Tasks.conclude`, `Tasks.stop` : what happens when nothing comes between.
-/

namespace CommandFlow.Service

/-- The invocations, by number. The bot keeps an invocation from its beginning until it learns that the invocation has
ended. A stop cancels those that are kept when it begins, and awaits their end. -/
structure Tasks where
  isStarted : Bool := false
  dispatched : Nat := 0
  running : List Nat := []
  kept : List Nat := []
  awaited : Option (List Nat) := none
  deriving DecidableEq

namespace Tasks

def start (tasks : Tasks) : Tasks := { tasks with isStarted := true }

/-- An invocation begins to run; its number. Whether the bot is started or is being stopped does not matter. -/
def dispatch (tasks : Tasks) : Nat × Tasks :=
  (tasks.dispatched, { tasks with
    dispatched := tasks.dispatched + 1
    running := tasks.running ++ [tasks.dispatched]
    kept := tasks.kept ++ [tasks.dispatched] })

/-- An invocation has ended, in whatever way. -/
def finish (tasks : Tasks) (task : Nat) : Tasks :=
  { tasks with running := tasks.running.filter (· ≠ task) }

/-- The bot learns that an invocation has ended. -/
def forget (tasks : Tasks) (task : Nat) : Tasks :=
  { tasks with kept := tasks.kept.filter (· ≠ task) }

/-- An invocation ends, and the bot learns of it. -/
def conclude (tasks : Tasks) (task : Nat) : Tasks := (tasks.finish task).forget task

/-- A stop begins: it cancels the invocations that are kept. -/
def beginStop (tasks : Tasks) : Tasks := { tasks with awaited := some tasks.kept }

def canEndStop (tasks : Tasks) : Bool :=
  match tasks.awaited with
  | some awaited => awaited.all fun task => !tasks.running.contains task
  | none => false

/-- The stop returns, if every invocation that it awaits has ended. -/
def endStop (tasks : Tasks) : Tasks :=
  if tasks.canEndStop then { tasks with isStarted := false, awaited := none } else tasks

/-- A stop during which nothing else happens: the cancelled invocations end, and it returns. -/
def stop (tasks : Tasks) : Tasks :=
  (tasks.kept.foldl conclude tasks.beginStop).endStop

end Tasks

end CommandFlow.Service
