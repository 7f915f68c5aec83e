import CommandFlow.Entries

/-!
# The locks of guilds

A guild has a lock while some task holds it or waits for it. Tasks and locks are numbered.

* `Lock` : the tasks that hold a lock or wait for it, in the order of their requests;
* `LockTable` : the lock of each guild, and how many tasks use it;
* `LockTable.request`, `LockTable.take` : a task asks for the lock of a guild, and gets it in its turn;
* `LockTable.leave` : a task gives a lock back, or stops waiting for it.
-/

namespace CommandFlow.Service

/-- The tasks that hold a lock or wait for it, in the order of their requests. If it is held, then by the
first of them. -/
structure Lock where
  line : List Nat := []
  isHeld : Bool := false
  deriving DecidableEq

namespace Lock

def holder? (lock : Lock) : Option Nat := if lock.isHeld then lock.line.head? else none

/-- A task asks for the lock. If no other task is in the line it gets the lock at once. -/
def request (lock : Lock) (task : Nat) : Lock :=
  ⟨lock.line ++ [task], lock.isHeld || lock.line.isEmpty⟩

def isNext (lock : Lock) (task : Nat) : Bool := !lock.isHeld && lock.line.head? = some task

def take (lock : Lock) (task : Nat) : Lock :=
  if lock.isNext task then { lock with isHeld := true } else lock

/-- A task leaves the line. If it held the lock the lock is free. -/
def leave (lock : Lock) (task : Nat) : Lock :=
  ⟨lock.line.filter (· ≠ task), lock.isHeld && lock.holder? ≠ some task⟩

end Lock

/-- The lock of each guild that has one, how many tasks use it, and all locks there ever were. -/
structure LockTable where
  locks : Entries Nat := []
  users : Entries Nat := []
  made : List Lock := []

namespace LockTable

def lock (table : LockTable) (number : Nat) : Lock := table.made.getD number {}

/-- The number of the lock that a request for a guild gets: that of the guild, or a new one. -/
def numberFor (table : LockTable) (guild : String) : Nat :=
  (Entries.get? table.locks guild).getD table.made.length

def provide (table : LockTable) (guild : String) : LockTable :=
  if Entries.contains table.locks guild then table
  else { table with
    locks := Entries.insert table.locks guild table.made.length
    made := table.made ++ [{}] }

def usersOf (table : LockTable) (guild : String) : Nat := (Entries.get? table.users guild).getD 0

def change (table : LockTable) (number : Nat) (f : Lock → Lock) : LockTable :=
  { table with made := table.made.modify number f }

def request (table : LockTable) (guild : String) (task : Nat) : LockTable :=
  let number := table.numberFor guild
  let table := table.provide guild
  { table.change number (·.request task) with
    users := Entries.insert table.users guild (table.usersOf guild + 1) }

def take (table : LockTable) (number task : Nat) : LockTable := table.change number (·.take task)

def holds (table : LockTable) (number task : Nat) : Bool :=
  (table.lock number).holder? = some task

/-- One task less uses the lock of a guild. Without users the guild has no lock. -/
def discount (table : LockTable) (guild : String) : LockTable :=
  if table.usersOf guild ≤ 1 then
    { table with
      locks := Entries.erase table.locks guild
      users := Entries.erase table.users guild }
  else { table with users := Entries.insert table.users guild (table.usersOf guild - 1) }

/-- A task gives a lock back, or stops waiting for it. -/
def leave (table : LockTable) (guild : String) (number task : Nat) : LockTable :=
  (table.change number (·.leave task)).discount guild

end LockTable

end CommandFlow.Service
