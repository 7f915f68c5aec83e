import CommandFlow.Proofs.Service.Locking
import Mathlib.Data.Set.Card

/-!
# Who uses the locks

Tasks ask for the locks of guilds, get them, give them back, fail while they hold one, or stop waiting, in any order.
Each task remembers the lock that it was given when it asked, while locks are made and removed on demand.

* `Standing` : how a task stands to the lock of a guild; `Usage` : the table, and how every task stands;
* `Usage.Step`, `Usage.Reachable` : what can happen, and what it leads to;
* `Usage.Orderly` : the lock that a task remembers is that of its guild, with the task in its line;
  `Usage.orderly_step` : it stays so, whatever happens;
* `LockTable.IsTidy` : a guild has a lock only while its tasks are counted; `Usage.isTidy_step` : it stays so;
* `Usage.IsAccurate`, `Usage.Reachable.isAccurate` : the table always tells who uses the locks.
-/

namespace CommandFlow.Service

/-! ## What the table tells -/

namespace LockTable

/-- A guild has a lock only while its tasks are counted, and no count is zero. -/
structure IsTidy (table : LockTable) : Prop where
  counted : ∀ guild number, Entries.get? table.locks guild = some number → 0 < table.usersOf guild
  positive : ∀ guild count, Entries.get? table.users guild = some count → 0 < count

variable {table : LockTable} {uses : String → Nat → Prop}

theorem isTidy_empty : IsTidy {} where
  counted _ _ h := by cases h
  positive _ _ h := by cases h

theorem isTidy_request (h : table.IsTidy) (guild : String) (task : Nat) : (table.request guild task).IsTidy where
  counted g number hg := by
    by_cases hguild : guild = g
    · subst hguild
      rw [usersOf_request_self]
      exact Nat.succ_pos _
    · rw [get?_request_of_ne hguild] at hg
      rw [usersOf_request_of_ne hguild]
      exact h.counted g number hg
  positive g count hg := by
    rw [users_request, Entries.get?_insert] at hg
    split at hg
    · cases hg
      exact Nat.succ_pos _
    · exact h.positive g count hg

theorem isTidy_change (h : table.IsTidy) (number : Nat) (f : Lock → Lock) : (table.change number f).IsTidy :=
  ⟨h.counted, h.positive⟩

theorem isTidy_leave (h : table.IsTidy) (hfor : table.IsFor uses) (guild : String) (number task : Nat) :
    (table.leave guild number task).IsTidy where
  counted g k hg := by
    by_cases hguild : guild = g
    · subst hguild
      rw [get?_leave_self hfor] at hg
      split at hg
      · cases hg
      · rw [usersOf_leave_self hfor]
        omega
    · rw [get?_leave_of_ne hguild] at hg
      rw [usersOf_leave_of_ne hguild]
      exact h.counted g k hg
  positive g count hg := by
    rw [users_leave] at hg
    split at hg
    · by_cases hguild : guild = g
      · subst hguild
        rw [Entries.get?_erase_self hfor.uniqueUsers] at hg
        cases hg
      · rw [Entries.get?_erase_of_ne _ hguild] at hg
        exact h.positive g count hg
    · rw [Entries.get?_insert] at hg
      split at hg
      · cases hg
        omega
      · exact h.positive g count hg

/-- A guild has a lock as long as its tasks are counted. -/
theorem IsTidy.contains_iff (h : table.IsTidy) (hfor : table.IsFor uses) (guild : String) :
    Entries.contains table.locks guild = true ↔ 0 < table.usersOf guild := by
  rw [Entries.contains]
  cases hlock : Entries.get? table.locks guild with
  | none =>
    have hnone : table.lockOf guild = none := by rw [lockOf, hlock, Option.map_none]
    simp [(hfor.idle guild hnone).1]
  | some number => simp [h.counted guild number hlock]

/-- Where no task is counted there are no locks, and no counts. -/
theorem IsTidy.eq_nil (h : table.IsTidy) (hnone : ∀ guild, table.usersOf guild = 0) :
    table.locks = [] ∧ table.users = [] := by
  constructor
  · refine Entries.eq_nil_of_get? fun guild => Option.eq_none_iff_forall_ne_some.mpr fun number hnumber => ?_
    exact absurd (hnone guild) (Nat.ne_of_gt (h.counted guild number hnumber))
  · refine Entries.eq_nil_of_get? fun guild => Option.eq_none_iff_forall_ne_some.mpr fun count hcount => ?_
    have hzero := hnone guild
    rw [usersOf, hcount, Option.getD_some] at hzero
    exact absurd hzero (Nat.ne_of_gt (h.positive guild count hcount))

/-- The count of a guild is the number of the tasks that use its lock. -/
theorem IsFor.encard_eq (h : table.IsFor uses) (guild : String) :
    (table.usersOf guild : ℕ∞) = {task | uses guild task}.encard := by
  cases hlock : table.lockOf guild with
  | none =>
    obtain ⟨hzero, hnone⟩ := h.idle guild hlock
    have hempty : {task | uses guild task} = ∅ := Set.eq_empty_of_forall_notMem hnone
    rw [hzero, hempty, Set.encard_empty, Nat.cast_zero]
  | some lock =>
    obtain ⟨husers, hnodup, hmem⟩ := h.line guild lock hlock
    have hset : {task | uses guild task} = (lock.line.toFinset : Set Nat) := by
      ext task
      rw [Set.mem_ofPred_eq, List.coe_toFinset, Set.mem_ofPred_eq, hmem task]
    rw [hset, Set.encard_coe_eq_coe_finsetCard, List.toFinset_card_of_nodup hnodup, husers]

end LockTable

/-! ## Tasks and locks -/

/-- How a task stands to the lock of a guild. -/
inductive Standing where
  /-- The task does not use the lock. -/
  | away
  /-- The task waits for the lock of this number. -/
  | waiting (lock : Nat)
  /-- The task holds the lock of this number. -/
  | holding (lock : Nat)
  deriving DecidableEq

def Standing.lock? : Standing → Option Nat
  | away => none
  | waiting lock => some lock
  | holding lock => some lock

theorem Standing.lock?_eq_none_iff (standing : Standing) : standing.lock? = none ↔ standing = away := by
  cases standing <;> simp [lock?]

/-- A free lock goes to a task of the line, which comes before those that asked earlier. -/
def Lock.advance (lock : Lock) (task : Nat) : Lock :=
  ⟨lock.line.filter (· = task) ++ lock.line.filter (· ≠ task), true⟩

namespace Lock

theorem perm_advance (lock : Lock) (task : Nat) : (lock.advance task).line.Perm lock.line := by
  have hsplit := List.filter_append_perm (· = task) lock.line
  simpa [advance] using hsplit

theorem holder?_advance {lock : Lock} {task : Nat} (h : task ∈ lock.line) :
    (lock.advance task).holder? = some task := by
  have hmem : task ∈ lock.line.filter (· = task) := List.mem_filter.mpr ⟨h, decide_eq_true rfl⟩
  cases hfirst : lock.line.filter (· = task) with
  | nil =>
    rw [hfirst] at hmem
    cases hmem
  | cons first rest =>
    have hhead : first ∈ lock.line.filter (· = task) := hfirst ▸ List.mem_cons_self
    have heq : first = task := of_decide_eq_true (List.mem_filter.mp hhead).2
    simp [holder?, advance, hfirst, heq]

end Lock

/-- The table, and how each task stands to the lock of each guild. -/
structure Usage where
  table : LockTable := {}
  standing : String → Nat → Standing := fun _ _ => .away

namespace Usage

/-- The task waits for the lock of the guild or holds it. -/
def Uses (usage : Usage) (guild : String) (task : Nat) : Prop := usage.standing guild task ≠ .away

def IsInside (usage : Usage) (guild : String) (task : Nat) : Prop :=
  ∃ lock, usage.standing guild task = .holding lock

def place (usage : Usage) (guild : String) (task : Nat) (standing : Standing) : Usage :=
  { usage with standing := fun g n => if g = guild ∧ n = task then standing else usage.standing g n }

/-- A task that has asked for a lock holds it, or waits for it. -/
def enter (usage : Usage) (guild : String) (task lock : Nat) : Usage :=
  usage.place guild task (if usage.table.holds lock task then .holding lock else .waiting lock)

def request (usage : Usage) (guild : String) (task : Nat) : Usage :=
  { usage with table := usage.table.request guild task }.enter guild task (usage.table.numberFor guild)

/-- A task that waits gets the lock, if it is its turn. -/
def retry (usage : Usage) (guild : String) (task lock : Nat) : Usage :=
  { usage with table := usage.table.take lock task }.enter guild task lock

/-- A task that waits gets the lock before tasks that asked earlier. -/
def overtake (usage : Usage) (guild : String) (task lock : Nat) : Usage :=
  { usage with table := usage.table.change lock (·.advance task) }.place guild task (.holding lock)

/-- A task gives its lock back, or stops waiting for it. -/
def quit (usage : Usage) (guild : String) (task lock : Nat) : Usage :=
  { usage with table := usage.table.leave guild lock task }.place guild task .away

/-- What can happen. A lock is given only to a task that waits for it, while no task holds it. -/
inductive Step (usage : Usage) : Usage → Prop where
  /-- A task asks for the lock of a guild. -/
  | request {guild : String} {task : Nat} (haway : usage.standing guild task = .away) :
      Step usage (usage.request guild task)
  /-- A task that waits gets the lock, if it is its turn. -/
  | retry {guild : String} {task lock : Nat} (hwaiting : usage.standing guild task = .waiting lock) :
      Step usage (usage.retry guild task lock)
  /-- A task gets a free lock out of turn: those before it are about to stop waiting. -/
  | overtake {guild : String} {task lock : Nat} (hwaiting : usage.standing guild task = .waiting lock)
      (hfree : (usage.table.lock lock).isHeld = false) : Step usage (usage.overtake guild task lock)
  /-- A task has done its work and gives its lock back. -/
  | release {guild : String} {task lock : Nat} (hholding : usage.standing guild task = .holding lock) :
      Step usage (usage.quit guild task lock)
  /-- An exception ends the work of a task, which gives its lock back. -/
  | fail {guild : String} {task lock : Nat} (hholding : usage.standing guild task = .holding lock) :
      Step usage (usage.quit guild task lock)
  /-- A task that waits is cancelled, even if it is its turn. -/
  | cancel {guild : String} {task lock : Nat} (hwaiting : usage.standing guild task = .waiting lock) :
      Step usage (usage.quit guild task lock)

/-- What can have happened since there were no tasks and no locks. -/
inductive Reachable : Usage → Prop where
  | begin : Reachable {}
  | step {usage next : Usage} (h : Reachable usage) (hstep : usage.Step next) : Reachable next

variable {usage next : Usage} {table : LockTable} {guild : String} {task lock : Nat} {standing : Standing}

/-! ## Standing otherwise -/

theorem standing_place (usage : Usage) (guild : String) (task : Nat) (standing : Standing) (g : String) (n : Nat) :
    (usage.place guild task standing).standing g n =
      if g = guild ∧ n = task then standing else usage.standing g n := rfl

theorem place_standing (usage : Usage) (guild : String) (task : Nat) :
    usage.place guild task (usage.standing guild task) = usage := by
  have hsame : (usage.place guild task (usage.standing guild task)).standing = usage.standing := by
    funext g n
    rw [standing_place]
    split
    · rename_i h
      rw [h.1, h.2]
    · rfl
  exact congrArg (Usage.mk usage.table) hsame

/-- A task that waits or holds uses the lock of the guild, beside all that used it before. -/
theorem uses_place_of_ne (usage : Usage) (h : standing ≠ .away) (g : String) (n : Nat) :
    (usage.place guild task standing).Uses g n ↔ usage.Uses g n ∨ (g = guild ∧ n = task) := by
  unfold Uses
  rw [standing_place]
  by_cases hself : g = guild ∧ n = task
  · simp [hself, h]
  · simp [hself]

theorem uses_place_away (usage : Usage) (guild : String) (task : Nat) (g : String) (n : Nat) :
    (usage.place guild task .away).Uses g n ↔ usage.Uses g n ∧ ¬ (g = guild ∧ n = task) := by
  unfold Uses
  rw [standing_place]
  by_cases hself : g = guild ∧ n = task
  · simp [hself]
  · simp [hself]

/-! ## Order -/

/-- The table has a lock for the guilds that some task uses, every task uses the lock of the guild, and who holds it
is its holder. -/
structure Orderly (usage : Usage) : Prop where
  locks : usage.table.IsFor usage.Uses
  own : ∀ (guild : String) (task lock : Nat), (usage.standing guild task).lock? = some lock →
    Entries.get? usage.table.locks guild = some lock
  turn : ∀ (guild : String) (task lock : Nat), usage.standing guild task = .holding lock →
    usage.table.holds lock task = true

theorem orderly_empty : Orderly {} where
  locks := by
    have huses : ({} : Usage).Uses = fun _ _ => False := by
      funext guild task
      exact eq_false fun h => h rfl
    rw [huses]
    exact LockTable.isFor_empty
  own _ _ _ h := by cases h
  turn _ _ _ h := by cases h

theorem uses_of_lock? (h : (usage.standing guild task).lock? = some lock) : usage.Uses guild task := by
  intro haway
  rw [haway] at h
  cases h

theorem Orderly.made (h : usage.Orderly) (hlock : (usage.standing guild task).lock? = some lock) :
    lock < usage.table.made.length := h.locks.made guild lock (h.own guild task lock hlock)

/-- Of the tasks that use the lock of a guild at most one holds it. -/
theorem Orderly.eq_of_isInside (h : usage.Orderly) {other : Nat} (htask : usage.IsInside guild task)
    (hother : usage.IsInside guild other) : task = other := by
  obtain ⟨lock, hlock⟩ := htask
  obtain ⟨lock', hlock'⟩ := hother
  have hown := h.own guild task lock (by rw [hlock]; rfl)
  have hown' := h.own guild other lock' (by rw [hlock']; rfl)
  rw [hown', Option.some.injEq] at hown
  subst hown
  have hholds : (usage.table.lock lock').holder? = some task := of_decide_eq_true (h.turn guild task lock' hlock)
  have hholds' : (usage.table.lock lock').holder? = some other :=
    of_decide_eq_true (h.turn guild other lock' hlock')
  exact Option.some.inj (hholds.symm.trans hholds')

/-- All is still in order when a task stands otherwise, with another table, if that is right for the task and every
other task has kept its lock. -/
theorem orderly_place (hlocks : table.IsFor (({ usage with table } : Usage).place guild task standing).Uses)
    (hown : ∀ lock, standing.lock? = some lock → Entries.get? table.locks guild = some lock)
    (hturn : ∀ lock, standing = .holding lock → table.holds lock task = true)
    (hget : ∀ g n k, ¬ (g = guild ∧ n = task) → (usage.standing g n).lock? = some k →
      Entries.get? table.locks g = some k)
    (hholds : ∀ g n k, ¬ (g = guild ∧ n = task) → usage.standing g n = .holding k → table.holds k n = true) :
    (({ usage with table } : Usage).place guild task standing).Orderly where
  locks := hlocks
  own g n k hk := by
    rw [standing_place] at hk
    split at hk
    · rename_i hself
      rw [hself.1]
      exact hown k hk
    · rename_i hself
      exact hget g n k hself hk
  turn g n k hk := by
    rw [standing_place] at hk
    split at hk
    · rename_i hself
      rw [hself.2]
      exact hturn k hk
    · rename_i hself
      exact hholds g n k hself hk

/-- All is still in order when a task waits for the lock of its guild, or holds it as its holder. -/
theorem orderly_place_of_lock? (hstanding : standing.lock? = some lock)
    (hlocks : table.IsFor fun g n => usage.Uses g n ∨ (g = guild ∧ n = task))
    (hlock : Entries.get? table.locks guild = some lock)
    (hturn : standing = .holding lock → table.holds lock task = true)
    (hget : ∀ g n k, (usage.standing g n).lock? = some k → Entries.get? table.locks g = some k)
    (hholds : ∀ g n k, usage.standing g n = .holding k → table.holds k n = true) :
    (({ usage with table } : Usage).place guild task standing).Orderly := by
  have hne : standing ≠ .away := by
    rintro rfl
    cases hstanding
  have huses := hlocks.congr fun g n => (uses_place_of_ne { usage with table } hne g n).symm
  refine orderly_place huses (fun k hk => ?_) (fun k hk => ?_) (fun g n k _ => hget g n k) fun g n k _ => hholds g n k
  · rw [hstanding, Option.some.injEq] at hk
    exact hk ▸ hlock
  · have hsame : some k = some lock := by rw [← hstanding, hk]; rfl
    cases hsame
    exact hturn hk

/-- A task that has asked for the lock of its guild holds it or waits for it. -/
theorem orderly_enter (hlocks : table.IsFor fun g n => usage.Uses g n ∨ (g = guild ∧ n = task))
    (hlock : Entries.get? table.locks guild = some lock)
    (hget : ∀ g n k, (usage.standing g n).lock? = some k → Entries.get? table.locks g = some k)
    (hholds : ∀ g n k, usage.standing g n = .holding k → table.holds k n = true) :
    (({ usage with table } : Usage).enter guild task lock).Orderly := by
  unfold enter
  split
  · rename_i hheld
    exact orderly_place_of_lock? rfl hlocks hlock (fun _ => hheld) hget hholds
  · exact orderly_place_of_lock? rfl hlocks hlock (fun hholding => by cases hholding) hget hholds

/-- A task that uses the lock already is not one more when it gets it. -/
theorem isFor_of_uses (h : table.IsFor usage.Uses) (huses : usage.Uses guild task) :
    table.IsFor fun g n => usage.Uses g n ∨ (g = guild ∧ n = task) := by
  refine h.congr fun g n => ⟨Or.inl, ?_⟩
  rintro (hother | ⟨rfl, rfl⟩)
  · exact hother
  · exact huses

/-! ## What happens -/

theorem orderly_request (h : usage.Orderly) (haway : usage.standing guild task = .away) :
    (usage.request guild task).Orderly := by
  have hnew : ¬ usage.Uses guild task := fun huses => huses haway
  refine orderly_enter (LockTable.isFor_request h.locks hnew) (LockTable.get?_request h.locks guild task) ?_ ?_
  · intro g n k hk
    have hown := h.own g n k hk
    by_cases hguild : guild = g
    · subst hguild
      rw [LockTable.get?_request h.locks, LockTable.numberFor, hown]
      rfl
    · rwa [LockTable.get?_request_of_ne hguild]
  · intro g n k hk
    exact LockTable.holds_request (h.made (by rw [hk]; rfl)) (h.turn g n k hk) guild task

theorem orderly_retry (h : usage.Orderly) (hwaiting : usage.standing guild task = .waiting lock) :
    (usage.retry guild task lock).Orderly := by
  have hlock : (usage.standing guild task).lock? = some lock := by rw [hwaiting]; rfl
  refine orderly_enter (isFor_of_uses (LockTable.isFor_take h.locks lock task) (uses_of_lock? hlock))
    (h.own guild task lock hlock) h.own fun g n k hk => ?_
  exact LockTable.holds_take (h.made (by rw [hk]; rfl)) (h.turn g n k hk) lock task

theorem orderly_overtake (h : usage.Orderly) (hwaiting : usage.standing guild task = .waiting lock)
    (hfree : (usage.table.lock lock).isHeld = false) : (usage.overtake guild task lock).Orderly := by
  have hlock : (usage.standing guild task).lock? = some lock := by rw [hwaiting]; rfl
  have huses := uses_of_lock? hlock
  have hown := h.own guild task lock hlock
  have hline : task ∈ (usage.table.lock lock).line :=
    ((h.locks.line guild _ (LockTable.lockOf_of_get? hown)).2.2 task).mpr huses
  have hchanged := LockTable.isFor_change h.locks lock (·.advance task) fun l => l.perm_advance task
  refine orderly_place_of_lock? rfl (isFor_of_uses hchanged huses) hown (fun _ => ?_) h.own fun g n k hk => ?_
  · refine decide_eq_true ?_
    rw [LockTable.lock_change_self (h.made hlock)]
    exact Lock.holder?_advance hline
  · -- a lock that is free has no holder
    have hheld : (usage.table.lock k).holder? = some n := of_decide_eq_true (h.turn g n k hk)
    have hne : lock ≠ k := by
      rintro rfl
      rw [Lock.holder?, hfree] at hheld
      cases hheld
    refine decide_eq_true ?_
    rwa [LockTable.lock_change_of_ne hne]

theorem orderly_quit (h : usage.Orderly) (hlock : (usage.standing guild task).lock? = some lock) :
    (usage.quit guild task lock).Orderly := by
  have hown := h.own guild task lock hlock
  have hleft : (usage.table.leave guild lock task).IsFor (usage.quit guild task lock).Uses :=
    (LockTable.isFor_leave h.locks (uses_of_lock? hlock) hown).congr fun g n =>
      (uses_place_away { usage with table := usage.table.leave guild lock task } guild task g n).symm
  refine orderly_place hleft (fun k hk => by cases hk) (fun k hk => by cases hk) ?_ ?_
  · intro g n k hother hk
    have hbefore := h.own g n k hk
    by_cases hguild : guild = g
    · -- the guild has a user left, so it keeps its lock
      subst hguild
      rw [LockTable.get?_leave_self h.locks]
      split
      · rename_i hone
        have hgone : (usage.table.leave guild lock task).lockOf guild = none := by
          rw [LockTable.lockOf_leave_self h.locks hown, if_pos hone]
        refine absurd ?_ ((hleft.idle guild hgone).2 n)
        exact (uses_place_away _ guild task guild n).mpr ⟨uses_of_lock? hk, hother⟩
      · exact hbefore
    · rwa [LockTable.get?_leave_of_ne hguild]
  · intro g n k hother hk
    have hused : (usage.standing g n).lock? = some k := by rw [hk]; rfl
    refine LockTable.holds_leave (h.made hused) ?_ (h.turn g n k hk) guild
    rintro rfl rfl
    exact hother ⟨h.locks.apart g guild lock (h.own g n lock hused) hown, rfl⟩

/-- All stays in order, whatever happens. -/
theorem orderly_step (h : usage.Orderly) (hstep : usage.Step next) : next.Orderly := by
  cases hstep with
  | request haway => exact orderly_request h haway
  | retry hwaiting => exact orderly_retry h hwaiting
  | overtake hwaiting hfree => exact orderly_overtake h hwaiting hfree
  | release hholding => exact orderly_quit h (by rw [hholding]; rfl)
  | fail hholding => exact orderly_quit h (by rw [hholding]; rfl)
  | cancel hwaiting => exact orderly_quit h (by rw [hwaiting]; rfl)

theorem Reachable.orderly (h : Reachable usage) : usage.Orderly := by
  induction h with
  | begin => exact orderly_empty
  | step _ hstep ih => exact orderly_step ih hstep

theorem isTidy_step (h : usage.Orderly) (htidy : usage.table.IsTidy) (hstep : usage.Step next) :
    next.table.IsTidy := by
  cases hstep with
  | request haway => exact LockTable.isTidy_request htidy _ _
  | retry hwaiting => exact LockTable.isTidy_change htidy _ _
  | overtake hwaiting hfree => exact LockTable.isTidy_change htidy _ _
  | release hholding => exact LockTable.isTidy_leave htidy h.locks _ _ _
  | fail hholding => exact LockTable.isTidy_leave htidy h.locks _ _ _
  | cancel hwaiting => exact LockTable.isTidy_leave htidy h.locks _ _ _

theorem Reachable.isTidy (h : Reachable usage) : usage.table.IsTidy := by
  induction h with
  | begin => exact LockTable.isTidy_empty
  | step h hstep ih => exact isTidy_step h.orderly ih hstep

/-! ## Who uses the locks -/

/-- The table tells who uses the locks. -/
structure IsAccurate (usage : Usage) : Prop where
  /-- A guild has a lock as long as its count is positive. -/
  entry : ∀ guild, Entries.contains usage.table.locks guild = true ↔ 0 < usage.table.usersOf guild
  /-- The count is the number of the tasks that hold the lock of the guild or wait for it. -/
  count : ∀ guild, (usage.table.usersOf guild : ℕ∞) = {task | usage.Uses guild task}.encard
  /-- All of these hold, or wait for, the lock that the guild has in the table. -/
  shared : ∀ guild task, usage.Uses guild task →
    (usage.standing guild task).lock? = Entries.get? usage.table.locks guild
  /-- At most one of them holds it. -/
  alone : ∀ guild task other, usage.IsInside guild task → usage.IsInside guild other → task = other
  /-- Without such tasks nothing is left in the table. -/
  empty : (∀ guild task, ¬ usage.Uses guild task) → usage.table.locks = [] ∧ usage.table.users = []

/-- At every moment the table tells who uses the locks, whatever happened before. -/
theorem Reachable.isAccurate (h : Reachable usage) : usage.IsAccurate where
  entry := h.isTidy.contains_iff h.orderly.locks
  count := h.orderly.locks.encard_eq
  shared guild task huses := by
    cases hlock : (usage.standing guild task).lock? with
    | none => exact absurd ((Standing.lock?_eq_none_iff _).mp hlock) huses
    | some lock => exact (h.orderly.own guild task lock hlock).symm
  alone _ _ _ := h.orderly.eq_of_isInside
  empty hnone := by
    refine h.isTidy.eq_nil fun guild => ?_
    have hempty : {task | usage.Uses guild task} = ∅ := Set.eq_empty_of_forall_notMem (hnone guild)
    have hcount := h.orderly.locks.encard_eq guild
    rw [hempty, Set.encard_empty] at hcount
    exact Nat.cast_eq_zero.mp hcount

/-- Four tasks have asked for the lock of a guild, and the first has got it. -/
def asked : Usage :=
  (((({} : Usage).request "guild" 0).request "guild" 1).request "guild" 2).request "guild" 3

theorem reachable_asked : Reachable asked :=
  (((Reachable.begin.step (.request rfl)).step (.request (by decide))).step (.request (by decide))).step
    (.request (by decide))

/-- The first task has failed, and the third got the lock before the second, which was cancelled, had left. -/
def overtaken : Usage := ((asked.quit "guild" 0 0).overtake "guild" 2 0).quit "guild" 1 0

theorem reachable_overtaken : Reachable overtaken :=
  ((reachable_asked.step (.fail (by decide))).step (.overtake (by decide) (by decide))).step (.cancel (by decide))

theorem isAccurate_overtaken :
    Reachable overtaken ∧ overtaken.standing "guild" 2 = .holding 0 ∧ overtaken.standing "guild" 3 = .waiting 0 ∧
      overtaken.table.usersOf "guild" = 2 ∧ overtaken.IsAccurate :=
  ⟨reachable_overtaken, by decide, by decide, by decide, Reachable.isAccurate reachable_overtaken⟩

end Usage

end CommandFlow.Service
