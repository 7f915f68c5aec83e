import CommandFlow.Proofs.Service.Usage
import CommandFlow.Service.Session

/-!
# Mutual exclusion

* `Session.move_pending`, `Session.move_access` and their like : the move of a task at a stage;
* `Session.Moves` : what the next move of a task can be; `Session.moves_move` : it is one of these;
* `Session.Orderly` : the locks are those of the tasks that wait or hold them, and who is inside holds its lock;
  `Session.Orderly.eq_of_isInside` : of the tasks of a guild at most one is inside;
* `Session.usage` : how the tasks stand to the locks; `Session.orderly_iff` : it is in order if the session is;
* `Session.step_move` : the next move of a task is a step in the use of the locks, or none;
  `Session.orderly_move` : a session stays orderly.
-/

namespace CommandFlow.Service

def Stage.lock? : Stage → Option Nat
  | waiting lock => some lock
  | inside lock _ => some lock
  | _ => none

/-- The task holds a lock. -/
def Stage.isInside : Stage → Bool
  | inside _ _ => true
  | _ => false

def Stage.standing : Stage → Standing
  | waiting lock => .waiting lock
  | inside lock _ => .holding lock
  | _ => .away

def Procedure.result? {α : Type} : Procedure α → Option (Except ServiceFault α)
  | done answer => some (.ok answer)
  | fail fault => some (.error fault)
  | _ => none

theorem Stage.lock?_of_isInside {stage : Stage} (h : stage.isInside = true) :
    ∃ lock rest, stage = .inside lock rest := by
  cases stage with
  | inside lock rest => exact ⟨lock, rest, rfl⟩
  | _ => cases h

theorem Stage.lock?_standing (stage : Stage) : stage.standing.lock? = stage.lock? := by
  cases stage <;> rfl

theorem Stage.exists_of_standing_eq_holding {stage : Stage} {lock : Nat} (h : stage.standing = .holding lock) :
    ∃ rest, stage = .inside lock rest := by
  cases stage with
  | inside other rest =>
    cases h
    exact ⟨rest, rfl⟩
  | _ => cases h

namespace Session

variable {σ : Type} {gateway : Gateway σ} {session : Session σ} {number : Nat} {task : Task}

/-! ## Moves -/

theorem move_of_getElem?_eq_none (h : session.tasks[number]? = none) : session.move gateway number = session := by
  unfold move
  rw [h]

theorem move_pending (htask : session.tasks[number]? = some task) (hstage : task.stage = .pending) :
    session.move gateway number = session.start number task := by
  unfold move
  rw [htask]
  simp only [hstage]

theorem move_waiting (htask : session.tasks[number]? = some task) {lock : Nat}
    (hstage : task.stage = .waiting lock) :
    session.move gateway number =
      { session with locks := session.locks.take lock number }.enter number task lock := by
  unfold move
  rw [htask]
  simp only [hstage]

theorem move_finished (htask : session.tasks[number]? = some task) {answer : Except ServiceFault Answer}
    (hstage : task.stage = .finished answer) : session.move gateway number = session := by
  unfold move
  rw [htask]
  simp only [hstage]

theorem move_of_result? (htask : session.tasks[number]? = some task) {lock : Nat} {rest : Procedure Answer}
    (hstage : task.stage = .inside lock rest) {result : Except ServiceFault Answer}
    (hresult : rest.result? = some result) :
    session.move gateway number = session.finish number task lock result := by
  unfold move
  rw [htask]
  simp only [hstage]
  cases rest with
  | done answer =>
    cases hresult
    rfl
  | fail fault =>
    cases hresult
    rfl
  | _ => cases hresult

theorem move_access (htask : session.tasks[number]? = some task) {lock : Nat} {rest : Procedure Answer}
    (hstage : task.stage = .inside lock rest) (hrest : rest.result? = none) :
    session.move gateway number =
      { session with world := (rest.step gateway task.guild session.world).2 }.place number
        (.inside lock (rest.step gateway task.guild session.world).1) := by
  unfold move
  rw [htask]
  simp only [hstage]
  cases rest with
  | done answer => cases hrest
  | fail fault => cases hrest
  | _ => rfl

/-- What the next move of a task can be. -/
inductive Moves (gateway : Gateway σ) (session : Session σ) (number : Nat) : Session σ → Prop where
  /-- There is no such task, or it has its answer. -/
  | rests (h : ∀ task, session.tasks[number]? = some task → task.stage.isFinished = true) :
      Moves gateway session number session
  /-- The task knows the answer at once. -/
  | answers {task : Task} {answer : Except ServiceFault Answer}
      (htask : session.tasks[number]? = some task) (hstage : task.stage = .pending)
      (hanswer : task.operation.immediate? session.world task.guild = some answer) :
      Moves gateway session number (session.place number (.finished answer))
  /-- The task asks for the lock of its guild. -/
  | asks {task : Task} (htask : session.tasks[number]? = some task) (hstage : task.stage = .pending) :
      Moves gateway session number
        ({ session with locks := session.locks.request task.guild number }.enter number task
          (session.locks.numberFor task.guild))
  /-- The task tries to get the lock that it has asked for. -/
  | retries {task : Task} {lock : Nat} (htask : session.tasks[number]? = some task)
      (hstage : task.stage = .waiting lock) :
      Moves gateway session number
        ({ session with locks := session.locks.take lock number }.enter number task lock)
  /-- The task makes an access. -/
  | accesses {task : Task} {lock : Nat} {rest : Procedure Answer}
      (htask : session.tasks[number]? = some task) (hstage : task.stage = .inside lock rest)
      (hrest : rest.result? = none) :
      Moves gateway session number
        ({ session with world := (rest.step gateway task.guild session.world).2 }.place number
          (.inside lock (rest.step gateway task.guild session.world).1))
  /-- The task has no accesses left and gives the lock back. -/
  | finishes {task : Task} {lock : Nat} {rest : Procedure Answer} {result : Except ServiceFault Answer}
      (htask : session.tasks[number]? = some task) (hstage : task.stage = .inside lock rest)
      (hresult : rest.result? = some result) :
      Moves gateway session number (session.finish number task lock result)

theorem moves_move (gateway : Gateway σ) (session : Session σ) (number : Nat) :
    session.Moves gateway number (session.move gateway number) := by
  cases htask : session.tasks[number]? with
  | none =>
    rw [move_of_getElem?_eq_none htask]
    refine .rests fun task h => ?_
    rw [htask] at h
    cases h
  | some task =>
    cases hstage : task.stage with
    | pending =>
      rw [move_pending htask hstage, start]
      cases hanswer : task.operation.immediate? session.world task.guild with
      | none => exact .asks htask hstage
      | some answer => exact .answers htask hstage hanswer
    | waiting lock =>
      rw [move_waiting htask hstage]
      exact .retries htask hstage
    | inside lock rest =>
      cases hrest : rest.result? with
      | none =>
        rw [move_access htask hstage hrest]
        exact .accesses htask hstage hrest
      | some result =>
        rw [move_of_result? htask hstage hrest]
        exact .finishes htask hstage hrest
    | finished answer =>
      rw [move_finished htask hstage]
      refine .rests fun other h => ?_
      rw [htask] at h
      rw [← Option.some.inj h, hstage]
      rfl

theorem enter_cases (session : Session σ) (number : Nat) (task : Task) (lock : Nat) :
    (session.locks.holds lock number = true ∧
      session.enter number task lock =
        session.place number (.inside lock (task.operation.procedure task.guild))) ∨
    session.enter number task lock = session.place number (.waiting lock) := by
  unfold enter
  split
  · rename_i hholds
    exact .inl ⟨hholds, rfl⟩
  · exact .inr rfl

theorem getElem?_place_self (session : Session σ) (h : session.tasks[number]? = some task) (stage : Stage) :
    (session.place number stage).tasks[number]? = some { task with stage } := by
  simp [place, h]

/-- The task that goes to a stage, whatever else changes with it. -/
theorem getElem?_place (h : session.tasks[number]? = some task) (table : LockTable) (world : World σ)
    (stage : Stage) :
    (({ session with locks := table, world := world } : Session σ).place number stage).tasks[number]? =
      some { task with stage } :=
  getElem?_place_self _ h stage

theorem getElem?_place_of_ne (session : Session σ) {other : Nat} (h : other ≠ number) (stage : Stage) :
    (session.place number stage).tasks[other]? = session.tasks[other]? := by
  simp [place, Ne.symm h]

theorem getElem?_enter_of_ne (session : Session σ) (task : Task) (lock : Nat) {other : Nat} (h : other ≠ number) :
    (session.enter number task lock).tasks[other]? = session.tasks[other]? := by
  unfold enter
  split <;> exact getElem?_place_of_ne _ h _

theorem getElem?_move_of_ne (gateway : Gateway σ) (session : Session σ) {other : Nat} (h : other ≠ number) :
    (session.move gateway number).tasks[other]? = session.tasks[other]? := by
  have hmoves := moves_move gateway session number
  generalize session.move gateway number = after at hmoves ⊢
  cases hmoves with
  | rests => rfl
  | answers => exact getElem?_place_of_ne _ h _
  | asks => exact getElem?_enter_of_ne _ _ _ h
  | retries => exact getElem?_enter_of_ne _ _ _ h
  | accesses => exact getElem?_place_of_ne _ h _
  | finishes => exact getElem?_place_of_ne _ h _

/-! ## Orderly sessions -/

/-- A task of a guild waits for the lock of the guild or holds it. -/
def Uses (session : Session σ) (guild : String) (number : Nat) : Prop :=
  ∃ task, session.tasks[number]? = some task ∧ task.guild = guild ∧ task.stage.lock? ≠ none

/-- The locks are those of the guilds whose tasks wait for one or hold one, and a task is inside only while it
holds the lock of its guild. -/
structure Orderly (session : Session σ) : Prop where
  locks : session.locks.IsFor session.Uses
  own : ∀ (number : Nat) (task : Task) (lock : Nat), session.tasks[number]? = some task →
    task.stage.lock? = some lock → Entries.get? session.locks.locks task.guild = some lock
  turn : ∀ (number : Nat) (task : Task) (lock : Nat) rest, session.tasks[number]? = some task →
    task.stage = .inside lock rest → session.locks.holds lock number = true

/-- How the tasks stand to the locks of guilds: each uses that of its own guild. -/
def usage (session : Session σ) : Usage where
  table := session.locks
  standing guild number :=
    match session.tasks[number]? with
    | some task => if task.guild = guild then task.stage.standing else .away
    | none => .away

theorem standing_usage (h : session.tasks[number]? = some task) :
    session.usage.standing task.guild number = task.stage.standing := by
  simp only [usage, h, if_true]

/-- A task that uses the lock of a guild is one of the guild. -/
theorem exists_of_standing_usage {guild : String} {standing : Standing} (hstanding : standing ≠ .away)
    (h : session.usage.standing guild number = standing) :
    ∃ task, session.tasks[number]? = some task ∧ task.guild = guild ∧ task.stage.standing = standing := by
  subst h
  cases htask : session.tasks[number]? with
  | none =>
    simp only [usage, htask] at hstanding
    exact absurd rfl hstanding
  | some task =>
    by_cases hguild : task.guild = guild
    · subst hguild
      exact ⟨task, rfl, rfl, (standing_usage htask).symm⟩
    · simp only [usage, htask, if_neg hguild] at hstanding
      exact absurd rfl hstanding

theorem uses_usage_iff (session : Session σ) (guild : String) (number : Nat) :
    session.usage.Uses guild number ↔ session.Uses guild number := by
  constructor
  · intro huses
    obtain ⟨task, htask, hguild, hstanding⟩ := exists_of_standing_usage huses rfl
    refine ⟨task, htask, hguild, fun hnone => huses ?_⟩
    rw [← hstanding, ← Standing.lock?_eq_none_iff, Stage.lock?_standing, hnone]
  · rintro ⟨task, htask, rfl, hlock⟩
    rw [Usage.Uses, standing_usage htask, ne_eq, ← Standing.lock?_eq_none_iff, Stage.lock?_standing]
    exact hlock

/-- A session is in order if the use of its locks is. -/
theorem orderly_iff (session : Session σ) : session.Orderly ↔ session.usage.Orderly := by
  constructor
  · intro h
    refine ⟨h.locks.congr fun guild number => (session.uses_usage_iff guild number).symm, ?_, ?_⟩
    · intro guild number lock hlock
      obtain ⟨task, htask, rfl, hstanding⟩ := exists_of_standing_usage (Usage.uses_of_lock? hlock) rfl
      rw [← hstanding, Stage.lock?_standing] at hlock
      exact h.own number task lock htask hlock
    · intro guild number lock hholding
      obtain ⟨task, htask, -, hstanding⟩ := exists_of_standing_usage (by simp) hholding
      obtain ⟨rest, hstage⟩ := Stage.exists_of_standing_eq_holding hstanding
      exact h.turn number task lock rest htask hstage
  · intro h
    refine ⟨h.locks.congr session.uses_usage_iff, ?_, ?_⟩
    · intro number task lock htask hlock
      refine h.own task.guild number lock ?_
      rw [standing_usage htask, Stage.lock?_standing, hlock]
    · intro number task lock rest htask hstage
      refine h.turn task.guild number lock ?_
      rw [standing_usage htask, hstage]
      rfl

/-- Of the tasks of a guild at most one is inside. -/
theorem Orderly.eq_of_isInside (h : session.Orderly) {first second : Nat} {a b : Task}
    (ha : session.tasks[first]? = some a) (hb : session.tasks[second]? = some b)
    (hguild : a.guild = b.guild) (hfirst : a.stage.isInside = true) (hsecond : b.stage.isInside = true) :
    first = second := by
  obtain ⟨lock, rest, hstage⟩ := Stage.lock?_of_isInside hfirst
  obtain ⟨lock', rest', hstage'⟩ := Stage.lock?_of_isInside hsecond
  have hinside : session.usage.IsInside a.guild first := ⟨lock, by rw [standing_usage ha, hstage]; rfl⟩
  have hinside' : session.usage.IsInside a.guild second :=
    ⟨lock', by rw [hguild, standing_usage hb, hstage']; rfl⟩
  exact (session.orderly_iff.mp h).eq_of_isInside hinside hinside'

theorem orderly_of_idle (tasks : List Task) (world : World σ)
    (h : ∀ task ∈ tasks, task.stage.lock? = none) : Orderly ⟨tasks, {}, world⟩ where
  locks := by
    have huses : (⟨tasks, {}, world⟩ : Session σ).Uses = fun _ _ => False := by
      funext guild number
      refine eq_false ?_
      rintro ⟨task, htask, -, hlock⟩
      exact hlock (h task (List.mem_of_getElem? htask))
    rw [huses]
    exact LockTable.isFor_empty
  own number task lock htask hlock := by
    rw [h task (List.mem_of_getElem? htask)] at hlock
    cases hlock
  turn number task lock rest htask hstage := by
    have hlock := h task (List.mem_of_getElem? htask)
    rw [hstage] at hlock
    cases hlock

/-! ## Moves use the locks -/

theorem usage_place (session : Session σ) (htask : session.tasks[number]? = some task) (stage : Stage) :
    (session.place number stage).usage = session.usage.place task.guild number stage.standing := by
  refine congrArg (Usage.mk session.locks) ?_
  funext guild other
  by_cases hother : other = number
  · subst hother
    rw [getElem?_place_self session htask]
    by_cases hguild : task.guild = guild
    · simp [hguild]
    · simp [usage, htask, hguild, Ne.symm hguild]
  · rw [getElem?_place_of_ne session hother]
    exact (if_neg fun hsame => hother hsame.2).symm

theorem usage_enter (htask : session.tasks[number]? = some task) (table : LockTable) (lock : Nat) :
    (({ session with locks := table } : Session σ).enter number task lock).usage =
      ({ session.usage with table } : Usage).enter task.guild number lock := by
  unfold enter Usage.enter
  by_cases hholds : table.holds lock number = true
  · rw [if_pos hholds, if_pos hholds]
    exact usage_place { session with locks := table } htask _
  · rw [if_neg hholds, if_neg hholds]
    exact usage_place { session with locks := table } htask _

/-- A move of a task leaves the locks alone, or the task asks for the lock of its guild, tries to get it or gives it
back. -/
theorem step_move (gateway : Gateway σ) (session : Session σ) (number : Nat) :
    (session.move gateway number).usage = session.usage ∨
      session.usage.Step (session.move gateway number).usage := by
  have hmoves := moves_move gateway session number
  generalize session.move gateway number = after at hmoves ⊢
  cases hmoves with
  | rests => exact .inl rfl
  | @answers task answer htask hstage hanswer =>
    left
    have hsame := session.usage.place_standing task.guild number
    rw [standing_usage htask, hstage] at hsame
    rw [session.usage_place htask]
    exact hsame
  | @asks task htask hstage =>
    right
    rw [usage_enter htask]
    exact .request (by rw [standing_usage htask, hstage]; rfl)
  | @retries task lock htask hstage =>
    right
    rw [usage_enter htask]
    exact .retry (by rw [standing_usage htask, hstage]; rfl)
  | @accesses task lock rest htask hstage hrest =>
    left
    have hsame := session.usage.place_standing task.guild number
    rw [standing_usage htask, hstage] at hsame
    -- the world has no part in the use of the locks
    exact (session.usage_place htask _).trans hsame
  | @finishes task lock rest result htask hstage hresult =>
    right
    have hholding : session.usage.standing task.guild number = .holding lock := by
      rw [standing_usage htask, hstage]
      rfl
    have hquit : (session.finish number task lock result).usage = session.usage.quit task.guild number lock :=
      usage_place { session with locks := session.locks.leave task.guild lock number } htask _
    rw [hquit]
    cases result with
    | ok answer => exact .release hholding
    | error fault => exact .fail hholding

/-- A session stays orderly, whichever task moves. -/
theorem orderly_move (gateway : Gateway σ) (h : session.Orderly) (number : Nat) :
    (session.move gateway number).Orderly := by
  rw [orderly_iff] at h ⊢
  rcases step_move gateway session number with hsame | hstep
  · rwa [hsame]
  · exact Usage.orderly_step h hstep

end Session

end CommandFlow.Service
