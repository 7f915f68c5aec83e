import CommandFlow.Proofs.Service.Rebuild
import CommandFlow.Proofs.Service.Serial

/-!
# Guilds do not notice each other

What happens to a guild is the same without the operations for all other guilds.

* `World.answerAll` : the answers to operations, one after the other; `World.performAll_filter` : those for a
  guild, and what is held for it, are the same without the other operations;
* `Session.ofCalls` : tasks for operations, none of which has begun;
* `Session.view` : what a session holds of the tasks of a guild, but for the numbers of locks;
* `Session.SameFor` : two sessions hold the same for a guild; `Session.sameFor_move_of_ne`,
  `Session.SameFor.move` : they do so whatever tasks of other guilds do, and after a task of the guild moves in
  both;
* `Session.noninterference` : operations one after the other, and tasks at the same time under any schedule, do
  the same for a guild without those for other guilds.
-/

namespace CommandFlow.Service

/-! ## One after the other -/

namespace World

section
variable {σ : Type}

/-- The answers to operations for guilds, one after the other, each with its guild. -/
def answerAll (gateway : Gateway σ) :
    List (String × Operation) → World σ → List (String × Except ServiceFault Answer)
  | [], _ => []
  | (guild, operation) :: rest, world =>
    (guild, (operation.perform gateway guild world).1) ::
      answerAll gateway rest (operation.perform gateway guild world).2

end

variable (verdict : String → Nat → Option Fault) {guild : String} {world other : World Ledger}

/-- An operation gives the same answer and does the same in worlds that hold the same for its guild. -/
theorem perform_congr (h : world.part guild = other.part guild) (operation : Operation) :
    (operation.perform (Ledger.gateway verdict) guild world).1 =
        (operation.perform (Ledger.gateway verdict) guild other).1 ∧
      (operation.perform (Ledger.gateway verdict) guild world).2.part guild =
        (operation.perform (Ledger.gateway verdict) guild other).2.part guild := by
  obtain ⟨hresult, hpart⟩ := Procedure.run_congr verdict (operation.procedure guild) h
  exact ⟨congrArg operation.answer hresult, hpart⟩

/-- Operations, and those for one guild among them, do the same for the guild. -/
theorem performAll_filter (h : world.part guild = other.part guild) (calls : List (String × Operation)) :
    (world.answerAll (Ledger.gateway verdict) calls).filter (·.1 = guild) =
        other.answerAll (Ledger.gateway verdict) (calls.filter (·.1 = guild)) ∧
      (world.performAll (Ledger.gateway verdict) calls).part guild =
        (other.performAll (Ledger.gateway verdict) (calls.filter (·.1 = guild))).part guild := by
  induction calls generalizing world other with
  | nil => exact ⟨rfl, h⟩
  | cons call rest ih =>
    obtain ⟨asked, operation⟩ := call
    by_cases hguild : asked = guild
    · subst hguild
      obtain ⟨hanswer, hpart⟩ := perform_congr verdict h operation
      obtain ⟨hanswers, hparts⟩ := ih hpart
      rw [List.filter_cons_of_pos (by simp), answerAll, answerAll, List.filter_cons_of_pos (by simp),
        hanswer, hanswers]
      exact ⟨rfl, hparts⟩
    · have hpart : (operation.perform (Ledger.gateway verdict) asked world).2.part guild = other.part guild :=
        (Procedure.run_part_of_ne verdict hguild (operation.procedure asked) world).trans h
      obtain ⟨hanswers, hparts⟩ := ih hpart
      rw [List.filter_cons_of_neg (by simpa using hguild), answerAll,
        List.filter_cons_of_neg (by simpa using hguild), hanswers]
      exact ⟨rfl, hparts⟩

end World

/-! ## At the same time -/

def Stage.unnumbered : Stage → Stage
  | .waiting _ => .waiting 0
  | .inside _ rest => .inside 0 rest
  | stage => stage

/-- The stages are the same but for the numbers of locks. -/
inductive Stage.Alike : Stage → Stage → Prop where
  | pending : Alike .pending .pending
  | waiting (lock lock' : Nat) : Alike (.waiting lock) (.waiting lock')
  | inside (lock lock' : Nat) (rest : Procedure Answer) : Alike (.inside lock rest) (.inside lock' rest)
  | finished (answer : Except ServiceFault Answer) : Alike (.finished answer) (.finished answer)

theorem Stage.alike_of_unnumbered_eq {stage stage' : Stage} (h : stage.unnumbered = stage'.unnumbered) :
    stage.Alike stage' := by
  cases stage <;> cases stage' <;> cases h
  · exact .pending
  · exact .waiting _ _
  · exact .inside _ _ _
  · exact .finished _

namespace Session

section
variable {σ : Type}

def ofCalls (calls : List (String × Operation)) (world : World σ) : Session σ where
  tasks := calls.map fun call => ⟨call.1, call.2, .pending⟩
  world := world

/-- The task is for the guild. -/
def concerns (session : Session σ) (guild : String) (number : Nat) : Bool :=
  (session.call? number).any (·.1 = guild)

/-- The answer of a task, if it has one. -/
def answer? (session : Session σ) (number : Nat) : Option (Except ServiceFault Answer) :=
  session.tasks[number]?.bind Task.answer?

/-- A task as far as the guild knows it: a task of the guild, without the number of its lock. -/
def view (session : Session σ) (guild : String) (number : Nat) : Option Task :=
  (session.tasks[number]?.filter (·.guild = guild)).map fun task =>
    { task with stage := task.stage.unnumbered }

end

/-- The sessions hold the same for the guild: its tasks have come as far, its lock is the same, and so are its
deployments, its known names and the registrations that were asked for. -/
structure SameFor (guild : String) (session other : Session Ledger) : Prop where
  tasks : ∀ number, session.view guild number = other.view guild number
  lock : session.locks.lockOf guild = other.locks.lockOf guild
  part : session.world.part guild = other.world.part guild

/-! ## Views -/

section
variable {σ : Type} {session : Session σ} {number : Nat} {task : Task} {guild : String}

theorem view_place (session : Session σ) (number : Nat) (stage : Stage) (guild : String) (other : Nat) :
    (session.place number stage).view guild other =
      if number = other then
        (session.view guild other).map fun task => { task with stage := stage.unnumbered }
      else session.view guild other := by
  by_cases hother : other = number
  · subst hother
    rw [if_pos rfl]
    cases htask : session.tasks[other]? with
    | none => simp [view, place, htask]
    | some task =>
      rw [view, getElem?_place_self session htask]
      by_cases hguild : task.guild = guild <;> simp [view, htask, Option.filter, hguild]
  · rw [if_neg (Ne.symm hother), view, getElem?_place_of_ne session hother]
    rfl

theorem view_eq_none (h : ∀ task, session.tasks[number]? = some task → task.guild ≠ guild) :
    session.view guild number = none := by
  unfold view
  cases htask : session.tasks[number]? with
  | none => rfl
  | some task => simp [h task htask]

theorem view_eq_some (htask : session.tasks[number]? = some task) :
    session.view task.guild number = some { task with stage := task.stage.unnumbered } := by
  simp [view, htask]

end

/-! ## Tasks of other guilds -/

section
variable {verdict : String → Nat → Option Fault} {session other : Session Ledger} {guild : String}
  {number : Nat}

theorem sameFor_place_of_ne (hne : ∀ task, session.tasks[number]? = some task → task.guild ≠ guild)
    {table : LockTable} {world : World Ledger} (hlock : table.lockOf guild = session.locks.lockOf guild)
    (hpart : world.part guild = session.world.part guild) (stage : Stage) :
    SameFor guild (({ session with locks := table, world } : Session Ledger).place number stage) session := by
  refine ⟨fun k => ?_, hlock, hpart⟩
  rw [view_place]
  split
  · rename_i hk
    subst hk
    have hnone : session.view guild number = none := view_eq_none hne
    exact (congrArg (Option.map _) hnone).trans hnone.symm
  · rfl

theorem sameFor_move_of_ne (h : session.Orderly)
    (hne : ∀ task, session.tasks[number]? = some task → task.guild ≠ guild) :
    SameFor guild (session.move (Ledger.gateway verdict) number) session := by
  have hmoves := moves_move (Ledger.gateway verdict) session number
  generalize session.move (Ledger.gateway verdict) number = after at hmoves ⊢
  -- a task that tries to get a lock only changes where it stands, and the lock
  have henter : ∀ (table : LockTable) (task : Task) (lock : Nat),
      table.lockOf guild = session.locks.lockOf guild →
      SameFor guild (({ session with locks := table } : Session Ledger).enter number task lock) session := by
    intro table task lock hlock
    rcases enter_cases { session with locks := table } number task lock with ⟨-, henter⟩ | henter
    · rw [henter]
      exact sameFor_place_of_ne hne hlock rfl _
    · rw [henter]
      exact sameFor_place_of_ne hne hlock rfl _
  cases hmoves with
  | rests => exact ⟨fun _ => rfl, rfl, rfl⟩
  | answers htask hstage hanswer => exact sameFor_place_of_ne hne rfl rfl _
  | asks htask hstage => exact henter _ _ _ (LockTable.lockOf_request_of_ne h.locks (hne _ htask) number)
  | @retries task lock htask hstage =>
    have hown := h.own number task lock htask (by rw [hstage]; rfl)
    refine henter _ _ _ (LockTable.lockOf_change_of_ne ?_ _)
    exact fun hother => hne task htask (h.locks.apart _ _ _ hown hother)
  | accesses htask hstage hrest =>
    exact sameFor_place_of_ne hne rfl (Procedure.step_part_of_ne verdict (hne _ htask) _ _) _
  | @finishes task lock rest result htask hstage hresult =>
    have hown := h.own number task lock htask (by rw [hstage]; rfl)
    exact sameFor_place_of_ne hne (LockTable.lockOf_leave_of_ne h.locks (hne task htask) hown number) rfl _

end

/-! ## Tasks of the guild -/

section
variable {verdict : String → Nat → Option Fault} {session other : Session Ledger} {guild : String}
  {number : Nat}

theorem immediate?_congr {world world' : World Ledger} (h : world.part guild = world'.part guild)
    (operation : Operation) : operation.immediate? world guild = operation.immediate? world' guild := by
  cases operation with
  | resolve name => rw [Operation.immediate?, Operation.immediate?, World.known_of_part h]
  | _ => rfl

/-- A task of the guild is in both sessions, and has come as far. -/
theorem SameFor.exists_alike {task : Task} (h : SameFor task.guild session other)
    (htask : session.tasks[number]? = some task) :
    ∃ task', other.tasks[number]? = some task' ∧ task'.guild = task.guild ∧
      task'.operation = task.operation ∧ task.stage.Alike task'.stage := by
  have hview := h.tasks number
  rw [view_eq_some htask] at hview
  obtain ⟨task', hfound, hsame⟩ := Option.map_eq_some_iff.mp hview.symm
  obtain ⟨hguild, hoperation, hstage⟩ := (Task.mk.injEq ..).mp hsame
  exact ⟨task', (Option.filter_eq_some_iff.mp hfound).1, hguild, hoperation,
    Stage.alike_of_unnumbered_eq hstage.symm⟩

theorem SameFor.place (h : SameFor guild session other) {stage stage' : Stage}
    (hstage : stage.unnumbered = stage'.unnumbered) (number : Nat) :
    SameFor guild (session.place number stage) (other.place number stage') := by
  refine ⟨fun k => ?_, h.lock, h.part⟩
  rw [view_place, view_place, h.tasks, hstage]

/-- A task of the guild enters in both sessions or in none. -/
theorem SameFor.enter (h : SameFor guild session other) {lock lock' : Nat} {task task' : Task}
    (hlock : Entries.get? session.locks.locks guild = some lock)
    (hlock' : Entries.get? other.locks.locks guild = some lock')
    (hguild : task.guild = task'.guild) (hoperation : task.operation = task'.operation) (number : Nat) :
    SameFor guild (session.enter number task lock) (other.enter number task' lock') := by
  have hsame : session.locks.lock lock = other.locks.lock lock' := by
    have hlocks := h.lock
    rw [LockTable.lockOf, LockTable.lockOf, hlock, hlock'] at hlocks
    exact Option.some.inj hlocks
  have hholds : session.locks.holds lock number = other.locks.holds lock' number := by
    rw [LockTable.holds, LockTable.holds, hsame]
  unfold Session.enter
  rw [hholds, hguild, hoperation]
  split
  · refine h.place ?_ number
    rfl
  · refine h.place ?_ number
    rfl

/-- A task of the guild does the same in sessions that hold the same for the guild. -/
theorem SameFor.move (h : SameFor guild session other) (hsession : session.Orderly) (hother : other.Orderly)
    {task : Task} (htask : session.tasks[number]? = some task) (hguild : task.guild = guild) :
    SameFor guild (session.move (Ledger.gateway verdict) number)
      (other.move (Ledger.gateway verdict) number) := by
  subst hguild
  obtain ⟨task', htask', hguild, hoperation, halike⟩ := h.exists_alike htask
  have hlocks : ∀ table table' : LockTable, table.lockOf task.guild = table'.lockOf task.guild →
      SameFor task.guild { session with locks := table } { other with locks := table' } :=
    fun _ _ hlock => ⟨h.tasks, hlock, h.part⟩
  generalize hcurrent : task.stage = stage at halike
  generalize hcurrent' : task'.stage = stage' at halike
  cases halike with
  | pending =>
    rw [move_pending htask hcurrent, move_pending htask' hcurrent', start, start, hguild, hoperation,
      ← immediate?_congr h.part task.operation]
    cases task.operation.immediate? session.world task.guild with
    | some answer => exact h.place rfl number
    | none =>
      have hrequest : (session.locks.request task.guild number).lockOf task.guild =
          (other.locks.request task.guild number).lockOf task.guild := by
        rw [LockTable.lockOf_request_self hsession.locks, LockTable.lockOf_request_self hother.locks, h.lock]
      exact (hlocks _ _ hrequest).enter (LockTable.get?_request hsession.locks _ _)
        (LockTable.get?_request hother.locks _ _) hguild.symm hoperation.symm number
  | waiting lock lock' =>
    have hown := hsession.own number task lock htask (by rw [hcurrent]; rfl)
    have hown' := hother.own number task' lock' htask' (by rw [hcurrent']; rfl)
    rw [hguild] at hown'
    have htake : (session.locks.take lock number).lockOf task.guild =
        (other.locks.take lock' number).lockOf task.guild := by
      rw [LockTable.lockOf_take_self hsession.locks hown, LockTable.lockOf_take_self hother.locks hown', h.lock]
    rw [move_waiting htask hcurrent, move_waiting htask' hcurrent']
    exact (hlocks _ _ htake).enter hown hown' hguild.symm hoperation.symm number
  | inside lock lock' rest =>
    cases hrest : rest.result? with
    | some result =>
      have hown := hsession.own number task lock htask (by rw [hcurrent]; rfl)
      have hown' := hother.own number task' lock' htask' (by rw [hcurrent']; rfl)
      rw [hguild] at hown'
      have hleave : (session.locks.leave task.guild lock number).lockOf task.guild =
          (other.locks.leave task.guild lock' number).lockOf task.guild := by
        rw [LockTable.lockOf_leave_of_get? hsession.locks hown, LockTable.lockOf_leave_of_get? hother.locks hown',
          h.lock]
      rw [move_of_result? htask hcurrent hrest, move_of_result? htask' hcurrent' hrest, finish, finish, hguild,
        hoperation]
      exact (hlocks _ _ hleave).place rfl number
    | none =>
      obtain ⟨hstep, hpart⟩ := Procedure.step_congr verdict rest h.part
      have hworlds : SameFor task.guild
          { session with world := (rest.step (Ledger.gateway verdict) task.guild session.world).2 }
          { other with world := (rest.step (Ledger.gateway verdict) task.guild other.world).2 } :=
        ⟨h.tasks, h.lock, hpart⟩
      rw [move_access htask hcurrent hrest, move_access htask' hcurrent' hrest, hguild, hstep]
      refine hworlds.place ?_ number
      rfl
  | finished answer =>
    rw [move_finished htask hcurrent, move_finished htask' hcurrent']
    exact h

end

/-! ## Schedules -/

section
variable {session other third : Session Ledger} {guild : String}

theorem SameFor.trans (h : SameFor guild session other) (h' : SameFor guild other third) :
    SameFor guild session third :=
  ⟨fun number => (h.tasks number).trans (h'.tasks number), h.lock.trans h'.lock, h.part.trans h'.part⟩

theorem orderly_follow {σ : Type} (gateway : Gateway σ) {session : Session σ} (h : session.Orderly)
    (schedule : List Nat) : (session.follow gateway schedule).Orderly := by
  induction schedule using List.reverseRecOn with
  | nil => exact h
  | append_singleton schedule number ih =>
    rw [follow_append]
    exact orderly_move gateway ih number

theorem concerns_follow {σ : Type} (gateway : Gateway σ) (session : Session σ) (schedule : List Nat)
    (guild : String) (number : Nat) :
    (session.follow gateway schedule).concerns guild number = session.concerns guild number := by
  rw [concerns, concerns, call?_follow]

theorem concerns_iff {σ : Type} (session : Session σ) (guild : String) (number : Nat) :
    session.concerns guild number = true ↔
      ∃ task, session.tasks[number]? = some task ∧ task.guild = guild := by
  simp [concerns, call?, Option.any_eq_true]

/-- A schedule does the same for a guild as its moves of the tasks of the guild alone. -/
theorem sameFor_follow_filter (verdict : String → Nat → Option Fault) (h : session.Orderly) (guild : String)
    (schedule : List Nat) :
    SameFor guild (session.follow (Ledger.gateway verdict) schedule)
      (session.follow (Ledger.gateway verdict) (schedule.filter (session.concerns guild))) := by
  induction schedule using List.reverseRecOn with
  | nil => exact ⟨fun _ => rfl, rfl, rfl⟩
  | append_singleton schedule number ih =>
    have horderly := orderly_follow (Ledger.gateway verdict) h schedule
    have hconcerns := concerns_follow (Ledger.gateway verdict) session schedule guild number
    rw [follow_append, List.filter_append]
    cases hnumber : session.concerns guild number with
    | true =>
      rw [hnumber] at hconcerns
      obtain ⟨task, htask, hguild⟩ := (concerns_iff _ guild number).mp hconcerns
      rw [List.filter_cons_of_pos hnumber, List.filter_nil, follow_append]
      exact ih.move horderly (orderly_follow _ h _) htask hguild
    | false =>
      have hne : ∀ task, (session.follow (Ledger.gateway verdict) schedule).tasks[number]? = some task →
          task.guild ≠ guild := by
        intro task htask hguild
        have htrue := (concerns_iff _ guild number).mpr ⟨task, htask, hguild⟩
        rw [hconcerns, hnumber] at htrue
        cases htrue
      rw [List.filter_cons_of_neg (by simp [hnumber]), List.filter_nil, List.append_nil]
      exact (sameFor_move_of_ne horderly hne).trans ih

theorem SameFor.answer?_eq (h : SameFor guild session other) {number : Nat}
    (hnumber : session.concerns guild number = true) : session.answer? number = other.answer? number := by
  obtain ⟨task, htask, rfl⟩ := (concerns_iff session guild number).mp hnumber
  obtain ⟨task', htask', -, -, halike⟩ := h.exists_alike htask
  rw [answer?, answer?, htask, htask', Option.bind_some, Option.bind_some, Task.answer?, Task.answer?]
  generalize task.stage = stage at halike
  generalize task'.stage = stage' at halike
  cases halike <;> rfl

end

/-- Operations for a guild give the same answers, and leave the same deployments, known names and
registrations with their payloads, without the operations for other guilds: whether all are carried out one after
the other, or at the same time under any schedule; and then the lock of the guild is the same too. -/
theorem noninterference (verdict : String → Nat → Option Fault) (calls : List (String × Operation))
    (world : World Ledger) (guild : String) :
    let gateway := Ledger.gateway verdict
    let session := ofCalls calls world
    (world.answerAll gateway calls).filter (·.1 = guild) =
        world.answerAll gateway (calls.filter (·.1 = guild)) ∧
    (world.performAll gateway calls).part guild =
        (world.performAll gateway (calls.filter (·.1 = guild))).part guild ∧
    ∀ schedule : List Nat,
      let together := session.follow gateway schedule
      let alone := session.follow gateway (schedule.filter (session.concerns guild))
      (∀ number, session.concerns guild number = true → together.answer? number = alone.answer? number) ∧
      together.world.part guild = alone.world.part guild ∧
      together.locks.lockOf guild = alone.locks.lockOf guild := by
  intro gateway session
  obtain ⟨hanswers, hpart⟩ := World.performAll_filter verdict (rfl : world.part guild = world.part guild) calls
  refine ⟨hanswers, hpart, fun schedule => ?_⟩
  have horderly : session.Orderly := by
    refine orderly_of_idle _ world fun task htask => ?_
    obtain ⟨call, -, rfl⟩ := List.mem_map.mp htask
    rfl
  have hsame := sameFor_follow_filter verdict horderly guild schedule
  refine ⟨fun number hnumber => hsame.answer?_eq ?_, hsame.part, hsame.lock⟩
  rw [concerns_follow]
  exact hnumber

end Session

end CommandFlow.Service
