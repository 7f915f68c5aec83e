import CommandFlow.Proofs.Service.Progress
import CommandFlow.Proofs.Service.Snapshot

/-!
# Reachable sessions

* `Session.Reachable` : what operations at the same time and restarts lead to from a store without deployments;
  `Session.Reachable.reachable_usage` : its locks are used as locks can be;
* `Session.Reachable.exists_progress` : a reachable session is as far as operations in turn, and these leave every
  guild as its snapshot;
* `Session.Since` : what a session leads to while a project is not deployed in a guild;
* `Session.Reachable.snapshot_invariant` : where no task is inside, a guild is as its snapshot, and a project whose
  deployment there has ended is not found until it is deployed there again.
-/

namespace CommandFlow.Service

/-- Operations in turn after which the service starts again. -/
def Progress.restart (progress : Progress Ledger) : Progress Ledger where
  world := { progress.world with router := ⟨progress.world.router.store, []⟩ }

namespace Session

/-- An operation is asked for. -/
def ask {σ : Type} (session : Session σ) (guild : String) (operation : Operation) : Session σ :=
  { session with tasks := session.tasks ++ [⟨guild, operation, .pending⟩] }

/-- The service starts again: what it knew is lost, and the records stay. -/
def restart {σ : Type} (session : Session σ) : Session σ where
  tasks := []
  world := { session.world with router := ⟨session.world.router.store, []⟩ }

def IsIdle {σ : Type} (session : Session σ) : Prop := ∀ task ∈ session.tasks, task.stage.lock? = none

/-- No task of the guild holds the lock. -/
def IsQuiet {σ : Type} (session : Session σ) (guild : String) : Prop :=
  ∀ task ∈ session.tasks, task.guild = guild → task.stage.isInside = false

variable (verdict : String → Nat → Option Fault)

/-- What operations at the same time lead to from a store without deployments, with restarts while the session is
idle. -/
inductive Reachable : Session Ledger → Prop where
  | begin {store : Store} (hstore : store.deployments = []) (ledger : Ledger) :
      Reachable ⟨[], {}, ⟨⟨store, []⟩, ledger⟩⟩
  | ask {session : Session Ledger} (h : Reachable session) (guild : String) (operation : Operation) :
      Reachable (session.ask guild operation)
  | move {session : Session Ledger} (h : Reachable session) (number : Nat) :
      Reachable (session.move (Ledger.gateway verdict) number)
  | restart {session : Session Ledger} (h : Reachable session) (hidle : session.IsIdle) :
      Reachable session.restart

/-! ## Asking and restarting -/

section
variable {σ : Type} {session : Session σ} {guild : String} {operation : Operation}

theorem getElem?_ask {number : Nat} {task : Task} (h : (session.ask guild operation).tasks[number]? = some task) :
    session.tasks[number]? = some task ∨ number = session.tasks.length ∧ task = ⟨guild, operation, .pending⟩ := by
  have hlength : (session.ask guild operation).tasks.length = session.tasks.length + 1 := by simp [ask]
  have hlt := (List.getElem?_eq_some_iff.mp h).1
  rw [hlength] at hlt
  by_cases hnew : number = session.tasks.length
  · subst hnew
    rw [ask, List.getElem?_concat_length, Option.some.injEq] at h
    exact .inr ⟨rfl, h.symm⟩
  · left
    rwa [ask, List.getElem?_append_left (by omega)] at h

theorem getElem?_ask_of_some {number : Nat} {task : Task} (h : session.tasks[number]? = some task) :
    (session.ask guild operation).tasks[number]? = some task := by
  rw [ask, List.getElem?_append_left (List.getElem?_eq_some_iff.mp h).1]
  exact h

theorem usage_ask (session : Session σ) (guild : String) (operation : Operation) :
    (session.ask guild operation).usage = session.usage := by
  refine congrArg (Usage.mk session.locks) ?_
  funext owner number
  cases hold : session.tasks[number]? with
  | some task => rw [getElem?_ask_of_some hold]
  | none =>
    cases hnew : (session.ask guild operation).tasks[number]? with
    | none => rfl
    | some task =>
      rcases getElem?_ask hnew with hsame | ⟨-, rfl⟩
      · rw [hold] at hsame
        cases hsame
      · exact ite_self _

theorem Orderly.ask (h : session.Orderly) (guild : String) (operation : Operation) :
    (session.ask guild operation).Orderly := by
  rw [orderly_iff] at h ⊢
  rwa [usage_ask]

end

variable {verdict} {session : Session Ledger} {progress : Progress Ledger}

/-- What happens to the locks of a session is what can happen to locks. -/
theorem Reachable.reachable_usage (h : Reachable verdict session) : Usage.Reachable session.usage := by
  induction h with
  | begin => exact .begin
  | @ask session h guild operation ih => rwa [usage_ask]
  | @move session h number ih =>
    rcases step_move (Ledger.gateway verdict) session number with hsame | hstep
    · rwa [hsame]
    · exact .step ih hstep
  | restart => exact .begin

theorem Traced.ask (h : session.Traced verdict progress) (guild : String) (operation : Operation) :
    (session.ask guild operation).Traced verdict progress where
  known := h.known
  quiet owner hquiet := h.quiet owner fun number task htask => hquiet number task (getElem?_ask_of_some htask)
  bound number hnumber := by
    have hlength : (session.ask guild operation).tasks.length = session.tasks.length + 1 := by simp [Session.ask]
    have hlt := h.bound number hnumber
    omega
  stands number task htask := by
    rcases getElem?_ask htask with hold | ⟨rfl, rfl⟩
    · exact h.stands number task hold
    · exact .outside rfl rfl fun hin => Nat.lt_irrefl _ (h.bound _ hin)

theorem Traced.restart (h : session.Traced verdict progress) (hidle : session.IsIdle) :
    session.restart.Traced verdict progress.restart where
  known _ := rfl
  quiet guild _ := by
    have hpart : session.world.part guild = progress.world.part guild := by
      refine h.quiet guild fun number task htask _ => ?_
      have hlock := hidle task (List.mem_of_getElem? htask)
      cases hstage : task.stage with
      | inside lock rest =>
        rw [hstage] at hlock
        cases hlock
      | _ => rfl
    have hstore : session.world.router.store.part guild = progress.world.router.store.part guild :=
      congrArg (·.router.store) hpart
    have hledger : session.world.outside.part guild = progress.world.outside.part guild :=
      congrArg (·.outside) hpart
    simp only [World.part, Session.restart, Progress.restart, hstore, hledger]
  bound _ hnumber := (List.not_mem_nil hnumber).elim
  stands _ _ htask := by cases htask

/-! ## Snapshots in turn -/

/-- The session is as far as operations in turn that leave every guild as its snapshot. -/
structure Follows (verdict : String → Nat → Option Fault) (session : Session Ledger)
    (progress : Progress Ledger) : Prop where
  traced : session.Traced verdict progress
  orderly : session.Orderly
  snapshot : ∀ guild, progress.world.IsSnapshot guild
  index : (Entries.names progress.world.router.index).Nodup

theorem follows_begin {store : Store} (hstore : store.deployments = []) (ledger : Ledger) :
    Follows verdict ⟨[], {}, ⟨⟨store, []⟩, ledger⟩⟩ { world := ⟨⟨store, []⟩, ledger⟩ } where
  traced := by
    refine ⟨fun _ => rfl, fun _ _ => rfl, fun _ h => (List.not_mem_nil h).elim, fun _ _ htask => ?_⟩
    cases htask
  orderly := orderly_of_idle [] _ fun _ h => (List.not_mem_nil h).elim
  snapshot guild := by
    refine ⟨fun project => ?_, fun names hnames => ?_, fun project hproject => ?_⟩
    · rw [hstore]
      exact Nat.zero_le 1
    · cases hnames
    · obtain ⟨d, hd, -⟩ := hproject
      rw [hstore] at hd
      exact (List.not_mem_nil hd).elim
  index := List.nodup_nil

theorem Follows.ask (h : session.Follows verdict progress) (guild : String) (operation : Operation) :
    (session.ask guild operation).Follows verdict progress :=
  ⟨h.traced.ask guild operation, h.orderly.ask guild operation, h.snapshot, h.index⟩

theorem Follows.restart (h : session.Follows verdict progress) (hidle : session.IsIdle) :
    session.restart.Follows verdict progress.restart where
  traced := h.traced.restart hidle
  orderly := orderly_of_idle [] _ fun _ h => (List.not_mem_nil h).elim
  snapshot guild := by
    refine ⟨(h.snapshot guild).single, fun names hnames => ?_, (h.snapshot guild).registered⟩
    cases hnames
  index := List.nodup_nil

/-- The turn of a task leaves every guild as its snapshot. -/
theorem Follows.move (h : session.Follows verdict progress) (number : Nat) :
    (session.move (Ledger.gateway verdict) number).Follows verdict progress ∨
      ∃ task, session.tasks[number]? = some task ∧
        (session.move (Ledger.gateway verdict) number).Follows verdict
          (progress.perform (Ledger.gateway verdict) number task.guild task.operation) := by
  have horderly := orderly_move (Ledger.gateway verdict) h.orderly number
  rcases traced_move h.traced h.orderly number with htraced | ⟨task, htask, -, htraced⟩
  · exact .inl ⟨htraced, horderly, h.snapshot, h.index⟩
  · refine .inr ⟨task, htask, htraced, horderly, fun guild => ?_,
      Procedure.nodup_index verdict h.index (task.operation.procedure task.guild)⟩
    by_cases hguild : task.guild = guild
    · subst hguild
      exact (task.operation.effect_perform verdict task.guild progress.world).isSnapshot
        (h.snapshot task.guild) h.index
    · exact (h.snapshot guild).of_part (progress.perform_part_of_ne verdict number hguild task.operation)

/-- A reachable session is as far as operations in turn, and what operations and restarts keep holds after
these. -/
theorem Reachable.exists_progress_of {I : World Ledger → Prop}
    (hbegin : ∀ store ledger, store.deployments = [] → I ⟨⟨store, []⟩, ledger⟩)
    (hperform : ∀ world guild operation, I world →
      I (Operation.perform (Ledger.gateway verdict) guild operation world).2)
    (hrestart : ∀ world, I world → I { world with router := ⟨world.router.store, []⟩ })
    (h : Reachable verdict session) : ∃ progress, session.Follows verdict progress ∧ I progress.world := by
  induction h with
  | @begin store hstore ledger => exact ⟨_, follows_begin hstore ledger, hbegin store ledger hstore⟩
  | ask _ guild operation ih =>
    obtain ⟨progress, hfollows, hkept⟩ := ih
    exact ⟨progress, hfollows.ask guild operation, hkept⟩
  | move _ number ih =>
    obtain ⟨progress, hfollows, hkept⟩ := ih
    rcases hfollows.move number with hsame | ⟨task, -, hturn⟩
    · exact ⟨progress, hsame, hkept⟩
    · exact ⟨_, hturn, hperform progress.world task.guild task.operation hkept⟩
  | restart _ hidle ih =>
    obtain ⟨progress, hfollows, hkept⟩ := ih
    exact ⟨progress.restart, hfollows.restart hidle, hrestart progress.world hkept⟩

/-- A reachable session is as far as operations in turn. -/
theorem Reachable.exists_progress (h : Reachable verdict session) :
    ∃ progress, session.Follows verdict progress := by
  obtain ⟨progress, hfollows, -⟩ := h.exists_progress_of (I := fun _ => True) (fun _ _ _ => trivial)
    (fun _ _ _ _ => trivial) fun _ _ => trivial
  exact ⟨progress, hfollows⟩

theorem Follows.part_eq (h : session.Follows verdict progress) {guild : String} (hquiet : session.IsQuiet guild) :
    session.world.part guild = progress.world.part guild :=
  h.traced.quiet guild fun _ task htask => hquiet task (List.mem_of_getElem? htask)

/-! ## After the end of a deployment -/

/-- What a session leads to while no task that deploys the project in the guild moves. -/
inductive Since (verdict : String → Nat → Option Fault) (guild : String) (project : Uuid)
    (session : Session Ledger) : Session Ledger → Prop where
  | refl : Since verdict guild project session session
  | ask {later : Session Ledger} (h : Since verdict guild project session later) (other : String)
      (operation : Operation) : Since verdict guild project session (later.ask other operation)
  | move {later : Session Ledger} (h : Since verdict guild project session later) (number : Nat)
      (hother : ∀ task, later.tasks[number]? = some task →
        ¬ (task.guild = guild ∧ task.operation = .deploy project)) :
      Since verdict guild project session (later.move (Ledger.gateway verdict) number)
  | restart {later : Session Ledger} (h : Since verdict guild project session later) (hidle : later.IsIdle) :
      Since verdict guild project session later.restart

/-- A task that finishes had a result inside, or knew its answer at once. -/
theorem finished_move {gateway : Gateway Ledger} {number : Nat} {task : Task}
    {answer : Except ServiceFault Answer} (htask : session.tasks[number]? = some task)
    (hfinished : task.stage.isFinished = false)
    (hanswer : (session.move gateway number).tasks[number]?.bind Task.answer? = some answer) :
    task.operation.immediate? session.world task.guild = some answer ∨
      ∃ lock rest result, task.stage = .inside lock rest ∧ rest.result? = some result ∧
        answer = task.operation.answer result ∧ (session.move gateway number).world = session.world := by
  have hplaced := getElem?_place htask
  have hentered : ∀ (table : LockTable) (lock : Nat), (({ session with locks := table } :
      Session Ledger).enter number task lock).tasks[number]?.bind Task.answer? = none := by
    intro table lock
    rcases enter_cases { session with locks := table } number task lock with ⟨-, henter⟩ | henter <;>
      rw [henter, hplaced] <;> rfl
  have hmoves := moves_move gateway session number
  generalize session.move gateway number = after at hmoves hanswer ⊢
  cases hmoves with
  | rests h =>
    rw [h task htask] at hfinished
    cases hfinished
  | answers hcurrent _ himmediate =>
    rw [htask, Option.some.injEq] at hcurrent
    subst hcurrent
    rw [getElem?_place_self _ htask] at hanswer
    cases hanswer
    exact .inl himmediate
  | asks hcurrent =>
    rw [htask, Option.some.injEq] at hcurrent
    subst hcurrent
    rw [hentered] at hanswer
    cases hanswer
  | retries hcurrent =>
    rw [htask, Option.some.injEq] at hcurrent
    subst hcurrent
    rw [hentered] at hanswer
    cases hanswer
  | accesses hcurrent =>
    rw [hplaced] at hanswer
    cases hanswer
  | finishes hcurrent hstage hresult =>
    rw [htask, Option.some.injEq] at hcurrent
    subst hcurrent
    rw [finish, hplaced] at hanswer
    cases hanswer
    exact .inr ⟨_, _, _, hstage, hresult, rfl, rfl⟩

/-- The result of a task that is inside is that of its operation, and the guild is as it leaves it. -/
theorem Traced.alike_of_result? (h : session.Traced verdict progress) {number : Nat} {task : Task}
    (htask : session.tasks[number]? = some task) {lock : Nat} {rest : Procedure Answer}
    {result : Except ServiceFault Answer} (hstage : task.stage = .inside lock rest)
    (hresult : rest.result? = some result) :
    ∃ before, Alike task.guild (result, session.world)
      ((task.operation.procedure task.guild).run (Ledger.gateway verdict) task.guild before) := by
  rcases h.inside_cases htask hstage with ⟨-, -, halike⟩ | ⟨noted, hnoted, -, -, hleft⟩
  · rw [Procedure.run_of_result? hresult] at halike
    exact ⟨progress.world, halike⟩
  · rw [hresult, Option.some.injEq] at hnoted
    rw [hnoted]
    exact hleft

/-- The project is not deployed in the guild after operations in turn, and no task that is inside has found it. -/
structure IsGone (session : Session Ledger) (progress : Progress Ledger) (guild : String) (project : Uuid) :
    Prop where
  record : ¬ progress.world.router.store.IsDeployed guild project
  found : ∀ (number : Nat) (task : Task) (name : String) (lock : Nat) (rest : Procedure Answer),
    session.tasks[number]? = some task → task.guild = guild → task.operation = .resolve name →
      task.stage = .inside lock rest → rest.result? ≠ some (.ok (.project project))

variable {guild : String} {project : Uuid}

/-- No name is resolved to a project that is not deployed. -/
theorem not_resolved {world : World Ledger} (h : world.IsSnapshot guild)
    (hrecord : ¬ world.router.store.IsDeployed guild project) (name : String) :
    (((Operation.resolve name).procedure guild).run (Ledger.gateway verdict) guild world).1 ≠
      .ok (.project project) := by
  rw [Operation.procedure, Procedure.run_andThen_done]
  intro hresolved
  cases hanswer : ((Procedure.resolve guild name).run (Ledger.gateway verdict) guild world).1 with
  | error fault =>
    rw [hanswer] at hresolved
    cases hresolved
  | ok found =>
    rw [hanswer] at hresolved
    cases hresolved
    exact hrecord (Procedure.offers_of_resolve verdict h hanswer).1

theorem IsGone.ask (h : session.IsGone progress guild project) (other : String) (operation : Operation) :
    (session.ask other operation).IsGone progress guild project where
  record := h.record
  found number task name lock rest htask hguild hoperation hstage := by
    rcases getElem?_ask htask with hold | ⟨-, rfl⟩
    · exact h.found number task name lock rest hold hguild hoperation hstage
    · cases hstage

theorem IsGone.restart (h : session.IsGone progress guild project) :
    session.restart.IsGone progress.restart guild project where
  record := h.record
  found _ _ _ _ _ htask := by cases htask

/-- A task that gets inside, or that makes an access, does not find a project that is gone. -/
theorem IsGone.found_move (h : session.Follows verdict progress) (hgone : session.IsGone progress guild project)
    (number : Nat) (task : Task) (name : String) (lock : Nat) (rest : Procedure Answer)
    (htask : (session.move (Ledger.gateway verdict) number).tasks[number]? = some task) (hguild : task.guild = guild)
    (hoperation : task.operation = .resolve name) (hstage : task.stage = .inside lock rest) :
    rest.result? ≠ some (.ok (.project project)) := by
  have hentered : ∀ (current : Task), session.tasks[number]? = some current →
      ∀ (table : LockTable) (lock' : Nat), (({ session with locks := table } : Session Ledger).enter number
        current lock').tasks[number]? = some task → rest.result? ≠ some (.ok (.project project)) := by
    intro current hcurrent table lock' hafter
    rcases enter_cases { session with locks := table } number current lock' with ⟨-, henter⟩ | henter
    · rw [henter, getElem?_place hcurrent, Option.some.injEq] at hafter
      subst hafter
      cases hstage
      dsimp only at hoperation
      rw [hoperation]
      exact (Option.some_ne_none _).symm
    · rw [henter, getElem?_place hcurrent, Option.some.injEq] at hafter
      subst hafter
      cases hstage
  have hmoves := moves_move (Ledger.gateway verdict) session number
  generalize session.move (Ledger.gateway verdict) number = after at hmoves htask
  cases hmoves with
  | rests => exact hgone.found number task name lock rest htask hguild hoperation hstage
  | answers hcurrent =>
    rw [getElem?_place_self _ hcurrent, Option.some.injEq] at htask
    subst htask
    cases hstage
  | asks hcurrent => exact hentered _ hcurrent _ _ htask
  | retries hcurrent => exact hentered _ hcurrent _ _ htask
  | @accesses current lock' before hcurrent hbefore hrest =>
    rw [getElem?_place hcurrent, Option.some.injEq] at htask
    subst htask
    cases hstage
    dsimp only at hguild hoperation
    intro hresult
    rcases h.traced.inside_cases hcurrent hbefore with ⟨-, -, halike⟩ | ⟨noted, hnoted, -⟩
    · rw [← Procedure.run_step, Procedure.run_of_result? hresult, hguild, hoperation] at halike
      exact not_resolved (h.snapshot guild) hgone.record name halike.1.symm
    · rw [hrest] at hnoted
      cases hnoted
  | finishes hcurrent =>
    rw [finish, getElem?_place hcurrent, Option.some.injEq] at htask
    subst htask
    cases hstage

/-- A project stays gone when a task moves that does not deploy it. -/
theorem IsGone.move (h : session.Follows verdict progress) (hgone : session.IsGone progress guild project)
    (number : Nat) (hother : ∀ task, session.tasks[number]? = some task →
      ¬ (task.guild = guild ∧ task.operation = .deploy project)) :
    ∃ progress', (session.move (Ledger.gateway verdict) number).Follows verdict progress' ∧
      (session.move (Ledger.gateway verdict) number).IsGone progress' guild project := by
  have hfound : ∀ (moved : Nat) (task : Task) (name : String) (lock : Nat) (rest : Procedure Answer),
      (session.move (Ledger.gateway verdict) number).tasks[moved]? = some task → task.guild = guild →
        task.operation = .resolve name → task.stage = .inside lock rest →
          rest.result? ≠ some (.ok (.project project)) := by
    intro moved task name lock rest htask
    by_cases hmoved : moved = number
    · subst hmoved
      exact IsGone.found_move h hgone moved task name lock rest htask
    · rw [getElem?_move_of_ne _ _ hmoved] at htask
      exact hgone.found moved task name lock rest htask
  rcases h.move number with hsame | ⟨task, htask, hturn⟩
  · exact ⟨progress, hsame, hgone.record, hfound⟩
  · refine ⟨_, hturn, ?_, hfound⟩
    by_cases hguild : task.guild = guild
    · subst hguild
      exact (task.operation.effect_perform verdict task.guild progress.world).not_isDeployed hgone.record
        fun hdeploy => hother task htask ⟨rfl, hdeploy⟩
    · rw [World.isDeployed_of_part (progress.perform_part_of_ne verdict number hguild task.operation)]
      exact hgone.record

/-- A project stays gone as long as no task deploys it again. -/
theorem Since.exists_isGone {later : Session Ledger} (h : Since verdict guild project session later)
    (hfollows : session.Follows verdict progress) (hgone : session.IsGone progress guild project) :
    ∃ progress', later.Follows verdict progress' ∧ later.IsGone progress' guild project := by
  induction h with
  | refl => exact ⟨progress, hfollows, hgone⟩
  | ask _ other operation ih =>
    obtain ⟨current, hcurrent, hcurrentGone⟩ := ih
    exact ⟨current, hcurrent.ask other operation, hcurrentGone.ask other operation⟩
  | move _ number hother ih =>
    obtain ⟨current, hcurrent, hcurrentGone⟩ := ih
    exact IsGone.move hcurrent hcurrentGone number hother
  | restart _ hidle ih =>
    obtain ⟨current, hcurrent, hcurrentGone⟩ := ih
    exact ⟨current.restart, hcurrent.restart hidle, hcurrentGone.restart⟩

/-- When a task that was inside has its answer no task of its guild is inside. -/
theorem Orderly.isInside_move_eq_false (h : session.Orderly) {gateway : Gateway Ledger} {number : Nat}
    {task : Task} {answer : Except ServiceFault Answer} (htask : session.tasks[number]? = some task)
    (hinside : task.stage.isInside = true)
    (hanswer : (session.move gateway number).tasks[number]?.bind Task.answer? = some answer) (other : Nat)
    (current : Task) (hcurrent : (session.move gateway number).tasks[other]? = some current)
    (hguild : current.guild = task.guild) : current.stage.isInside = false := by
  by_cases hother : other = number
  · subst hother
    rw [hcurrent, Option.bind_some] at hanswer
    unfold Task.answer? at hanswer
    cases hstage : current.stage with
    | inside lock rest =>
      rw [hstage] at hanswer
      cases hanswer
    | _ => rfl
  · rw [getElem?_move_of_ne _ _ hother] at hcurrent
    refine Bool.eq_false_iff.mpr fun hcurrentInside => hother ?_
    exact h.eq_of_isInside hcurrent htask hguild hcurrentInside hinside

theorem Follows.exists_isGone (h : session.Follows verdict progress) {number : Nat} {task : Task}
    (htask : session.tasks[number]? = some task) (hoperation : task.operation = .undeploy project)
    (hfinished : task.stage.isFinished = false)
    (hanswer : (session.move (Ledger.gateway verdict) number).tasks[number]?.bind Task.answer? =
      some (.ok .done)) :
    ∃ progress', (session.move (Ledger.gateway verdict) number).Follows verdict progress' ∧
      (session.move (Ledger.gateway verdict) number).IsGone progress' task.guild project := by
  have hafter : ∃ progress', (session.move (Ledger.gateway verdict) number).Follows verdict progress' := by
    rcases h.move number with hsame | ⟨_, _, hturn⟩
    · exact ⟨progress, hsame⟩
    · exact ⟨_, hturn⟩
  obtain ⟨progress', hfollows⟩ := hafter
  rcases finished_move htask hfinished hanswer with himmediate | ⟨lock, rest, result, hstage, hresult, heq, hworld⟩
  · rw [hoperation] at himmediate
    cases himmediate
  obtain ⟨before, hbefore, hpart⟩ := h.traced.alike_of_result? htask hstage hresult
  rw [hoperation] at heq hbefore hpart
  rw [Operation.procedure, Procedure.run_andThen_done] at hbefore hpart
  -- no other task of the guild was inside
  have hout := h.orderly.isInside_move_eq_false htask (by rw [hstage]; rfl) hanswer
  have hrecord : ¬ session.world.router.store.IsDeployed task.guild project := by
    rw [World.isDeployed_of_part hpart]
    refine Procedure.not_isDeployed_of_undeploy verdict ?_
    have hdone : result = .ok .done := heq.symm
    rw [hdone] at hbefore
    cases hundeploy : ((Procedure.undeploy project).run (Ledger.gateway verdict) task.guild before).1 with
    | ok answer => rfl
    | error fault =>
      rw [hundeploy] at hbefore
      cases hbefore
  refine ⟨progress', hfollows, ?_, ?_⟩
  · rw [← World.isDeployed_of_part (hfollows.traced.quiet task.guild hout), hworld]
    exact hrecord
  · intro other current name lock rest hcurrent hguild _ hinside
    have hnot := hout other current hcurrent hguild
    rw [hinside] at hnot
    cases hnot

/-- In a reachable session a guild where no task is inside is as its snapshot. After the end of a deployment, and
until a task deploys the project in the guild again, it is not deployed there and no name is resolved to it. -/
theorem Reachable.snapshot_invariant (h : Reachable verdict session) :
    (∀ guild, session.IsQuiet guild → session.world.IsSnapshot guild) ∧
    ∀ (number : Nat) (task : Task) (project : Uuid), session.tasks[number]? = some task →
      task.operation = .undeploy project → task.stage.isFinished = false →
      (session.move (Ledger.gateway verdict) number).tasks[number]?.bind Task.answer? = some (.ok .done) →
      ∀ later, Since verdict task.guild project (session.move (Ledger.gateway verdict) number) later →
        (later.IsQuiet task.guild → ¬ later.world.router.store.IsDeployed task.guild project) ∧
        ∀ (other : Nat) (current : Task) (name : String), later.tasks[other]? = some current →
          current.guild = task.guild → current.operation = .resolve name → current.stage.isFinished = false →
            (later.move (Ledger.gateway verdict) other).tasks[other]?.bind Task.answer? ≠
              some (.ok (.project project)) := by
  obtain ⟨progress, hfollows⟩ := h.exists_progress
  refine ⟨fun guild hquiet => (hfollows.snapshot guild).of_part (hfollows.part_eq hquiet), ?_⟩
  intro number task project htask hoperation hfinished hanswer later hlater
  obtain ⟨middle, hmiddle, hmiddleGone⟩ := hfollows.exists_isGone htask hoperation hfinished hanswer
  obtain ⟨final, hfinal, hgone⟩ := hlater.exists_isGone hmiddle hmiddleGone
  refine ⟨fun hquiet => ?_, ?_⟩
  · rw [World.isDeployed_of_part (hfinal.part_eq hquiet)]
    exact hgone.record
  · intro other current name hcurrent hguild hresolve hunfinished hresolved
    rcases finished_move hcurrent hunfinished hresolved with
      himmediate | ⟨lock, rest, result, hstage, hresult, heq, -⟩
    · have hperform := Operation.perform_of_immediate? (Ledger.gateway verdict) himmediate
        (hfinal.traced.known current.guild)
      rw [hresolve, hguild] at hperform
      exact not_resolved (hfinal.snapshot task.guild) hgone.record name (congrArg Prod.fst hperform)
    · rw [hresolve] at heq
      refine hgone.found other current name lock rest hcurrent hguild hresolve hstage ?_
      rw [hresult]
      exact congrArg some heq.symm

/-- A project with one command is deployed in a guild, and the end of its deployment has come so many moves far. -/
def trial (moves : Nat) : Session Ledger :=
  (((⟨[], {}, ⟨⟨{ commands := [{ id := ⟨2⟩, project := ⟨1⟩, name := "ping" }] }, []⟩, []⟩⟩ :
    Session Ledger).ask "guild" (.deploy ⟨1⟩)).ask "guild" (.undeploy ⟨1⟩)).follow
      (Ledger.gateway fun _ _ => none) (List.replicate 9 0 ++ List.replicate moves 1)

theorem reachable_follow (h : Reachable verdict session) (schedule : List Nat) :
    Reachable verdict (session.follow (Ledger.gateway verdict) schedule) := by
  induction schedule generalizing session with
  | nil => exact h
  | cons number schedule ih => exact ih (h.move number)

theorem reachable_trial (moves : Nat) : Reachable (fun _ _ => none) (trial moves) :=
  reachable_follow (((Reachable.begin rfl []).ask _ _).ask _ _) _

theorem snapshot_invariant_trial :
    Reachable (fun _ _ => none) (trial 0) ∧ (trial 0).IsQuiet "guild" ∧ (trial 0).world.IsSnapshot "guild" ∧
    Reachable (fun _ _ => none) (trial 6) ∧ ∃ task, (trial 6).tasks[1]? = some task ∧
      task.operation = .undeploy ⟨1⟩ ∧ task.stage.isFinished = false ∧
      ((trial 6).move (Ledger.gateway fun _ _ => none) 1).tasks[1]?.bind Task.answer? = some (.ok .done) ∧
      (((trial 6).move (Ledger.gateway fun _ _ => none) 1).IsQuiet task.guild →
        ¬ ((trial 6).move (Ledger.gateway fun _ _ => none) 1).world.router.store.IsDeployed task.guild ⟨1⟩) := by
  have hquiet : (trial 0).IsQuiet "guild" := by
    unfold IsQuiet
    decide +kernel
  have htask : ((trial 6).tasks[1]?.map fun task => (task.operation, task.stage.isFinished)) =
      some (.undeploy ⟨1⟩, false) := by decide +kernel
  have hanswer : ((trial 6).move (Ledger.gateway fun _ _ => none) 1).tasks[1]?.bind Task.answer? =
      some (.ok .done) := by with_unfolding_all rfl
  obtain ⟨task, hfound, hsame⟩ := Option.map_eq_some_iff.mp htask
  obtain ⟨hoperation, hfinished⟩ := Prod.mk.inj hsame
  refine ⟨reachable_trial 0, hquiet, (Reachable.snapshot_invariant (reachable_trial 0)).1 "guild" hquiet,
    reachable_trial 6, task, hfound, hoperation, hfinished, hanswer, ?_⟩
  exact ((Reachable.snapshot_invariant (reachable_trial 6)).2 1 task ⟨1⟩ hfound hoperation hfinished hanswer _
    .refl).1

end Session

end CommandFlow.Service
