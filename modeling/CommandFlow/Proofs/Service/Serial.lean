import Mathlib.Data.List.Induction
import Mathlib.Data.List.Nodup
import CommandFlow.Proofs.Service.Progress

/-!
# Serializability

Whatever the schedule, operations at the same time come to the same as the operations one after the other, in an
order in which an operation that had ended before another began comes before it.

* `Session.inTurn` : the operations of tasks, one after the other;
* `Session.IsSerial` : an order of the tasks explains a schedule;
* `Session.exists_isSerial` : every schedule after which every task has its answer is explained by an order.
-/

namespace CommandFlow.Service

namespace Session

/-! ## The operations of tasks -/

section
variable {σ : Type} {gateway : Gateway σ} {session : Session σ} {number other : Nat}

/-- The operations of tasks, one after the other. -/
def inTurn (gateway : Gateway σ) (session : Session σ) (order : List Nat) : Progress σ :=
  order.foldl (fun progress number =>
    match session.tasks[number]? with
    | some task => progress.perform gateway number task.guild task.operation
    | none => progress) { world := session.world }

theorem inTurn_append {task : Task} (htask : session.tasks[number]? = some task) (order : List Nat) :
    session.inTurn gateway (order ++ [number]) =
      (session.inTurn gateway order).perform gateway number task.guild task.operation := by
  rw [inTurn, List.foldl_append, List.foldl_cons, List.foldl_nil, htask]
  rfl

def call? (session : Session σ) (number : Nat) : Option (String × Operation) :=
  session.tasks[number]?.map fun task => (task.guild, task.operation)

theorem call?_place (session : Session σ) (number : Nat) (stage : Stage) (other : Nat) :
    (session.place number stage).call? other = session.call? other := by
  unfold call? place
  rw [List.getElem?_modify]
  split <;> cases session.tasks[other]? <;> rfl

theorem call?_enter (session : Session σ) (number : Nat) (task : Task) (lock other : Nat) :
    (session.enter number task lock).call? other = session.call? other := by
  unfold enter
  split <;> exact call?_place _ _ _ _

/-- A move does not change what tasks are asked to do. -/
theorem call?_move (gateway : Gateway σ) (session : Session σ) (number other : Nat) :
    (session.move gateway number).call? other = session.call? other := by
  have hmoves := moves_move gateway session number
  generalize session.move gateway number = after at hmoves ⊢
  cases hmoves with
  | rests => rfl
  | answers => exact call?_place _ _ _ _
  | asks => exact call?_enter _ _ _ _ _
  | retries => exact call?_enter _ _ _ _ _
  | accesses => exact call?_place _ _ _ _
  | finishes => exact call?_place _ _ _ _

theorem follow_append (gateway : Gateway σ) (schedule : List Nat) (session : Session σ) (number : Nat) :
    session.follow gateway (schedule ++ [number]) = (session.follow gateway schedule).move gateway number := by
  rw [follow, List.foldl_append, List.foldl_cons, List.foldl_nil]
  rfl

theorem call?_follow (gateway : Gateway σ) (session : Session σ) (schedule : List Nat) (other : Nat) :
    (session.follow gateway schedule).call? other = session.call? other := by
  induction schedule using List.reverseRecOn with
  | nil => rfl
  | append_singleton schedule number ih => rw [follow_append, call?_move, ih]

theorem call?_eq_some {task : Task} (htask : session.tasks[number]? = some task) :
    session.call? number = some (task.guild, task.operation) := by
  rw [call?, htask]
  rfl

theorem isSome_call?_iff (session : Session σ) (number : Nat) :
    (session.call? number).isSome = true ↔ number < session.tasks.length := by
  simp [call?]

theorem lt_length_follow_iff (gateway : Gateway σ) (session : Session σ) (schedule : List Nat) (number : Nat) :
    number < (session.follow gateway schedule).tasks.length ↔ number < session.tasks.length := by
  rw [← isSome_call?_iff, call?_follow, isSome_call?_iff]

/-! ## Before and after -/

def IsAnswered (session : Session σ) (number : Nat) : Prop :=
  ∃ task, session.tasks[number]? = some task ∧ task.stage.isFinished = true

/-- The task has not begun. -/
def IsPending (session : Session σ) (number : Nat) : Prop :=
  ∃ task, session.tasks[number]? = some task ∧ task.stage = .pending

theorem IsAnswered.move (h : session.IsAnswered number) (gateway : Gateway σ) (mover : Nat) :
    (session.move gateway mover).IsAnswered number := by
  obtain ⟨task, htask, hfinished⟩ := h
  by_cases hmover : number = mover
  · subst hmover
    have hrests : session.move gateway number = session := by
      cases hstage : task.stage with
      | finished answer => exact move_finished htask hstage
      | _ =>
        rw [hstage] at hfinished
        cases hfinished
    rw [hrests]
    exact ⟨task, htask, hfinished⟩
  · exact ⟨task, (getElem?_move_of_ne gateway session hmover).trans htask, hfinished⟩

theorem IsAnswered.follow {schedule earlier : List Nat} (hearlier : earlier <+: schedule)
    (h : (session.follow gateway earlier).IsAnswered number) :
    (session.follow gateway schedule).IsAnswered number := by
  induction schedule using List.reverseRecOn with
  | nil =>
    rw [List.prefix_nil.mp hearlier] at h
    exact h
  | append_singleton schedule mover ih =>
    rcases List.prefix_concat_iff.mp hearlier with rfl | hshorter
    · exact h
    · rw [follow_append]
      exact (ih hshorter).move gateway mover

end

/-! ## The order -/

section
variable (verdict : String → Nat → Option Fault)

/-- An order of the tasks explains a schedule: carried out in this order, and one after the other, the operations
give the same answers and leave the same records, registrations and known names in every guild; and a task that
has its answer before another begins comes before it. -/
structure IsSerial (session : Session Ledger) (schedule order : List Nat) : Prop where
  perm : order.Perm (List.range session.tasks.length)
  realTime : ∀ earlier, earlier <+: schedule → ∀ first second,
    (session.follow (Ledger.gateway verdict) earlier).IsAnswered first →
    (session.follow (Ledger.gateway verdict) earlier).IsPending second → [first, second].Sublist order
  answers : ∀ number answer,
    (number, answer) ∈ (session.inTurn (Ledger.gateway verdict) order).answers ↔
      (session.follow (Ledger.gateway verdict) schedule).tasks[number]?.bind Task.answer? = some answer
  records : ∀ guild,
    (session.inTurn (Ledger.gateway verdict) order).world.router.store.deployments.filter (·.guild = guild) =
      (session.follow (Ledger.gateway verdict) schedule).world.router.store.deployments.filter
        (·.guild = guild)
  allRecords : (session.inTurn (Ledger.gateway verdict) order).world.router.store.deployments.Perm
    (session.follow (Ledger.gateway verdict) schedule).world.router.store.deployments
  taken : ∀ guild, (session.inTurn (Ledger.gateway verdict) order).world.outside.taken guild =
    (session.follow (Ledger.gateway verdict) schedule).world.outside.taken guild
  known : ∀ guild, (session.inTurn (Ledger.gateway verdict) order).world.known guild =
    (session.follow (Ledger.gateway verdict) schedule).world.known guild

/-- Records that are the same for each guild are the same but for the order across guilds. -/
theorem perm_of_filter_guild {first second : List Deployment}
    (h : ∀ guild, first.filter (·.guild = guild) = second.filter (·.guild = guild)) :
    first.Perm second := by
  rw [List.perm_iff_count]
  intro d
  have hcount : ∀ l : List Deployment, (l.filter (·.guild = d.guild)).count d = l.count d :=
    fun l => List.count_filter (by simp)
  rw [← hcount first, ← hcount second, h]

theorem Traced.not_mem_of_isPending {session : Session Ledger} {progress : Progress Ledger} {number : Nat}
    (h : session.Traced verdict progress) (hpending : session.IsPending number) :
    number ∉ progress.answered := by
  obtain ⟨task, htask, hstage⟩ := hpending
  exact h.not_mem_answered htask (by rw [hstage]; rfl) (by rw [hstage]; rfl)

theorem Traced.mem_answers {session : Session Ledger} {progress : Progress Ledger} {number : Nat} {task : Task}
    {answer : Except ServiceFault Answer} (h : session.Traced verdict progress)
    (htask : session.tasks[number]? = some task) (hstage : task.stage = .finished answer) :
    (number, answer) ∈ progress.answers := by
  cases h.stands number task htask with
  | outside _ hnot =>
    rw [hstage] at hnot
    cases hnot
  | inside hcurrent =>
    rw [hstage] at hcurrent
    cases hcurrent
  | noted hcurrent =>
    rw [hstage] at hcurrent
    cases hcurrent
  | finished hcurrent hanswer =>
    rw [hstage, Stage.finished.injEq] at hcurrent
    rw [hcurrent]
    exact hanswer

theorem Traced.mem_of_isAnswered {session : Session Ledger} {progress : Progress Ledger} {number : Nat}
    (h : session.Traced verdict progress) (hanswered : session.IsAnswered number) :
    number ∈ progress.answered := by
  obtain ⟨task, htask, hfinished⟩ := hanswered
  cases hstage : task.stage with
  | finished answer => exact List.mem_map.mpr ⟨_, h.mem_answers verdict htask hstage, rfl⟩
  | _ =>
    rw [hstage] at hfinished
    cases hfinished

/-- What holds while tasks move: some of them had their turn, in an order that keeps to real time. -/
structure Reaches (session : Session Ledger) (schedule order : List Nat) : Prop where
  nodup : order.Nodup
  answered : (session.inTurn (Ledger.gateway verdict) order).answered = order
  traced : (session.follow (Ledger.gateway verdict) schedule).Traced verdict
    (session.inTurn (Ledger.gateway verdict) order)
  orderly : (session.follow (Ledger.gateway verdict) schedule).Orderly
  realTime : ∀ earlier, earlier <+: schedule → ∀ first second,
    (session.follow (Ledger.gateway verdict) earlier).IsAnswered first →
    (session.follow (Ledger.gateway verdict) earlier).IsPending second → second ∈ order →
      [first, second].Sublist order

theorem reaches_nil {session : Session Ledger} (hpending : ∀ task ∈ session.tasks, task.stage = .pending)
    (hlocks : session.locks = {}) : session.Reaches verdict [] [] where
  nodup := List.nodup_nil
  answered := rfl
  traced := by
    refine ⟨fun _ => rfl, fun _ _ => rfl, fun _ h => (List.not_mem_nil h).elim, fun number task htask => ?_⟩
    have hstage := hpending task (List.mem_of_getElem? htask)
    exact .outside (by rw [hstage]; rfl) (by rw [hstage]; rfl) List.not_mem_nil
  orderly := by
    obtain ⟨tasks, locks, world⟩ := session
    dsimp only at hlocks
    subst hlocks
    refine orderly_of_idle tasks world fun task htask => ?_
    rw [hpending task htask]
    rfl
  realTime _ _ _ _ _ _ h := (List.not_mem_nil h).elim

/-- A move leaves the order as it is, or appends the task to it. -/
theorem Reaches.move {session : Session Ledger} {schedule order : List Nat}
    (h : session.Reaches verdict schedule order) (number : Nat) :
    ∃ order', session.Reaches verdict (schedule ++ [number]) order' := by
  have horderly := orderly_move (Ledger.gateway verdict) h.orderly number
  rw [← follow_append] at horderly
  rcases traced_move h.traced h.orderly number with htraced | ⟨task, htask, hnew, htraced⟩
  · rw [← follow_append] at htraced
    refine ⟨order, h.nodup, h.answered, htraced, horderly, fun earlier hearlier first second hfirst hsecond hmem => ?_⟩
    rcases List.prefix_concat_iff.mp hearlier with rfl | hshorter
    · rw [← h.answered] at hmem
      exact absurd hmem (htraced.not_mem_of_isPending verdict hsecond)
    · exact h.realTime earlier hshorter first second hfirst hsecond hmem
  · rw [← follow_append] at htraced
    -- the task is asked to do the same as in the beginning
    have hcall := call?_follow (Ledger.gateway verdict) session schedule number
    rw [call?_eq_some htask] at hcall
    obtain ⟨asked, hasked, hsame⟩ := Option.map_eq_some_iff.mp hcall.symm
    obtain ⟨hguild, hoperation⟩ := Prod.mk.inj hsame
    rw [← hguild, ← hoperation, ← inTurn_append hasked] at htraced
    have hanswered : (session.inTurn (Ledger.gateway verdict) (order ++ [number])).answered =
        order ++ [number] := by
      rw [inTurn_append hasked, Progress.answered_perform, h.answered]
    rw [h.answered] at hnew
    refine ⟨order ++ [number], ?_, hanswered, htraced, horderly,
      fun earlier hearlier first second hfirst hsecond hmem => ?_⟩
    · rw [List.nodup_append]
      refine ⟨h.nodup, List.nodup_singleton _, fun a ha b hb heq => ?_⟩
      rw [List.mem_singleton.mp hb] at heq
      exact hnew (heq ▸ ha)
    · rcases List.prefix_concat_iff.mp hearlier with rfl | hshorter
      · rw [← hanswered] at hmem
        exact absurd hmem (htraced.not_mem_of_isPending verdict hsecond)
      · rcases List.mem_append.mp hmem with hold | hlast
        · exact (h.realTime earlier hshorter first second hfirst hsecond hold).trans
            (List.sublist_append_left _ _)
        · have hfirstMem := h.traced.mem_of_isAnswered verdict (hfirst.follow hshorter)
          rw [h.answered] at hfirstMem
          rw [List.mem_singleton.mp hlast]
          exact (List.singleton_sublist.mpr hfirstMem).append (List.Sublist.refl [number])

theorem exists_reaches {session : Session Ledger} (hpending : ∀ task ∈ session.tasks, task.stage = .pending)
    (hlocks : session.locks = {}) (schedule : List Nat) : ∃ order, session.Reaches verdict schedule order := by
  induction schedule using List.reverseRecOn with
  | nil => exact ⟨[], reaches_nil verdict hpending hlocks⟩
  | append_singleton schedule number ih =>
    obtain ⟨order, h⟩ := ih
    exact h.move verdict number

theorem exists_stage_eq_finished {session : Session Ledger} (h : session.isSettled = true) {number : Nat}
    {task : Task} (htask : session.tasks[number]? = some task) :
    ∃ answer, task.stage = .finished answer := by
  have hdone := List.all_eq_true.mp h task (List.mem_of_getElem? htask)
  cases hstage : task.stage with
  | finished answer => exact ⟨answer, rfl⟩
  | _ =>
    rw [hstage] at hdone
    cases hdone

/-- When every task has its answer, a task has the answer of its operation in turn. -/
theorem Traced.mem_answers_iff {session : Session Ledger} {progress : Progress Ledger}
    (h : session.Traced verdict progress) (hsettled : session.isSettled = true)
    (hnodup : progress.answered.Nodup) (number : Nat) (answer : Except ServiceFault Answer) :
    (number, answer) ∈ progress.answers ↔ session.tasks[number]?.bind Task.answer? = some answer := by
  constructor
  · intro hanswer
    have hlt := h.bound number (List.mem_map.mpr ⟨_, hanswer, rfl⟩)
    obtain ⟨final, hstage⟩ := exists_stage_eq_finished hsettled (List.getElem?_eq_getElem hlt)
    have hfinal := h.mem_answers verdict (List.getElem?_eq_getElem hlt) hstage
    have hsame := List.inj_on_of_nodup_map hnodup hanswer hfinal rfl
    rw [List.getElem?_eq_getElem hlt, Option.bind_some, Task.answer?, hstage, (Prod.mk.inj hsame).2]
  · intro hanswer
    obtain ⟨task, htask, hfinal⟩ := Option.bind_eq_some_iff.mp hanswer
    obtain ⟨final, hstage⟩ := exists_stage_eq_finished hsettled htask
    rw [Task.answer?, hstage, Option.some.injEq] at hfinal
    rw [← hfinal]
    exact h.mem_answers verdict htask hstage

/-- Every schedule of operations at the same time after which each has its answer is explained by an order of the
operations, whatever they are, and whichever registrations are refused. -/
theorem exists_isSerial (session : Session Ledger) (schedule : List Nat)
    (hpending : ∀ task ∈ session.tasks, task.stage = .pending) (hlocks : session.locks = {})
    (hsettled : (session.follow (Ledger.gateway verdict) schedule).isSettled = true) :
    ∃ order, session.IsSerial verdict schedule order := by
  obtain ⟨order, h⟩ := exists_reaches verdict hpending hlocks schedule
  -- no task is inside, so every guild is as after the operations in turn
  have hpart : ∀ guild, (session.inTurn (Ledger.gateway verdict) order).world.part guild =
      (session.follow (Ledger.gateway verdict) schedule).world.part guild := by
    intro guild
    refine (h.traced.quiet guild fun number task htask _ => ?_).symm
    obtain ⟨answer, hstage⟩ := exists_stage_eq_finished hsettled htask
    rw [hstage]
    rfl
  have hrecords : ∀ guild, (session.inTurn (Ledger.gateway verdict)
      order).world.router.store.deployments.filter (·.guild = guild) =
        (session.follow (Ledger.gateway verdict) schedule).world.router.store.deployments.filter
          (·.guild = guild) :=
    fun guild => congrArg (·.router.store.deployments) (hpart guild)
  have hmem : ∀ number, number ∈ order ↔ number < session.tasks.length := by
    intro number
    rw [← lt_length_follow_iff (Ledger.gateway verdict) session schedule]
    refine ⟨fun hin => h.traced.bound number (by rwa [h.answered]), fun hlt => ?_⟩
    obtain ⟨answer, hstage⟩ := exists_stage_eq_finished hsettled (List.getElem?_eq_getElem hlt)
    have hin := h.traced.mem_of_isAnswered verdict
      ⟨_, List.getElem?_eq_getElem hlt, by rw [hstage]; rfl⟩
    rwa [h.answered] at hin
  have hunique : (session.inTurn (Ledger.gateway verdict) order).answered.Nodup := by
    rw [h.answered]
    exact h.nodup
  refine ⟨order, ?_, ?_, ?_, hrecords, perm_of_filter_guild hrecords, ?_, ?_⟩
  · refine (List.perm_ext_iff_of_nodup h.nodup List.nodup_range).mpr fun number => ?_
    rw [hmem, List.mem_range]
  · intro earlier hearlier first second hfirst hsecond
    refine h.realTime earlier hearlier first second hfirst hsecond ?_
    obtain ⟨task, htask, -⟩ := hsecond
    rw [hmem, ← lt_length_follow_iff (Ledger.gateway verdict) session earlier]
    exact (List.getElem?_eq_some_iff.mp htask).1
  · exact h.traced.mem_answers_iff verdict hsettled hunique
  · intro guild
    have hledger : (session.inTurn (Ledger.gateway verdict) order).world.outside.part guild =
        (session.follow (Ledger.gateway verdict) schedule).world.outside.part guild :=
      congrArg (·.outside) (hpart guild)
    rw [Ledger.taken, Ledger.taken, hledger]
  · exact fun guild => World.known_of_part (hpart guild)

end

/-- Two projects that have a command of the same name are deployed in a guild while the name is looked up. -/
def rivals : Session Ledger where
  tasks := [⟨"guild", .deploy ⟨1⟩, .pending⟩, ⟨"guild", .deploy ⟨2⟩, .pending⟩,
    ⟨"guild", .resolve "ping", .pending⟩]
  world := ⟨⟨{ commands := [{ id := ⟨3⟩, project := ⟨1⟩, name := "ping" },
    { id := ⟨4⟩, project := ⟨2⟩, name := "ping" }] }, []⟩, []⟩

def secondRefused (_ : String) (attempts : Nat) : Option Fault :=
  if attempts = 1 then some (.action "refused") else none

theorem exists_isSerial_rivals :
    (∀ task ∈ rivals.tasks, task.stage = .pending) ∧ rivals.locks = {} ∧
    (rivals.follow (Ledger.gateway secondRefused) (List.replicate 20 [0, 2, 1]).flatten).isSettled = true ∧
    ∃ order, rivals.IsSerial secondRefused (List.replicate 20 [0, 2, 1]).flatten order := by
  have hpending : ∀ task ∈ rivals.tasks, task.stage = .pending := by simp [rivals]
  have hsettled : (rivals.follow (Ledger.gateway secondRefused)
      (List.replicate 20 [0, 2, 1]).flatten).isSettled = true := by decide +kernel
  exact ⟨hpending, rfl, hsettled, exists_isSerial secondRefused rivals _ hpending rfl hsettled⟩

end Session

end CommandFlow.Service
