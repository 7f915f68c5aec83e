import CommandFlow.Proofs.Run.Visits
import CommandFlow.Run.Live

/-!
# Executions

An execution is a run within its limit of time, if that leaves any.

* `Run.exists_cut_of_run` : a run whose time is up ends with a visit that is cut off;
* `Live.ended` : how an execution ends, by the outcome of its run; `Live.execute_of_isTimeless`,
  `Live.execute_of_isTimeless_eq_false` : an execution without any time, and one with some;
* `Live.execute_eq_walk`, `Live.walk_of_execute` : an execution walks from the first node;
* `Live.exists_cut_of_execute` : an execution whose time is up begins nothing, or ends with a visit that is cut off.
-/

namespace CommandFlow

variable {σ : Type}

/-! ## Runs whose time is up -/

namespace Run

variable {backend : Backend σ} {graph : Graph} {context : Context}

theorem isCut_of_reply {v : Visit σ} (h : v.reply backend graph context = .expired) :
    IsCut backend graph context v := by
  rw [Visit.reply] at h
  rcases visit_cases backend graph context v with
    ⟨outcome, writes, generator, world, hpasses⟩ | ⟨fault, generator, world, -, hvisit⟩ |
    ⟨generator, world, hcut, -⟩
  · rw [visit_of_passes hpasses] at h
    cases h
  · rw [hvisit] at h
    cases h
  · exact hcut

variable (backend graph context) in
/-- A walk whose time is up ends with a visit that is cut off. -/
theorem exists_cut_of_walk (limit : Nat) (v : Visit σ)
    (h : (walk backend graph context limit v.node v.bindings v.generator v.world).1.status = .expired) :
    ∃ before u, visits backend graph context limit v = before ++ [u] ∧ IsCut backend graph context u ∧
      (walk backend graph context limit v.node v.bindings v.generator v.world).2 =
        u.leaves backend graph context := by
  induction limit, v using walk_induction backend graph context with
  | zero v => cases h
  | last limit v hnext =>
    rw [walk_of_next?_eq_none hnext] at h ⊢
    refine ⟨[], v, visits_of_next?_eq_none hnext limit, isCut_of_reply ?_, rfl⟩
    simp only [Visit.result, Visit.status] at h
    split at h
    · cases h
    · split at h
      · split at h <;> cases h
      · cases h
      · assumption
  | next limit v w hnext ih =>
    obtain ⟨step, -, hwalk⟩ := walk_of_next?_eq_some hnext limit
    rw [hwalk] at h ⊢
    obtain ⟨before, u, hvisits, hcut, hleaves⟩ := ih h
    refine ⟨v :: before, u, ?_, hcut, hleaves⟩
    rw [visits_of_next?_eq_some hnext, hvisits, List.cons_append]

/-- A run whose time is up ends with a visit that is cut off. -/
theorem exists_cut_of_run {limit : Int} {generator : Generator} {world after : σ} {result : Result}
    (hrun : run backend graph context limit generator world = (.ok result, after))
    (hstatus : result.status = .expired) :
    ∃ before v, course backend graph context limit generator world = before ++ [v] ∧
      IsCut backend graph context v ∧ after = v.leaves backend graph context := by
  obtain ⟨node, -, -, hcourse, hwalk⟩ := walk_of_run hrun
  have hcut := exists_cut_of_walk backend graph context limit.toNat
    ⟨node, context.initialVariables, generator, world⟩
  dsimp only at hcut
  rw [hwalk] at hcut
  rw [hcourse]
  exact hcut hstatus

end Run

/-! ## Executions -/

namespace Live

def ended (limit : Binary64) : Except Run.Refusal Result → Except Stop Result
  | .error refusal => .error (.refused refusal)
  | .ok result => if result.status = .expired then .error (.timeout limit) else .ok result

theorem ended_eq_ok_iff {limit : Binary64} {outcome : Except Run.Refusal Result} {result : Result} :
    ended limit outcome = .ok result ↔ outcome = .ok result ∧ result.status ≠ .expired := by
  obtain refusal | other := outcome
  · simp [ended]
  · rw [ended]
    by_cases hstatus : other.status = .expired
    · rw [if_pos hstatus]
      simp only [reduceCtorEq, Except.ok.injEq, false_iff, not_and, not_not]
      rintro rfl
      exact hstatus
    · rw [if_neg hstatus, Except.ok.injEq, Except.ok.injEq, iff_self_and]
      rintro rfl
      exact hstatus

theorem exists_expired_of_ended {limit seconds : Binary64} {outcome : Except Run.Refusal Result}
    (h : ended limit outcome = .error (.timeout seconds)) :
    ∃ result, outcome = .ok result ∧ result.status = .expired := by
  obtain refusal | result := outcome
  · cases h
  · refine ⟨result, rfl, ?_⟩
    by_contra hstatus
    simp [ended, hstatus] at h

theorem executeIn_of_isTimeless (platform : Platform σ) {settings : Settings}
    (htime : isTimeless settings.timeLimit = true) (graph : Graph) (generator : Generator)
    (state : Run.State (World σ)) :
    executeIn platform settings graph generator state = (.error (.timeout settings.timeLimit), state) := by
  rw [executeIn, htime]
  rfl

/-- An execution that has some time is a run within that time. -/
theorem executeIn_of_isTimeless_eq_false (platform : Platform σ) {settings : Settings}
    (htime : isTimeless settings.timeLimit = false) (graph : Graph) (generator : Generator)
    (state : Run.State (World σ)) :
    executeIn platform settings graph generator state =
      let run := Run.runIn (backend platform settings.pollInterval) graph settings.visitLimit generator
        { state with world := adjust platform (·.allow settings.timeLimit) state.world }
      (ended settings.timeLimit run.1, { run.2 with world := adjust platform Clock.free run.2.world }) := by
  unfold executeIn
  rw [htime]
  dsimp only [Bool.false_eq_true, reduceIte]
  generalize Run.runIn (backend platform settings.pollInterval) graph settings.visitLimit generator _ = run
  obtain ⟨refusal | result, left⟩ := run
  · rfl
  · exact (apply_ite (·, _) _ _ _).symm

theorem execute_of_isTimeless (platform : Platform σ) {settings : Settings}
    (htime : isTimeless settings.timeLimit = true) (graph : Graph) (context : Context) (generator : Generator)
    (world : World σ) :
    execute platform settings graph context generator world = (.error (.timeout settings.timeLimit), world) := by
  rw [execute, executeIn_of_isTimeless platform htime]

theorem execute_of_isTimeless_eq_false (platform : Platform σ) {settings : Settings}
    (htime : isTimeless settings.timeLimit = false) (graph : Graph) (context : Context)
    (generator : Generator) (world : World σ) :
    execute platform settings graph context generator world =
      let run := Run.run (backend platform settings.pollInterval) graph context settings.visitLimit generator
        (adjust platform (·.allow settings.timeLimit) world)
      (ended settings.timeLimit run.1, adjust platform Clock.free run.2) := by
  rw [execute, executeIn_of_isTimeless_eq_false platform htime]
  dsimp only
  rw [Run.fst_runIn, Run.world_runIn]

/-- An execution leaves the variables of its result in the context. -/
theorem context_of_executeIn_ok {platform : Platform σ} {settings : Settings} {graph : Graph}
    {generator : Generator} {state left : Run.State (World σ)} {result : Result}
    (h : executeIn platform settings graph generator state = (.ok result, left)) :
    left.context = { state.context with bindings := result.bindings } := by
  cases htime : isTimeless settings.timeLimit with
  | true =>
    rw [executeIn_of_isTimeless platform htime] at h
    cases h
  | false =>
    rw [executeIn_of_isTimeless_eq_false platform htime] at h
    obtain ⟨hended, rfl⟩ := Prod.mk.inj h
    obtain ⟨houtcome, hstatus⟩ := ended_eq_ok_iff.mp hended
    have hrun := Run.context_of_runIn_ok (Prod.ext houtcome rfl) hstatus
    exact hrun

/-- An execution without a result leaves the context as it is. -/
theorem context_of_executeIn_error {platform : Platform σ} {settings : Settings} {graph : Graph}
    {generator : Generator} {state left : Run.State (World σ)} {stop : Stop}
    (h : executeIn platform settings graph generator state = (.error stop, left)) :
    left.context = state.context := by
  cases htime : isTimeless settings.timeLimit with
  | true =>
    rw [executeIn_of_isTimeless platform htime] at h
    cases h
    rfl
  | false =>
    rw [executeIn_of_isTimeless_eq_false platform htime] at h
    obtain ⟨hended, rfl⟩ := Prod.mk.inj h
    rcases hrun : Run.runIn (backend platform settings.pollInterval) graph settings.visitLimit generator
      { state with world := adjust platform (·.allow settings.timeLimit) state.world } with ⟨refusal | result, run⟩
    · have hcontext := Run.context_of_runIn_error hrun
      exact hcontext
    · have hexpired : result.status = .expired := by
        by_contra hstatus
        rw [hrun, ended, if_neg hstatus] at hended
        cases hended
      have hcontext := Run.context_of_runIn_expired hrun hexpired
      exact hcontext

/-- An execution that has some time walks from the first node, if there is one and it may be visited. -/
theorem execute_eq_walk (platform : Platform σ) {settings : Settings}
    (htime : isTimeless settings.timeLimit = false) {graph : Graph} {node : Node}
    (hfirst : Run.first? graph = some node) (hlimit : 1 ≤ settings.visitLimit) (context : Context)
    (generator : Generator) (world : World σ) :
    execute platform settings graph context generator world =
      let walk := Run.walk (backend platform settings.pollInterval) graph context settings.visitLimit.toNat node
        context.initialVariables generator (adjust platform (·.allow settings.timeLimit) world)
      (ended settings.timeLimit (.ok walk.1), adjust platform Clock.free walk.2) := by
  rw [execute_of_isTimeless_eq_false platform htime, Run.run_eq_walk _ context generator _ hfirst hlimit]

/-- An execution with a result walks from the first node, and its time is not up. -/
theorem walk_of_execute {platform : Platform σ} {settings : Settings} {graph : Graph} {context : Context}
    {generator : Generator} {world after : World σ} {result : Result}
    (h : execute platform settings graph context generator world = (.ok result, after)) :
    isTimeless settings.timeLimit = false ∧ result.status ≠ .expired ∧
    ∃ node left, Run.first? graph = some node ∧ 1 ≤ settings.visitLimit ∧
      (let backend := backend platform settings.pollInterval
      let begun := adjust platform (·.allow settings.timeLimit) world
      Run.course backend graph context settings.visitLimit generator begun =
        Run.visits backend graph context settings.visitLimit.toNat
          ⟨node, context.initialVariables, generator, begun⟩ ∧
      Run.walk backend graph context settings.visitLimit.toNat node context.initialVariables generator begun =
        (result, left)) ∧
      after = adjust platform Clock.free left := by
  cases htime : isTimeless settings.timeLimit with
  | true =>
    rw [execute_of_isTimeless platform htime] at h
    cases h
  | false =>
    rw [execute_of_isTimeless_eq_false platform htime] at h
    obtain ⟨hended, hafter⟩ := Prod.mk.inj h
    obtain ⟨houtcome, hstatus⟩ := ended_eq_ok_iff.mp hended
    obtain ⟨node, hfirst, hlimit, hwalk⟩ := Run.walk_of_run (Prod.ext houtcome rfl)
    exact ⟨rfl, hstatus, node, _, hfirst, hlimit, hwalk, hafter.symm⟩

/-- An execution whose time is up begins nothing, or its last visit is cut off and the world is as that one
leaves it. -/
theorem exists_cut_of_execute {platform : Platform σ} {settings : Settings} {graph : Graph} {context : Context}
    {generator : Generator} {world : World σ} {seconds : Binary64}
    (h : (execute platform settings graph context generator world).1 = .error (.timeout seconds)) :
    let after := (execute platform settings graph context generator world).2
    let backend := backend platform settings.pollInterval
    isTimeless settings.timeLimit = true ∧ after = world ∨
      ∃ before v, Run.course backend graph context settings.visitLimit generator
          (adjust platform (·.allow settings.timeLimit) world) = before ++ [v] ∧
        Run.IsCut backend graph context v ∧ after = adjust platform Clock.free (v.leaves backend graph context) := by
  cases htime : isTimeless settings.timeLimit with
  | true =>
    rw [execute_of_isTimeless platform htime]
    exact .inl ⟨rfl, rfl⟩
  | false =>
    rw [execute_of_isTimeless_eq_false platform htime] at h ⊢
    obtain ⟨result, houtcome, hexpired⟩ := exists_expired_of_ended h
    obtain ⟨before, v, hcourse, hcut, hleaves⟩ := Run.exists_cut_of_run (Prod.ext houtcome rfl) hexpired
    exact .inr ⟨before, v, hcourse, hcut, congrArg (adjust platform Clock.free) hleaves⟩

end Live

end CommandFlow
