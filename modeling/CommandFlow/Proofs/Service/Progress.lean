import CommandFlow.Proofs.Service.Exclusion
import CommandFlow.Proofs.Service.Ledger

/-!
# Operations in turn

Operations that are carried out at the same time are compared with operations that are carried out in turn. An
operation takes its turn when it notes the names, or else when it ends.

* `Procedure.NotesLast` : nothing but the answer is left once the names are noted;
* `Progress` : what operations in turn have come to; `Progress.perform` : one more operation;
* `Session.Traced` : the session is as far as the operations in turn;
* `Session.traced_move` : a move leaves it so, or it is the turn of the task.
-/

namespace CommandFlow.Service

/-! ## Noting the names comes last -/

namespace Procedure

variable {α β : Type}

def NotesNothing : Procedure α → Prop
  | done _ => True
  | fail _ => True
  | known next => ∀ names, (next names).NotesNothing
  | commands _ next => ∀ found, (next found).NotesNothing
  | deployed next => ∀ projects, (next projects).NotesNothing
  | register _ next => next.NotesNothing
  | prepare next => next.NotesNothing
  | commit _ next => next.NotesNothing
  | note _ _ => False

/-- Nothing but the answer is left once the names are noted. -/
def NotesLast : Procedure α → Prop
  | done _ => True
  | fail _ => True
  | known next => ∀ names, (next names).NotesLast
  | commands _ next => ∀ found, (next found).NotesLast
  | deployed next => ∀ projects, (next projects).NotesLast
  | register _ next => next.NotesLast
  | prepare next => next.NotesLast
  | commit _ next => next.NotesLast
  | note _ next => next.result? ≠ none

theorem notesLast_of_result? {p : Procedure α} (h : p.result? ≠ none) : p.NotesLast := by
  cases p with
  | done answer => trivial
  | fail fault => trivial
  | _ => exact absurd rfl h

theorem result?_andThen {p : Procedure α} {f : α → Procedure β} (h : p.result? ≠ none)
    (hf : ∀ a, (f a).result? ≠ none) : (p.andThen f).result? ≠ none := by
  cases p with
  | done answer => exact hf answer
  | fail fault => exact Option.some_ne_none _
  | _ => exact absurd rfl h

theorem NotesNothing.andThen {p : Procedure α} {f : α → Procedure β} (h : p.NotesNothing)
    (hf : ∀ a, (f a).NotesLast) : (p.andThen f).NotesLast := by
  induction p with
  | done answer => exact hf answer
  | fail fault => trivial
  | known next ih => exact fun names => ih names (h names)
  | commands project next ih => exact fun found => ih found (h found)
  | deployed next ih => exact fun projects => ih projects (h projects)
  | register payload next ih => exact ih h
  | prepare next ih => exact ih h
  | commit change next ih => exact ih h
  | note names next ih => exact h.elim

theorem NotesLast.andThen {p : Procedure α} {f : α → Procedure β} (h : p.NotesLast)
    (hf : ∀ a, (f a).result? ≠ none) : (p.andThen f).NotesLast := by
  induction p with
  | done answer => exact notesLast_of_result? (hf answer)
  | fail fault => trivial
  | known next ih => exact fun names => ih names (h names)
  | commands project next ih => exact fun found => ih found (h found)
  | deployed next ih => exact fun projects => ih projects (h projects)
  | register payload next ih => exact ih h
  | prepare next ih => exact ih h
  | commit change next ih => exact ih h
  | note names next ih => exact result?_andThen h hf

theorem notesNothing_list (projects : List Uuid) (listing : Listing) :
    (list projects listing).NotesNothing := by
  induction projects generalizing listing with
  | nil => trivial
  | cons project projects ih =>
    intro found
    show ((ofExcept (listing.addAll project found)).andThen (list projects)).NotesNothing
    cases listing.addAll project found with
    | ok longer => exact ih longer
    | error fault => trivial

theorem result?_answering (guild name : String) (names : Names) :
    (answering guild name names).result? ≠ none := by
  unfold answering
  split <;> exact Option.some_ne_none _

theorem notesLast_deploy (project : Uuid) : (deploy project).NotesLast := by
  intro own
  dsimp only
  split
  · trivial
  · exact fun projects => (notesNothing_list _ _).andThen fun listing => Option.some_ne_none _

theorem notesLast_undeploy (project : Uuid) : (undeploy project).NotesLast := fun _ =>
  (notesNothing_list _ _).andThen fun _ => Option.some_ne_none _

theorem notesLast_resolve (guild name : String) : (resolve guild name).NotesLast := by
  intro names
  cases names with
  | some names => exact notesLast_of_result? (result?_answering guild name names)
  | none =>
    exact fun projects => (notesNothing_list _ _).andThen fun listing =>
      result?_answering guild name listing.names

theorem notesLast_join : join.NotesLast := by
  intro projects
  refine (notesNothing_list _ _).andThen fun listing => ?_
  split <;> exact Option.some_ne_none _

theorem notesLast_leave : leave.NotesLast := Option.some_ne_none _

theorem notesLast_procedure (guild : String) (operation : Operation) :
    (operation.procedure guild).NotesLast := by
  cases operation with
  | deploy project => exact (notesLast_deploy project).andThen fun _ => Option.some_ne_none _
  | undeploy project => exact (notesLast_undeploy project).andThen fun _ => Option.some_ne_none _
  | resolve name => exact (notesLast_resolve guild name).andThen fun _ => Option.some_ne_none _
  | join => exact notesLast_join.andThen fun _ => Option.some_ne_none _
  | leave => exact notesLast_leave.andThen fun _ => Option.some_ne_none _

theorem run_of_result? {σ : Type} {p : Procedure α} {result : Except ServiceFault α}
    (h : p.result? = some result) (gateway : Gateway σ) (guild : String) (world : World σ) :
    p.run gateway guild world = (result, world) := by
  cases p with
  | done answer =>
    cases h
    rfl
  | fail fault =>
    cases h
    rfl
  | _ => cases h

/-- An access leaves the names that are known, unless it is the last. -/
theorem NotesLast.step {p : Procedure α} (h : p.NotesLast) (verdict : String → Nat → Option Fault)
    (guild : String) (world : World Ledger) :
    ((p.step (Ledger.gateway verdict) guild world).1.NotesLast ∧
      ∀ other, (p.step (Ledger.gateway verdict) guild world).2.known other = world.known other) ∨
    (p.step (Ledger.gateway verdict) guild world).1.result? ≠ none := by
  cases p with
  | done answer => exact .inl ⟨trivial, fun _ => rfl⟩
  | fail fault => exact .inl ⟨trivial, fun _ => rfl⟩
  | known next => exact .inl ⟨h _, fun _ => rfl⟩
  | commands project next => exact .inl ⟨h _, fun _ => rfl⟩
  | deployed next => exact .inl ⟨h _, fun _ => rfl⟩
  | register payload next =>
    left
    cases hverdict : verdict guild (world.outside.part guild).length with
    | none =>
      rw [Procedure.step, ifRegistered_of_taken verdict hverdict]
      exact ⟨h, fun _ => rfl⟩
    | some fault =>
      rw [Procedure.step, ifRegistered_of_refused verdict hverdict]
      exact ⟨trivial, fun _ => rfl⟩
  | prepare next => exact .inl ⟨h, fun _ => rfl⟩
  | commit change next => exact .inl ⟨h, fun _ => rfl⟩
  | note names next => exact .inr h

end Procedure

/-- An operation that has its answer at once has the same answer in its turn. -/
theorem Operation.perform_of_immediate? {σ : Type} (gateway : Gateway σ) {operation : Operation}
    {guild : String} {world other : World σ} {answer : Except ServiceFault Answer}
    (h : operation.immediate? world guild = some answer) (hknown : world.known guild = other.known guild) :
    operation.perform gateway guild other = (answer, other) := by
  cases operation with
  | resolve name =>
    rw [immediate?, Option.map_eq_some_iff] at h
    obtain ⟨names, hnames, hanswer⟩ := h
    rw [hnames] at hknown
    unfold perform procedure Procedure.resolve
    simp only [Procedure.andThen, Procedure.run, ← hknown, Procedure.answering]
    cases hproject : Entries.get? names name with
    | some project =>
      rw [hproject] at hanswer
      rw [← hanswer]
      rfl
    | none =>
      rw [hproject] at hanswer
      rw [← hanswer]
      rfl
  | _ => cases h

/-! ## Progress -/

/-- What operations in turn have come to: the answers to the tasks, and the world. -/
structure Progress (σ : Type) where
  answers : List (Nat × Except ServiceFault Answer) := []
  world : World σ

namespace Progress

variable {σ : Type}

/-- The tasks that had their turn, in order. -/
def answered (progress : Progress σ) : List Nat := progress.answers.map (·.1)

/-- It is the turn of a task. -/
def perform (gateway : Gateway σ) (progress : Progress σ) (number : Nat) (guild : String)
    (operation : Operation) : Progress σ where
  answers := progress.answers ++ [(number, (operation.perform gateway guild progress.world).1)]
  world := (operation.perform gateway guild progress.world).2

theorem answered_perform (gateway : Gateway σ) (progress : Progress σ) (number : Nat) (guild : String)
    (operation : Operation) :
    (progress.perform gateway number guild operation).answered = progress.answered ++ [number] := by
  simp [answered, perform]

theorem mem_answers_perform (gateway : Gateway σ) (progress : Progress σ) (number : Nat) (guild : String)
    (operation : Operation) :
    (number, (operation.perform gateway guild progress.world).1) ∈
      (progress.perform gateway number guild operation).answers :=
  List.mem_append_right _ (List.mem_singleton_self _)

theorem perform_part_of_ne (verdict : String → Nat → Option Fault) (progress : Progress Ledger)
    (number : Nat) {guild other : String} (h : guild ≠ other) (operation : Operation) :
    (progress.perform (Ledger.gateway verdict) number guild operation).world.part other =
      progress.world.part other :=
  Procedure.run_part_of_ne verdict h (operation.procedure guild) progress.world

end Progress

/-! ## Sessions as far as operations in turn -/

/-- Two runs of procedures have the same result and leave the same of a guild. -/
def Alike {α : Type} (guild : String) (first second : Except ServiceFault α × World Ledger) : Prop :=
  first.1 = second.1 ∧ first.2.part guild = second.2.part guild

/-- How far a task has come, as against operations in turn. -/
inductive Stands (verdict : String → Nat → Option Fault) (world : World Ledger)
    (progress : Progress Ledger) (number : Nat) (task : Task) : Prop where
  /-- The task is not inside yet and had no turn. -/
  | outside (hinside : task.stage.isInside = false) (hfinished : task.stage.isFinished = false)
      (hnew : number ∉ progress.answered)
  /-- The task is inside and had no turn. What is left of it comes to the same as all of it in turn. -/
  | inside {lock : Nat} {rest : Procedure Answer} (hstage : task.stage = .inside lock rest)
      (hnew : number ∉ progress.answered) (hrest : rest.NotesLast)
      (halike : Alike task.guild (rest.run (Ledger.gateway verdict) task.guild world)
        ((task.operation.procedure task.guild).run (Ledger.gateway verdict) task.guild progress.world))
  /-- The task had its turn, only its answer is left, and the guild is as the operation leaves it. -/
  | noted {lock : Nat} {rest : Procedure Answer} {result : Except ServiceFault Answer}
      (hstage : task.stage = .inside lock rest) (hresult : rest.result? = some result)
      (hanswer : (number, task.operation.answer result) ∈ progress.answers)
      (hpart : world.part task.guild = progress.world.part task.guild)
      (hleft : ∃ before, Alike task.guild (result, world)
        ((task.operation.procedure task.guild).run (Ledger.gateway verdict) task.guild before))
  /-- The task has its answer. -/
  | finished {answer : Except ServiceFault Answer} (hstage : task.stage = .finished answer)
      (hanswer : (number, answer) ∈ progress.answers)

namespace Session

/-- The session is as far as operations in turn: the same names are known, a guild where no task is inside is the
same, and the answers are the same. -/
structure Traced (verdict : String → Nat → Option Fault) (session : Session Ledger)
    (progress : Progress Ledger) : Prop where
  known : ∀ guild, session.world.known guild = progress.world.known guild
  quiet : ∀ guild, (∀ (number : Nat) (task : Task), session.tasks[number]? = some task →
      task.guild = guild → task.stage.isInside = false) →
    session.world.part guild = progress.world.part guild
  bound : ∀ number ∈ progress.answered, number < session.tasks.length
  stands : ∀ (number : Nat) (task : Task), session.tasks[number]? = some task →
    Stands verdict session.world progress number task

variable {verdict : String → Nat → Option Fault} {session : Session Ledger} {progress : Progress Ledger}
  {number : Nat} {task : Task}

/-- Where a task stands depends only on the answers to it and, if it is inside, on its guild. -/
theorem stands_congr {world world' : World Ledger} {progress' : Progress Ledger}
    (h : Stands verdict world progress number task)
    (hanswers : ∀ answer, (number, answer) ∈ progress'.answers ↔ (number, answer) ∈ progress.answers)
    (hpart : task.stage.isInside = true → world'.part task.guild = world.part task.guild ∧
      progress'.world.part task.guild = progress.world.part task.guild) :
    Stands verdict world' progress' number task := by
  have hanswered : number ∈ progress'.answered ↔ number ∈ progress.answered := by
    simp [Progress.answered, hanswers]
  cases h with
  | outside hinside hfinished hnew => exact .outside hinside hfinished (mt hanswered.mp hnew)
  | inside hstage hnew hrest halike =>
    obtain ⟨hworld, hprogress⟩ := hpart (by rw [hstage]; rfl)
    obtain ⟨hanswer, hafter⟩ := halike
    obtain ⟨hleft, hleftPart⟩ := Procedure.run_congr verdict _ hworld
    obtain ⟨hright, hrightPart⟩ := Procedure.run_congr verdict (task.operation.procedure task.guild) hprogress
    exact .inside hstage (mt hanswered.mp hnew) hrest
      ⟨hleft.trans (hanswer.trans hright.symm), hleftPart.trans (hafter.trans hrightPart.symm)⟩
  | noted hstage hresult hanswer hsame hleft =>
    obtain ⟨hworld, hprogress⟩ := hpart (by rw [hstage]; rfl)
    obtain ⟨before, hbefore, hbeforePart⟩ := hleft
    exact .noted hstage hresult ((hanswers _).mpr hanswer) (hworld.trans (hsame.trans hprogress.symm))
      ⟨before, hbefore, hworld.trans hbeforePart⟩
  | finished hstage hanswer => exact .finished hstage ((hanswers _).mpr hanswer)

/-- The answers to the other tasks stay when a task has its turn. -/
theorem mem_answers_perform_of_ne (gateway : Gateway Ledger) {other : Nat} (h : other ≠ number)
    (guild : String) (operation : Operation) (answer : Except ServiceFault Answer) :
    (other, answer) ∈ (progress.perform gateway number guild operation).answers ↔
      (other, answer) ∈ progress.answers := by
  simp [Progress.perform, h]

/-- What is left to show when a task moves: that the parts of the guilds still agree where no task is inside, and
where the task stands. -/
theorem traced_place (table : LockTable) (world' : World Ledger) (h : session.Traced verdict progress)
    (htask : session.tasks[number]? = some task) {stage : Stage} {progress' : Progress Ledger}
    (hknown : ∀ guild, world'.known guild = progress'.world.known guild)
    (hself : (∀ (other : Nat) (current : Task), other ≠ number → session.tasks[other]? = some current →
        current.guild = task.guild → current.stage.isInside = false) → stage.isInside = false →
      world'.part task.guild = progress'.world.part task.guild)
    (hother : ∀ guild, guild ≠ task.guild → world'.part guild = session.world.part guild ∧
      progress'.world.part guild = progress.world.part guild)
    (hinside : ∀ (other : Nat) (current : Task), other ≠ number → session.tasks[other]? = some current →
      current.guild = task.guild → current.stage.isInside = true →
        world'.part task.guild = session.world.part task.guild ∧
          progress'.world.part task.guild = progress.world.part task.guild)
    (hanswers : ∀ other answer, other ≠ number →
      ((other, answer) ∈ progress'.answers ↔ (other, answer) ∈ progress.answers))
    (hstands : Stands verdict world' progress' number { task with stage }) :
    (({ session with locks := table, world := world' } : Session Ledger).place number stage).Traced verdict
      progress' := by
  have hlength : (({ session with locks := table, world := world' } : Session Ledger).place number
      stage).tasks.length = session.tasks.length := by
    simp [place]
  have hstay : ∀ other, other ≠ number → (({ session with locks := table, world := world' } :
      Session Ledger).place number stage).tasks[other]? = session.tasks[other]? :=
    fun other hne => getElem?_place_of_ne _ hne stage
  have hmoved : (({ session with locks := table, world := world' } : Session Ledger).place number
      stage).tasks[number]? = some { task with stage } :=
    getElem?_place_self _ htask stage
  refine ⟨hknown, fun guild hguild => ?_, fun other hanswered => ?_, fun other current hcurrent => ?_⟩
  · by_cases hsame : guild = task.guild
    · subst hsame
      refine hself (fun other current hne hcurrent hcurrentGuild => ?_) (hguild number _ hmoved rfl)
      exact hguild other current ((hstay other hne).trans hcurrent) hcurrentGuild
    · obtain ⟨hworld, hprogress⟩ := hother guild hsame
      refine hworld.trans ((h.quiet guild fun other current hcurrent hcurrentGuild => ?_).trans hprogress.symm)
      have hne : other ≠ number := by
        rintro rfl
        rw [htask, Option.some.injEq] at hcurrent
        exact hsame (by rw [← hcurrentGuild, hcurrent])
      exact hguild other current ((hstay other hne).trans hcurrent) hcurrentGuild
  · rw [hlength]
    by_cases hne : other = number
    · subst hne
      exact (List.getElem?_eq_some_iff.mp htask).1
    · obtain ⟨⟨_, answer⟩, hanswer, rfl⟩ := List.mem_map.mp hanswered
      exact h.bound _ (List.mem_map.mpr ⟨_, (hanswers _ _ hne).mp hanswer, rfl⟩)
  · by_cases hne : other = number
    · subst hne
      rw [hmoved, Option.some.injEq] at hcurrent
      rw [← hcurrent]
      exact hstands
    · rw [hstay other hne] at hcurrent
      refine stands_congr (h.stands other current hcurrent) (fun answer => hanswers other answer hne)
        fun hcurrentInside => ?_
      by_cases hsame : current.guild = task.guild
      · rw [hsame]
        exact hinside other current hne hcurrent hsame hcurrentInside
      · exact hother current.guild hsame

/-- A task that is not inside and has no answer had no turn. -/
theorem Traced.not_mem_answered (h : session.Traced verdict progress)
    (htask : session.tasks[number]? = some task) (hinside : task.stage.isInside = false)
    (hfinished : task.stage.isFinished = false) : number ∉ progress.answered := by
  cases h.stands number task htask with
  | outside _ _ hnew => exact hnew
  | inside hstage =>
    rw [hstage] at hinside
    cases hinside
  | noted hstage =>
    rw [hstage] at hinside
    cases hinside
  | finished hstage =>
    rw [hstage] at hfinished
    cases hfinished

/-- A task that is inside had no turn, and what is left of it comes to the same as all of it in turn; or it had its
turn, and only its answer is left. -/
theorem Traced.inside_cases (h : session.Traced verdict progress) (htask : session.tasks[number]? = some task)
    {lock : Nat} {rest : Procedure Answer} (hstage : task.stage = .inside lock rest) :
    (number ∉ progress.answered ∧ rest.NotesLast ∧
      Alike task.guild (rest.run (Ledger.gateway verdict) task.guild session.world)
        ((task.operation.procedure task.guild).run (Ledger.gateway verdict) task.guild progress.world)) ∨
    ∃ result, rest.result? = some result ∧ (number, task.operation.answer result) ∈ progress.answers ∧
      session.world.part task.guild = progress.world.part task.guild ∧
      ∃ before, Alike task.guild (result, session.world)
        ((task.operation.procedure task.guild).run (Ledger.gateway verdict) task.guild before) := by
  cases h.stands number task htask with
  | outside hnot =>
    rw [hstage] at hnot
    cases hnot
  | inside hcurrent hnew hrest halike =>
    rw [hstage, Stage.inside.injEq] at hcurrent
    rw [hcurrent.2]
    exact .inl ⟨hnew, hrest, halike⟩
  | noted hcurrent hresult hanswer hpart hleft =>
    rw [hstage, Stage.inside.injEq] at hcurrent
    rw [hcurrent.2]
    exact .inr ⟨_, hresult, hanswer, hpart, hleft⟩
  | finished hcurrent =>
    rw [hstage] at hcurrent
    cases hcurrent

/-- The answer to a task that its operation gives in its turn, after what is left of it came to the same. -/
theorem mem_answers_of_alike {world : World Ledger} {result : Except ServiceFault Answer}
    (halike : Alike task.guild (result, world)
      ((task.operation.procedure task.guild).run (Ledger.gateway verdict) task.guild progress.world)) :
    (number, task.operation.answer result) ∈
      (progress.perform (Ledger.gateway verdict) number task.guild task.operation).answers := by
  have hturn : (task.operation.perform (Ledger.gateway verdict) task.guild progress.world).1 =
      task.operation.answer result := congrArg task.operation.answer halike.1.symm
  rw [← hturn]
  exact progress.mem_answers_perform (Ledger.gateway verdict) number task.guild task.operation

theorem not_isInside_of_ne (horderly : session.Orderly) (htask : session.tasks[number]? = some task)
    (hinside : task.stage.isInside = true) (other : Nat) (current : Task) (hne : other ≠ number)
    (hcurrent : session.tasks[other]? = some current) (hguild : current.guild = task.guild) :
    ¬ current.stage.isInside = true :=
  fun hcurrentInside => hne (horderly.eq_of_isInside hcurrent htask hguild hcurrentInside hinside)

/-- A guild whose only task that moves is not inside is the same if no other task is inside. -/
theorem Traced.part_eq (h : session.Traced verdict progress) (htask : session.tasks[number]? = some task)
    (hinside : task.stage.isInside = false)
    (hothers : ∀ (other : Nat) (current : Task), other ≠ number → session.tasks[other]? = some current →
      current.guild = task.guild → current.stage.isInside = false) :
    session.world.part task.guild = progress.world.part task.guild := by
  refine h.quiet task.guild fun other current hcurrent hguild => ?_
  by_cases hne : other = number
  · rw [hne, htask, Option.some.injEq] at hcurrent
    rw [← hcurrent]
    exact hinside
  · exact hothers other current hne hcurrent hguild

/-- A task enters: what it has left is all of its operation. -/
theorem traced_enter (h : session.Traced verdict progress) (htask : session.tasks[number]? = some task)
    (hinside : task.stage.isInside = false) (hfinished : task.stage.isFinished = false) {table : LockTable}
    {lock : Nat} (horderly : (({ session with locks := table } : Session Ledger).enter number task lock).Orderly) :
    (({ session with locks := table } : Session Ledger).enter number task lock).Traced verdict progress := by
  have hnew := h.not_mem_answered htask hinside hfinished
  rcases enter_cases { session with locks := table } number task lock with ⟨-, henter⟩ | henter
  · rw [henter] at horderly ⊢
    have hothers : ∀ (other : Nat) (current : Task), other ≠ number → session.tasks[other]? = some current →
        current.guild = task.guild → current.stage.isInside = false := by
      intro other current hne hcurrent hguild
      refine Bool.eq_false_iff.mpr fun hcurrentInside => hne ?_
      exact horderly.eq_of_isInside
        ((getElem?_place_of_ne { session with locks := table } hne _).trans hcurrent)
        (getElem?_place_self { session with locks := table } htask _) hguild hcurrentInside rfl
    have hpart := h.part_eq htask hinside hothers
    refine traced_place _ session.world h htask h.known (fun _ hnot => by cases hnot)
      (fun _ _ => ⟨rfl, rfl⟩) (fun _ _ _ _ _ _ => ⟨rfl, rfl⟩) (fun _ _ _ => Iff.rfl) ?_
    exact .inside rfl hnew (Procedure.notesLast_procedure task.guild task.operation)
      (Procedure.run_congr verdict _ hpart)
  · rw [henter]
    exact traced_place _ session.world h htask h.known
      (fun hothers _ => h.part_eq htask hinside hothers) (fun _ _ => ⟨rfl, rfl⟩)
      (fun _ _ _ _ _ _ => ⟨rfl, rfl⟩) (fun _ _ _ => Iff.rfl) (.outside rfl rfl hnew)

/-- The turn of a task changes only what the world holds for its guild. -/
theorem known_perform (h : session.Traced verdict progress) {world' : World Ledger}
    (hself : world'.part task.guild = (progress.perform (Ledger.gateway verdict) number task.guild
      task.operation).world.part task.guild)
    (hother : ∀ guild, guild ≠ task.guild → world'.part guild = session.world.part guild) (guild : String) :
    world'.known guild =
      (progress.perform (Ledger.gateway verdict) number task.guild task.operation).world.known guild := by
  by_cases hguild : guild = task.guild
  · rw [hguild]
    exact World.known_of_part hself
  · rw [World.known_of_part (hother guild hguild), h.known,
      World.known_of_part (progress.perform_part_of_ne verdict number (Ne.symm hguild) task.operation)]

/-- A task that is inside makes an access. If that notes the names it is the turn of the task. -/
theorem traced_access (h : session.Traced verdict progress) (horderly : session.Orderly)
    (htask : session.tasks[number]? = some task) {lock : Nat} {rest : Procedure Answer}
    (hstage : task.stage = .inside lock rest) (hrest : rest.result? = none) {after : Session Ledger}
    (hafter : after = ({ session with
      world := (rest.step (Ledger.gateway verdict) task.guild session.world).2 } : Session Ledger).place number
        (.inside lock (rest.step (Ledger.gateway verdict) task.guild session.world).1)) :
    after.Traced verdict progress ∨ number ∉ progress.answered ∧
      after.Traced verdict (progress.perform (Ledger.gateway verdict) number task.guild task.operation) := by
  have hsolo := not_isInside_of_ne horderly htask (by rw [hstage]; rfl)
  have hother : ∀ guild, guild ≠ task.guild →
      (rest.step (Ledger.gateway verdict) task.guild session.world).2.part guild = session.world.part guild :=
    fun guild hguild => Procedure.step_part_of_ne verdict (Ne.symm hguild) rest session.world
  rcases h.inside_cases htask hstage with ⟨hnew, hnotes, halike⟩ | ⟨result, hresult, -⟩
  · rw [← Procedure.run_step] at halike
    rw [hafter]
    rcases hnotes.step verdict task.guild session.world with ⟨hnotes', hknown⟩ | hresult
    · refine .inl (traced_place session.locks _ h htask (fun guild => (hknown guild).trans (h.known guild))
        (fun _ hnot => by cases hnot) (fun guild hguild => ⟨hother guild hguild, rfl⟩)
        (fun other current hne hcurrent hguild hin => absurd hin (hsolo other current hne hcurrent hguild))
        (fun _ _ _ => Iff.rfl) (.inside rfl hnew hnotes' halike))
    · -- the names were noted: it is the turn of the task
      obtain ⟨result, hresult⟩ := Option.ne_none_iff_exists'.mp hresult
      rw [Procedure.run_of_result? hresult] at halike
      refine .inr ⟨hnew, traced_place session.locks _ h htask (known_perform h halike.2 hother)
        (fun _ hnot => by cases hnot)
        (fun guild hguild => ⟨hother guild hguild,
          progress.perform_part_of_ne verdict number (Ne.symm hguild) task.operation⟩)
        (fun other current hne hcurrent hguild hin => absurd hin (hsolo other current hne hcurrent hguild))
        (fun other answer hne => mem_answers_perform_of_ne _ hne _ _ answer)
        (.noted rfl hresult (mem_answers_of_alike halike) halike.2 ⟨progress.world, halike⟩)⟩
  · rw [hrest] at hresult
    cases hresult

/-- A task gives its lock back. It had its turn before, or has it now. -/
theorem traced_finish (h : session.Traced verdict progress) (horderly : session.Orderly)
    (htask : session.tasks[number]? = some task) {lock : Nat} {rest : Procedure Answer}
    {result : Except ServiceFault Answer} (hstage : task.stage = .inside lock rest)
    (hresult : rest.result? = some result) :
    (session.finish number task lock result).Traced verdict progress ∨ number ∉ progress.answered ∧
      (session.finish number task lock result).Traced verdict
        (progress.perform (Ledger.gateway verdict) number task.guild task.operation) := by
  have hsolo := not_isInside_of_ne horderly htask (by rw [hstage]; rfl)
  rcases h.inside_cases htask hstage with ⟨hnew, -, halike⟩ | ⟨noted, hnoted, hanswer, hpart, -⟩
  · rw [Procedure.run_of_result? hresult] at halike
    exact .inr ⟨hnew, traced_place _ session.world h htask
      (known_perform h halike.2 fun _ _ => rfl) (fun _ _ => halike.2)
      (fun guild hguild => ⟨rfl, progress.perform_part_of_ne verdict number (Ne.symm hguild) task.operation⟩)
      (fun other current hne hcurrent hguild hin => absurd hin (hsolo other current hne hcurrent hguild))
      (fun other answer hne => mem_answers_perform_of_ne _ hne _ _ answer)
      (.finished rfl (mem_answers_of_alike halike))⟩
  · rw [hresult, Option.some.injEq] at hnoted
    subst hnoted
    exact .inl (traced_place _ session.world h htask h.known (fun _ _ => hpart)
      (fun _ _ => ⟨rfl, rfl⟩) (fun _ _ _ _ _ _ => ⟨rfl, rfl⟩) (fun _ _ _ => Iff.rfl) (.finished rfl hanswer))

/-- After a move the session is as far as it was, or it was the turn of the task. -/
theorem traced_move (h : session.Traced verdict progress) (horderly : session.Orderly) (number : Nat) :
    (session.move (Ledger.gateway verdict) number).Traced verdict progress ∨
      ∃ task, session.tasks[number]? = some task ∧ number ∉ progress.answered ∧
        (session.move (Ledger.gateway verdict) number).Traced verdict
          (progress.perform (Ledger.gateway verdict) number task.guild task.operation) := by
  have hmoves := moves_move (Ledger.gateway verdict) session number
  have horderly' := orderly_move (Ledger.gateway verdict) horderly number
  generalize session.move (Ledger.gateway verdict) number = after at hmoves horderly' ⊢
  cases hmoves with
  | rests => exact .inl h
  | @answers task answer htask hstage hanswer =>
    have hinside : task.stage.isInside = false := by
      rw [hstage]
      rfl
    have hperform := Operation.perform_of_immediate? (Ledger.gateway verdict) hanswer (h.known task.guild)
    have hworld : (progress.perform (Ledger.gateway verdict) number task.guild task.operation).world =
        progress.world := congrArg Prod.snd hperform
    have hmem := progress.mem_answers_perform (Ledger.gateway verdict) number task.guild task.operation
    rw [hperform] at hmem
    refine .inr ⟨task, htask, h.not_mem_answered htask hinside (by rw [hstage]; rfl), ?_⟩
    refine traced_place session.locks session.world h htask ?_ ?_ ?_ ?_
      (fun other answer hne => mem_answers_perform_of_ne _ hne _ _ answer) (.finished rfl hmem)
    · rw [hworld]
      exact h.known
    · rw [hworld]
      exact fun hothers _ => h.part_eq htask hinside hothers
    · rw [hworld]
      exact fun _ _ => ⟨rfl, rfl⟩
    · rw [hworld]
      exact fun _ _ _ _ _ _ => ⟨rfl, rfl⟩
  | asks htask hstage =>
    exact .inl (traced_enter h htask (by rw [hstage]; rfl) (by rw [hstage]; rfl) horderly')
  | retries htask hstage =>
    exact .inl (traced_enter h htask (by rw [hstage]; rfl) (by rw [hstage]; rfl) horderly')
  | accesses htask hstage hrest =>
    rcases traced_access h horderly htask hstage hrest rfl with hsame | ⟨hnew, hturn⟩
    · exact .inl hsame
    · exact .inr ⟨_, htask, hnew, hturn⟩
  | finishes htask hstage hresult =>
    rcases traced_finish h horderly htask hstage hresult with hsame | ⟨hnew, hturn⟩
    · exact .inl hsame
    · exact .inr ⟨_, htask, hnew, hturn⟩

end Session

end CommandFlow.Service
