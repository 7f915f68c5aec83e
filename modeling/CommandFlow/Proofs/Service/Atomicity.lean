import CommandFlow.Proofs.Service.Accesses
import CommandFlow.Proofs.Service.Stability

/-!
# Operations that fail

Whatever can go wrong in an operation goes wrong before its first change, so that an operation that fails leaves
the records and all that is known as they were.

* `Procedure.IsSure` : nothing is left that can go wrong; `Procedure.ChangesNothing` : nothing is changed;
* `Procedure.IsAtomic` : after the first change nothing can go wrong;
  `Procedure.IsAtomic.router_run` : such a procedure changes nothing if it fails;
* `Operation.isAtomic_procedure` : every operation but a resolution is such a procedure;
* `Operation.router_perform_of_error` : where one fails, wherever that is, nothing is changed.
-/

namespace CommandFlow.Service

namespace Procedure

variable {α β σ : Type}

/-- Nothing is left that can go wrong. -/
def IsSure : Procedure α → Prop
  | done _ => True
  | note _ next => next.IsSure
  | _ => False

def ChangesNothing : Procedure α → Prop
  | done _ => True
  | fail _ => True
  | known next => ∀ names, (next names).ChangesNothing
  | commands _ next => ∀ found, (next found).ChangesNothing
  | deployed next => ∀ projects, (next projects).ChangesNothing
  | register _ next => next.ChangesNothing
  | prepare next => next.ChangesNothing
  | commit _ _ => False
  | note _ _ => False

/-- After the first change nothing can go wrong. -/
def IsAtomic : Procedure α → Prop
  | done _ => True
  | fail _ => True
  | known next => ∀ names, (next names).IsAtomic
  | commands _ next => ∀ found, (next found).IsAtomic
  | deployed next => ∀ projects, (next projects).IsAtomic
  | register _ next => next.IsAtomic
  | prepare next => next.IsAtomic
  | commit _ next => next.IsSure
  | note _ next => next.IsSure

/-! ## Going on -/

theorem IsSure.isAtomic {p : Procedure α} (h : p.IsSure) : p.IsAtomic := by
  cases p with
  | done answer => trivial
  | note names next => exact h
  | _ => exact h.elim

theorem IsSure.andThen {p : Procedure α} {f : α → Procedure β} (h : p.IsSure) (hf : ∀ a, (f a).IsSure) :
    (p.andThen f).IsSure := by
  induction p with
  | done answer => exact hf answer
  | note names next ih => exact ih h
  | _ => exact h.elim

theorem IsAtomic.andThen {p : Procedure α} {f : α → Procedure β} (h : p.IsAtomic) (hf : ∀ a, (f a).IsSure) :
    (p.andThen f).IsAtomic := by
  induction p with
  | done answer => exact (hf answer).isAtomic
  | fail fault => trivial
  | known next ih => exact fun names => ih names (h names)
  | commands project next ih => exact fun found => ih found (h found)
  | deployed next ih => exact fun projects => ih projects (h projects)
  | register payload next ih => exact ih h
  | prepare next ih => exact ih h
  | commit change next ih => exact IsSure.andThen h hf
  | note names next ih => exact IsSure.andThen h hf

theorem ChangesNothing.andThen {p : Procedure α} {f : α → Procedure β} (h : p.ChangesNothing)
    (hf : ∀ a, (f a).IsAtomic) : (p.andThen f).IsAtomic := by
  induction p with
  | done answer => exact hf answer
  | fail fault => trivial
  | known next ih => exact fun names => ih names (h names)
  | commands project next ih => exact fun found => ih found (h found)
  | deployed next ih => exact fun projects => ih projects (h projects)
  | register payload next ih => exact ih h
  | prepare next ih => exact ih h
  | commit change next ih => exact h.elim
  | note names next ih => exact h.elim

/-! ## Runs -/

theorem IsSure.run_ne_error {p : Procedure α} (h : p.IsSure) (gateway : Gateway σ) (guild : String)
    (world : World σ) (fault : ServiceFault) : (p.run gateway guild world).1 ≠ .error fault := by
  induction p generalizing world with
  | done answer => exact fun herror => by cases herror
  | note names next ih => exact ih h (world.note guild names)
  | _ => exact h.elim

/-- An access to the store that comes before every change: the procedure fails on it, or goes on. -/
theorem router_ifServed (gateway : Gateway σ) (area : Area) {world : World σ}
    {answered : World σ → Except ServiceFault α × World σ} {fault : ServiceFault}
    (hanswered : ∀ after : World σ, after.router = world.router → (answered after).1 = .error fault →
      (answered after).2.router = world.router)
    (herror : (ifServed gateway area world answered fun world => (.error .storage, world)).1 = .error fault) :
    (ifServed gateway area world answered fun world => (.error .storage, world)).2.router = world.router := by
  obtain ⟨outside, hserved | hserved⟩ :=
    ifServed_cases gateway area world answered fun world => (.error .storage, world)
  · rw [hserved] at herror ⊢
    exact hanswered { world with outside } rfl herror
  · rw [hserved]

/-- A procedure that can only fail before its first change leaves records and names if it fails. -/
theorem IsAtomic.router_run {p : Procedure α} (h : p.IsAtomic) {gateway : Gateway σ} {guild : String}
    {world : World σ} {fault : ServiceFault} (herror : (p.run gateway guild world).1 = .error fault) :
    (p.run gateway guild world).2.router = world.router := by
  induction p generalizing world with
  | done answer => cases herror
  | fail fault => rfl
  | known next ih => exact ih _ (h _) herror
  | commands project next ih =>
    refine router_ifServed gateway .catalogue (fun after hafter herror => ?_) herror
    rw [ih _ (h _) herror, hafter]
  | deployed next ih =>
    refine router_ifServed gateway .deployments (fun after hafter herror => ?_) herror
    rw [ih _ (h _) herror, hafter]
  | register payload next ih =>
    revert herror
    rw [run, ifRegistered]
    obtain ⟨answer, outside⟩ := gateway.register guild payload world.outside
    cases answer with
    | ok done => exact @ih h { world with outside }
    | error cause => exact fun _ => rfl
  | prepare next ih =>
    refine router_ifServed gateway .deployments (fun after hafter herror => ?_) herror
    rw [ih h herror, hafter]
  | commit change next ih =>
    -- what comes after the change cannot fail
    refine router_ifServed gateway .deployments (fun after _ herror => ?_) herror
    exact absurd herror (IsSure.run_ne_error h gateway guild (after.commit guild change) fault)
  | note names next ih =>
    exact absurd herror (IsSure.run_ne_error h gateway guild (world.note guild names) fault)

theorem exists_answered_of_ok {gateway : Gateway σ} {area : Area} {world after : World σ} {answer : α}
    {answered : World σ → Except ServiceFault α × World σ}
    (h : ifServed gateway area world answered (fun world => (.error .storage, world)) = (.ok answer, after)) :
    ∃ outside, answered { world with outside } = (.ok answer, after) := by
  obtain ⟨outside, hserved | hserved⟩ :=
    ifServed_cases gateway area world answered fun world => (.error .storage, world)
  · exact ⟨outside, hserved.symm.trans h⟩
  · rw [hserved] at h
    cases h

/-- A procedure that succeeds does the same where nothing is refused. -/
theorem exists_run_of_ok {p : Procedure α} {gateway : Gateway σ} {guild : String} {world after : World σ}
    {answer : α} (h : p.run gateway guild world = (.ok answer, after)) (ledger : Ledger) :
    ∃ ledger', p.run (Ledger.gateway fun _ _ => none) guild ⟨world.router, ledger⟩ =
      (.ok answer, ⟨after.router, ledger'⟩) := by
  induction p generalizing world ledger with
  | done given =>
    cases h
    exact ⟨ledger, rfl⟩
  | fail fault => cases h
  | known next ih => exact ih _ h ledger
  | commands project next ih =>
    obtain ⟨outside, hnext⟩ := exists_answered_of_ok h
    exact ih _ hnext ledger
  | deployed next ih =>
    obtain ⟨outside, hnext⟩ := exists_answered_of_ok h
    exact ih _ hnext ledger
  | register payload next ih =>
    revert h
    rw [run, ifRegistered]
    obtain ⟨taken, outside⟩ := gateway.register guild payload world.outside
    cases taken with
    | ok done => exact fun h => @ih { world with outside } h (ledger ++ [(⟨guild, payload, true⟩ : Push)])
    | error cause => exact fun h => by cases h
  | prepare next ih =>
    obtain ⟨outside, hnext⟩ := exists_answered_of_ok h
    exact @ih { world with outside } hnext ledger
  | commit change next ih =>
    obtain ⟨outside, hnext⟩ := exists_answered_of_ok h
    exact @ih (World.commit { world with outside } guild change) hnext ledger
  | note names next ih => exact @ih (world.note guild names) h ledger

/-! ## Operations -/

theorem changesNothing_list (projects : List Uuid) (listing : Listing) :
    (list projects listing).ChangesNothing := by
  induction projects generalizing listing with
  | nil => trivial
  | cons project projects ih =>
    intro found
    show ((ofExcept (listing.addAll project found)).andThen (list projects)).ChangesNothing
    cases listing.addAll project found with
    | ok longer => exact ih longer
    | error fault => trivial

theorem isAtomic_deploy (project : Uuid) : (deploy project).IsAtomic := by
  intro own
  dsimp only
  split
  · trivial
  · exact fun projects => (changesNothing_list _ _).andThen fun listing => trivial

theorem isAtomic_undeploy (project : Uuid) : (undeploy project).IsAtomic := fun _ =>
  (changesNothing_list _ _).andThen fun _ => trivial

theorem isAtomic_join : join.IsAtomic := by
  intro projects
  refine (changesNothing_list _ _).andThen fun listing => ?_
  split <;> trivial

theorem isAtomic_leave : leave.IsAtomic := trivial

end Procedure

namespace Operation

variable {σ : Type}

/-- Every operation but a resolution can only fail before its first change. -/
theorem isAtomic_procedure (guild : String) {operation : Operation} (h : ∀ name, operation ≠ .resolve name) :
    (operation.procedure guild).IsAtomic := by
  cases operation with
  | deploy project => exact (Procedure.isAtomic_deploy project).andThen fun _ => trivial
  | undeploy project => exact (Procedure.isAtomic_undeploy project).andThen fun _ => trivial
  | resolve name => exact absurd rfl (h name)
  | join => exact Procedure.isAtomic_join.andThen fun _ => trivial
  | leave => exact Procedure.isAtomic_leave.andThen fun _ => trivial

/-- A project without commands is not deployed: its commands are asked for, and nothing else is. -/
theorem record_deploy_of_commands_eq_nil (gateway : Gateway σ) (guild : String) {project : Uuid}
    {world : World σ} (h : world.commands project = []) :
    let ran := ((deploy project).procedure guild).run gateway.recorded guild world.unrecorded
    ∃ isServed, ran.2.record = [.store .catalogue isServed] ∧
      ran.1 = .error (if isServed then .noCommands else .storage) := by
  intro ran
  obtain ⟨next, hprocedure, hnext⟩ : ∃ next, (deploy project).procedure guild = .commands project next ∧
      next [] = .fail .noCommands := ⟨_, rfl, rfl⟩
  have hran : ran = Procedure.ifServed gateway.recorded .catalogue world.unrecorded
      (fun after => (next (after.commands project)).run gateway.recorded guild after)
      fun after => (.error .storage, after) := by
    show ((deploy project).procedure guild).run _ _ _ = _
    rw [hprocedure]
    rfl
  rw [hran, Procedure.ifServed, Gateway.serves_recorded]
  refine ⟨(gateway.serves .catalogue world.outside).1, ?_⟩
  dsimp only [World.unrecorded]
  obtain ⟨isServed, outside⟩ := gateway.serves .catalogue world.outside
  cases isServed with
  | true =>
    show (Procedure.run _ _ (next (world.commands project)) _).2.record = _ ∧
      (Procedure.run _ _ (next (world.commands project)) _).1 = _
    rw [h, hnext]
    exact ⟨rfl, rfl⟩
  | false => exact ⟨rfl, rfl⟩

/-- A deployment, or the end of one, that succeeds has listed what is deployed then, has changed the records and
notes the names that it listed. -/
theorem exists_listing_of_ok {gateway : Gateway σ} {guild : String} {operation : Operation} {world after : World σ}
    {answer : Answer} (h : (operation.procedure guild).run gateway guild world = (.ok answer, after))
    {change : Change} (hchange : operation.change? = some change) (hreport : operation.isReport = false) :
    ∃ listing, Listing.ofProjects world.commands (change.listed (world.deployed guild)) {} = .ok listing ∧
      after.router = ⟨change.apply guild world.router.store,
        world.router.index.note guild (some listing.names)⟩ := by
  obtain ⟨ledger, hrun⟩ := Procedure.exists_run_of_ok h []
  obtain ⟨listing, hlisting, hpublished⟩ :=
    exists_published (fun _ _ => none) hchange hreport (congrArg Prod.fst hrun)
  rw [hrun] at hpublished
  exact ⟨listing, hlisting, congrArg World.router hpublished⟩

/-- Wherever a deployment, its end or a report of a guild fails, the records and all that is known are as they were,
and a report does not even tell. It fails wherever an access is refused, with the fault of that access, and a project
without commands is not even registered. A deployment, or its end, that does not fail has done everything. -/
theorem router_perform_of_error (gateway : Gateway σ) (guild : String) {operation : Operation}
    (hoperation : ∀ name, operation ≠ .resolve name) (world : World σ) :
    let ran := (operation.procedure guild).run gateway.recorded guild world.unrecorded
    let performed := operation.perform gateway guild world
    performed = (operation.answer ran.1, ran.2.map Prod.fst) ∧
    (∀ fault, ran.1 = .error fault → performed.2.router = world.router ∧
      performed.1 = (if operation.isReport then .ok .done else .error fault)) ∧
    (∀ access ∈ ran.2.record, ∀ fault, access.fault? = some fault → ran.1 = .error fault) ∧
    (∀ project, operation = .deploy project → world.commands project = [] →
      (∃ fault, performed.1 = .error fault) ∧
        ∀ access ∈ ran.2.record, access.isRegistration = false) ∧
    ∀ answer change, ran.1 = .ok answer → operation.change? = some change → operation.isReport = false →
      ∃ listing, Listing.ofProjects world.commands (change.listed (world.deployed guild)) {} = .ok listing ∧
        performed.2.router = ⟨change.apply guild world.router.store,
          world.router.index.note guild (some listing.names)⟩ := by
  intro ran performed
  have herased : (operation.procedure guild).run gateway guild world =
      Prod.map id (World.map Prod.fst) ran :=
    Procedure.run_erase gateway.recorded_erases guild (operation.procedure guild) world.unrecorded
  have hperformed : performed = (operation.answer ran.1, ran.2.map Prod.fst) := by
    show operation.perform gateway guild world = _
    unfold perform
    rw [herased]
    rfl
  obtain ⟨record, hrecord, haccounts⟩ :=
    Procedure.exists_record_run gateway guild (operation.procedure guild) world.unrecorded
  have hran : ran.2.record = record := hrecord
  refine ⟨hperformed, fun fault herror => ⟨?_, ?_⟩, fun access haccess fault hfault => ?_, ?_, ?_⟩
  · have hrouter : ran.2.router = world.router :=
      (isAtomic_procedure guild hoperation).router_run herror
    rw [hperformed]
    exact hrouter
  · rw [hperformed, herror]
    rfl
  · rw [hran] at haccess
    exact haccounts.result_eq haccess hfault
  · rintro project rfl hcommands
    obtain ⟨isServed, hrecorded, herror⟩ := record_deploy_of_commands_eq_nil gateway guild hcommands
    refine ⟨⟨if isServed then .noCommands else .storage, ?_⟩, fun access haccess => ?_⟩
    · rw [hperformed]
      exact herror
    · have hmem : access ∈ [Access.store .catalogue isServed] := hrecorded ▸ haccess
      rw [List.mem_singleton.mp hmem]
      rfl
  · intro answer change hok hchange hreport
    have hrun : (operation.procedure guild).run gateway guild world = (.ok answer, ran.2.map Prod.fst) := by
      rw [herased, ← hok]
      rfl
    rw [hperformed]
    exact exists_listing_of_ok hrun hchange hreport

/-- The outside that refuses one access, counted from zero, and answers every other. -/
def refusing (number : Nat) : Gateway Nat where
  serves _ count := (count != number, count + 1)
  register _ _ count := (if count = number then .error (.action "refused") else .ok (), count + 1)

/-- Two projects have a command of the same name, and the first of them is deployed. -/
def halfDeployed : World Nat where
  router.store.commands := [{ id := ⟨3⟩, project := ⟨1⟩, name := "ping" },
    { id := ⟨4⟩, project := ⟨2⟩, name := "ping" }]
  router.store.deployments := [⟨"guild", ⟨1⟩, true⟩]
  router.index := [("guild", [("ping", ⟨1⟩)])]
  outside := 0

/-- The last access of a deployment, which is to change the records, is refused after the registration was taken. -/
theorem router_perform_of_error_commit :
    (∀ name, Operation.deploy ⟨2⟩ ≠ .resolve name) ∧
    (((deploy ⟨2⟩).procedure "guild").run (refusing 6).recorded "guild" halfDeployed.unrecorded).1 =
      .error .storage ∧
    ((deploy ⟨2⟩).perform (refusing 6) "guild" halfDeployed).2.router = halfDeployed.router ∧
    ((deploy ⟨2⟩).perform (refusing 6) "guild" halfDeployed).1 = .error .storage := by
  have hoperation : ∀ name, Operation.deploy ⟨2⟩ ≠ .resolve name := by
    intro name h
    cases h
  have hran : (((deploy ⟨2⟩).procedure "guild").run (refusing 6).recorded "guild"
      halfDeployed.unrecorded).1 = .error .storage := by with_unfolding_all rfl
  exact ⟨hoperation, hran,
    (router_perform_of_error (refusing 6) "guild" hoperation halfDeployed).2.1 .storage hran⟩

end Operation

end CommandFlow.Service
