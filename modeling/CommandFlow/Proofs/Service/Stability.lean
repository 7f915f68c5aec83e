import CommandFlow.Proofs.Service.Reachable
import CommandFlow.Proofs.Service.Routing

/-!
# Routes of other names

A deployment, and the end of one, publishes what is deployed anew. Names that the project does not have are then
resolved by the records, whatever they were resolved to before.

* `Operation.exists_published` : what a deployment or its end does if it succeeds;
* `Change.find?_listed` : a project without a name does not matter for its provider;
* `Session.Reachable.route_published` : in a reachable session other names are resolved as after a restart, and as
  before if they are uncontested;
* `Session.route_published_ne` : contested names that change hands when another project is deployed, or its
  deployment ended.
-/

namespace CommandFlow.Service

/-! ## What is published -/

/-- A project that has no command of a name does not matter for the first that has one. -/
theorem Change.find?_listed {change : Change} {project : Uuid} {projects : List Uuid} {hasName : Uuid → Bool}
    (hchange : change = .activate project ∨ change = .deactivate project) (hname : hasName project = false) :
    (change.listed projects).find? hasName = projects.find? hasName := by
  have hfilter : (projects.filter (· ≠ project)).find? hasName = projects.find? hasName := by
    rw [List.find?_filter]
    congr 1
    funext other
    by_cases hother : other = project
    · rw [hother, hname]
      simp
    · simp [hother]
  rcases hchange with rfl | rfl
  · rw [listed, List.find?_cons, hname]
    exact hfilter
  · exact hfilter

/-- What is published with success was listed, and then registered, recorded and noted. -/
theorem Procedure.exists_listing_of_publish {α : Type} (verdict : String → Nat → Option Fault) {guild : String}
    {world : World Ledger} (projects : List Uuid) (change : Change) (answer : α) {given : α}
    (h : (((list projects {}).andThen fun listing => register listing.payload <| prepare <|
      commit change <| note (some listing.names) <| done answer).run (Ledger.gateway verdict) guild
        world).1 = .ok given) :
    ∃ listing, Listing.ofProjects world.commands projects {} = .ok listing ∧
      (((list projects {}).andThen fun listing => register listing.payload <| prepare <|
        commit change <| note (some listing.names) <| done answer).run (Ledger.gateway verdict) guild
          world).2 =
        ((world.push ⟨guild, listing.payload, true⟩).commit guild change).note guild
          (some listing.names) := by
  rcases run_publish verdict guild projects change answer world with
    ⟨fault, hrun⟩ | ⟨fault, payload, hrun⟩ | ⟨listing, hlisting, hrun⟩
  · rw [hrun] at h
    cases h
  · rw [hrun] at h
    cases h
  · exact ⟨listing, hlisting, congrArg Prod.snd hrun⟩

namespace Operation

variable (verdict : String → Nat → Option Fault) {guild : String} {world : World Ledger} {project : Uuid}

theorem exists_published_deploy {count : Nat}
    (h : ((Procedure.deploy project).run (Ledger.gateway verdict) guild world).1 = .ok count) :
    ∃ listing, Listing.ofProjects world.commands
        (Change.listed (.activate project) (world.deployed guild)) {} = .ok listing ∧
      ((Procedure.deploy project).run (Ledger.gateway verdict) guild world).2 =
        ((world.push ⟨guild, listing.payload, true⟩).commit guild (.activate project)).note guild
          (some listing.names) := by
  unfold Procedure.deploy at h ⊢
  rw [Procedure.run, Procedure.ifServed_gateway] at h ⊢
  split at h
  · cases h
  · rename_i hown
    rw [if_neg hown]
    rw [Procedure.run, Procedure.ifServed_gateway] at h ⊢
    exact Procedure.exists_listing_of_publish verdict
      (Change.listed (.activate project) (world.deployed guild)) (.activate project)
      (world.commands project).length h

theorem exists_published_undeploy
    (h : ((Procedure.undeploy project).run (Ledger.gateway verdict) guild world).1 = .ok ()) :
    ∃ listing, Listing.ofProjects world.commands
        (Change.listed (.deactivate project) (world.deployed guild)) {} = .ok listing ∧
      ((Procedure.undeploy project).run (Ledger.gateway verdict) guild world).2 =
        ((world.push ⟨guild, listing.payload, true⟩).commit guild (.deactivate project)).note guild
          (some listing.names) := by
  unfold Procedure.undeploy at h ⊢
  rw [Procedure.run, Procedure.ifServed_gateway] at h ⊢
  exact Procedure.exists_listing_of_publish verdict
    (Change.listed (.deactivate project) (world.deployed guild)) (.deactivate project) () h

/-- A deployment, or the end of one, that succeeds publishes what is deployed then. -/
theorem exists_published {operation : Operation} {change : Change} {answer : Answer}
    (hchange : operation.change? = some change) (hreport : operation.isReport = false)
    (h : ((operation.procedure guild).run (Ledger.gateway verdict) guild world).1 = .ok answer) :
    ∃ listing, Listing.ofProjects world.commands (change.listed (world.deployed guild)) {} = .ok listing ∧
      ((operation.procedure guild).run (Ledger.gateway verdict) guild world).2 =
        ((world.push ⟨guild, listing.payload, true⟩).commit guild change).note guild
          (some listing.names) := by
  cases operation with
  | deploy project =>
    cases hchange
    rw [procedure, Procedure.run_andThen_done] at h ⊢
    obtain ⟨count, hcount, -⟩ := map_eq_ok.mp h
    exact exists_published_deploy verdict hcount
  | undeploy project =>
    cases hchange
    rw [procedure, Procedure.run_andThen_done] at h ⊢
    obtain ⟨done, hdone, -⟩ := map_eq_ok.mp h
    exact exists_published_undeploy verdict hdone
  | leave => cases hreport
  | _ => cases hchange

theorem perform_eq_run {σ : Type} (gateway : Gateway σ) {operation : Operation} (hreport : operation.isReport = false)
    (world : World σ) :
    operation.perform gateway guild world = (operation.procedure guild).run gateway guild world := by
  unfold perform answer
  rw [hreport]
  rfl

/-- After a deployment, or the end of one, a name that the project does not have is resolved to its provider. -/
theorem route_perform {operation : Operation} {answer : Answer} {name : String}
    (hoperation : operation = .deploy project ∨ operation = .undeploy project)
    (hname : ∀ command ∈ world.commands project, command.name ≠ name)
    (h : (operation.perform (Ledger.gateway verdict) guild world).1 = .ok answer) :
    (operation.perform (Ledger.gateway verdict) guild world).2.route (Ledger.gateway verdict) guild name =
      routed guild name (world.provider? guild name) := by
  obtain ⟨change, hpublished, hreport, hchange⟩ : ∃ change, operation.change? = some change ∧
      operation.isReport = false ∧ (change = .activate project ∨ change = .deactivate project) := by
    rcases hoperation with rfl | rfl
    · exact ⟨_, rfl, rfl, .inl rfl⟩
    · exact ⟨_, rfl, rfl, .inr rfl⟩
  rw [perform_eq_run _ hreport] at h ⊢
  obtain ⟨listing, hlisting, hafter⟩ := exists_published verdict hpublished hreport h
  have hknown : ((operation.procedure guild).run (Ledger.gateway verdict) guild world).2.known guild =
      some listing.names := by
    rw [hafter]
    exact World.known_note_some _ _ _
  have hnot : Listing.hasName name (world.commands project) = false := by
    simpa [Listing.hasName] using hname
  have hfound : Entries.get? listing.names name =
      (change.listed (world.deployed guild)).find? fun project =>
        Listing.hasName name (world.commands project) := Listing.get?_ofProjects hlisting name
  have hprovider : (change.listed (world.deployed guild)).find? (fun project =>
      Listing.hasName name (world.commands project)) = world.provider? guild name :=
    Change.find?_listed hchange hnot
  rw [World.route_of_known verdict name hknown, hfound, hprovider]

end Operation

/-! ## Reachable sessions -/

namespace Session

variable {verdict : String → Nat → Option Fault} {session : Session Ledger}

/-- In a reachable session what is deployed in a guild where no task is inside can be listed. -/
theorem Reachable.canList (h : Reachable verdict session) {guild : String} (hquiet : session.IsQuiet guild) :
    session.world.CanList guild := by
  have hbegin : ∀ (store : Store) (ledger : Ledger), store.deployments = [] →
      ∀ guild, World.CanList ⟨⟨store, []⟩, ledger⟩ guild := by
    rintro store ledger hstore guild project ⟨d, hd, -⟩
    rw [hstore] at hd
    exact (List.not_mem_nil hd).elim
  obtain ⟨progress, hfollows, hlist⟩ := h.exists_progress_of (I := fun world => ∀ guild, world.CanList guild)
    hbegin (fun _ guild operation hworld => World.canList_perform verdict hworld guild operation)
    fun _ hworld => hworld
  exact (hlist guild).of_part (hfollows.part_eq hquiet)

/-- In a reachable session a deployment, or the end of one, after which a name that the project does not have is
resolved as after a restart. If the name is uncontested it is resolved as before. -/
theorem Reachable.route_published (h : Reachable verdict session) {guild : String}
    (hquiet : session.IsQuiet guild) {project : Uuid} {name : String}
    (hname : ∀ command ∈ session.world.commands project, command.name ≠ name) {operation : Operation}
    (hoperation : operation = .deploy project ∨ operation = .undeploy project) {answer : Answer}
    (hdone : (operation.perform (Ledger.gateway verdict) guild session.world).1 = .ok answer) :
    let gateway := Ledger.gateway verdict
    let after := (operation.perform gateway guild session.world).2
    after.route gateway guild name = session.world.fresh.route gateway guild name ∧
      (session.world.router.store.IsUncontested guild name →
        after.route gateway guild name = session.world.route gateway guild name) := by
  intro gateway after
  have hlist := h.canList hquiet
  have hfresh : after.route gateway guild name = session.world.fresh.route gateway guild name := by
    rw [World.route_fresh verdict name hlist]
    exact Operation.route_perform verdict hoperation hname hdone
  refine ⟨hfresh, fun huncontested => ?_⟩
  have hsnapshot := h.snapshot_invariant.1 guild hquiet
  rw [hsnapshot.route_eq_fresh verdict hlist huncontested]
  exact hfresh

/-- Two projects that have a command of one name were deployed in a guild, one after the other. A third project has
a command of another name. -/
def contest : Session Ledger :=
  (((⟨[], {}, ⟨⟨{ commands := [{ id := ⟨4⟩, project := ⟨1⟩, name := "ping" },
      { id := ⟨5⟩, project := ⟨2⟩, name := "ping" }, { id := ⟨6⟩, project := ⟨3⟩, name := "quote" }] },
      []⟩, []⟩⟩ : Session Ledger).ask "guild" (.deploy ⟨1⟩)).ask "guild" (.deploy ⟨2⟩)).follow
    (Ledger.gateway fun _ _ => none) (List.replicate 12 0 ++ List.replicate 12 1)

theorem reachable_contest : Reachable (fun _ _ => none) contest :=
  reachable_follow (((Reachable.begin rfl []).ask _ _).ask _ _) _

theorem isQuiet_contest : contest.IsQuiet "guild" := by
  unfold IsQuiet
  decide +kernel

theorem route_published_contest :
    Reachable (fun _ _ => none) contest ∧ contest.IsQuiet "guild" ∧
    (∀ command ∈ contest.world.commands ⟨3⟩, command.name ≠ "ping") ∧
    ((Operation.deploy ⟨3⟩).perform (Ledger.gateway fun _ _ => none) "guild" contest.world).1 =
      .ok (.count 1) ∧
    ((Operation.deploy ⟨3⟩).perform (Ledger.gateway fun _ _ => none) "guild" contest.world).2.route
      (Ledger.gateway fun _ _ => none) "guild" "ping" =
        contest.world.fresh.route (Ledger.gateway fun _ _ => none) "guild" "ping" := by
  have hname : ∀ command ∈ contest.world.commands ⟨3⟩, command.name ≠ "ping" := by decide +kernel
  have hdone : ((Operation.deploy ⟨3⟩).perform (Ledger.gateway fun _ _ => none) "guild"
      contest.world).1 = .ok (.count 1) := by with_unfolding_all rfl
  exact ⟨reachable_contest, isQuiet_contest, hname, hdone,
    (Reachable.route_published reachable_contest isQuiet_contest hname (.inl rfl) hdone).1⟩

/-- A name of the first two projects changes hands when the third is deployed, and when the third, which is not
deployed, has its deployment ended. -/
theorem route_published_ne :
    let gateway := Ledger.gateway fun _ _ => none
    let deployed := (Operation.deploy ⟨3⟩).perform gateway "guild" contest.world
    let ended := (Operation.undeploy ⟨3⟩).perform gateway "guild" contest.world
    Reachable (fun _ _ => none) contest ∧ contest.IsQuiet "guild" ∧
    (∀ command ∈ contest.world.commands ⟨3⟩, command.name ≠ "ping") ∧
    contest.world.route gateway "guild" "ping" = .ok (.project ⟨2⟩) ∧
    deployed.1 = .ok (.count 1) ∧ deployed.2.route gateway "guild" "ping" = .ok (.project ⟨1⟩) ∧
    ended.1 = .ok .done ∧ ended.2.route gateway "guild" "ping" = .ok (.project ⟨1⟩) := by
  intro gateway deployed ended
  refine ⟨reachable_contest, isQuiet_contest, by decide +kernel, ?_, ?_, ?_, ?_, ?_⟩ <;>
    with_unfolding_all rfl

end Session

end CommandFlow.Service
