import CommandFlow.Proofs.Service.Accesses
import CommandFlow.Service.Api

/-!
# The catalogue

Projects, commands and graphs are what nothing but authoring changes: neither operations nor invocations do, and of
all requests only those to save a graph.

* `Store.catalogue` : the store without its deployments;
* `Procedure.catalogue_run`, `Bot.catalogue_handle` : what leaves it as it is;
* `App.Leaves`, `App.leaves_respondTo` : requests but those to save a graph leave it, too.
-/

namespace CommandFlow.Service

variable {σ α : Type}

def Store.catalogue (store : Store) : Store := { store with deployments := [] }

theorem Store.catalogue_apply (change : Change) (guild : String) (store : Store) :
    (change.apply guild store).catalogue = store.catalogue := by
  cases change <;> rfl

theorem Store.commands_of_catalogue {store other : Store} (h : other.catalogue = store.catalogue) :
    other.commands = store.commands := by
  have hcommands := congrArg Store.commands h
  exact hcommands

theorem Store.snapshots_of_catalogue {store other : Store} (h : other.catalogue = store.catalogue) :
    other.snapshots = store.snapshots := by
  have hsnapshots := congrArg Store.snapshots h
  exact hsnapshots

def World.catalogue (world : World σ) : Store := world.router.store.catalogue

theorem Procedure.catalogue_run (gateway : Gateway σ) (guild : String) (p : Procedure α) (world : World σ) :
    (p.run gateway guild world).2.catalogue = world.catalogue :=
  run_keeps gateway (P := fun after => after.catalogue = world.catalogue) (fun _ _ h => h)
    (fun after change h => (Store.catalogue_apply change guild after.router.store).trans h)
    (fun _ _ h => h) p rfl

theorem Operation.catalogue_perform (gateway : Gateway σ) (guild : String) (operation : Operation) (world : World σ) :
    (operation.perform gateway guild world).2.catalogue = world.catalogue :=
  Procedure.catalogue_run gateway guild (operation.procedure guild) world

/-! ## Invocations -/

namespace Bot

variable (gateway : Gateway σ) (platform : Platform σ)

/-- The active graph is loaded if it can be read, or the store refuses. -/
theorem load_cases (project : Uuid) (name : String) (world : World σ) :
    ∃ outside, load gateway project name world =
        (.ok ((world.router.store.activeGraph project name).bind fun raw =>
          (GraphDocument.read .store raw).toOption.map (·.graph)), { world with outside }) ∨
      load gateway project name world = (.error .storage, { world with outside }) :=
  Procedure.ifServed_cases gateway .catalogue world _ _

theorem router_load (project : Uuid) (name : String) (world : World σ) :
    (load gateway project name world).2.router = world.router := by
  obtain ⟨outside, hloaded | hrefused⟩ := load_cases gateway project name world
  · rw [hloaded]
  · rw [hrefused]

theorem router_execute (settings : Settings) (graph : Graph) (context : Context) (generator : Generator)
    (world : World σ) : (execute settings platform graph context generator world).2.router = world.router := by
  unfold execute
  obtain ⟨outcome, live⟩ := Live.execute platform settings graph context generator ⟨false, world.outside⟩
  dsimp only
  split
  · rfl
  · rfl
  · split <;> rfl

theorem catalogue_handle (settings : Settings) (invocation : Chat.Invocation) (generator : Generator)
    (world : World σ) :
    (handle settings gateway platform invocation generator world).2.catalogue = world.catalogue := by
  unfold handle
  split
  · rfl
  · rfl
  · rename_i guild _
    have hresolve := Procedure.catalogue_run gateway guild (Procedure.resolve guild invocation.commandName) world
    unfold handleIn
    generalize (Procedure.resolve guild invocation.commandName).run gateway guild world = resolved at hresolve
    obtain ⟨answer, after⟩ := resolved
    match answer with
    | .error fault => cases fault <;> exact hresolve
    | .ok project =>
      have hload := router_load gateway project invocation.commandName after
      dsimp only
      generalize load gateway project invocation.commandName after = loaded at hload
      obtain ⟨answer, loaded⟩ := loaded
      have hcatalogue : loaded.catalogue = world.catalogue :=
        (congrArg (fun router => router.store.catalogue) hload).trans hresolve
      match answer with
      | .error fault => exact hcatalogue
      | .ok none => exact hcatalogue
      | .ok (some graph) =>
        have hexecute := router_execute platform settings graph invocation.context generator loaded
        exact (congrArg (fun router => router.store.catalogue) hexecute).trans hcatalogue

end Bot

/-! ## Requests -/

namespace App

/-- What requests but those to save a graph leave as it is: the catalogue, which parts of the store answer, and the
web. -/
structure Leaves (app after : App σ) : Prop where
  catalogue : after.world.catalogue = app.world.catalogue
  outage : after.outage = app.outage
  web : after.web = app.web

theorem Leaves.refl (app : App σ) : app.Leaves app := ⟨rfl, rfl, rfl⟩

theorem Leaves.snapshots {app after : App σ} (h : app.Leaves after) : after.store.snapshots = app.store.snapshots :=
  Store.snapshots_of_catalogue h.catalogue

theorem Leaves.commands {app after : App σ} (h : app.Leaves after) : after.store.commands = app.store.commands :=
  Store.commands_of_catalogue h.catalogue

theorem leaves_make (app : App σ) (guild : String) (p : Procedure α) : app.Leaves (app.make guild p).2 :=
  ⟨Procedure.catalogue_run app.gateway guild p app.world, rfl, rfl⟩

theorem leaves_dispatch (app : App σ) (invocation : Chat.Invocation) : app.Leaves (app.dispatch invocation).2 := by
  have hhandle := Bot.catalogue_handle
    (Bot.gateway app.outage app.client (Chat.Interaction.web app.web))
    (Chat.Interaction.platform ⟨invocation.interactionId, invocation.token⟩ app.client app.web) app.settings
    invocation generator ⟨app.world.router, { outside := app.world.outside }⟩
  exact ⟨hhandle, rfl, rfl⟩

theorem leaves_webhook (app : App σ) (headers : Entries String) (octets : List UInt8) :
    app.Leaves (app.webhook headers octets).2 := by
  unfold webhook take
  split
  · exact .refl app
  · split
    · exact .refl app
    · split
      · split <;> exact .refl app
      · split
        · exact .refl app
        · exact .refl app
        · exact .refl app
        · exact app.leaves_dispatch _

theorem leaves_deployTo (app : App σ) (project : Uuid) (guild : String) :
    app.Leaves (app.deployTo project guild).2 := by
  have hmake := app.leaves_make guild (Procedure.deploy project)
  unfold deployTo
  split <;> rename_i heq <;> rw [heq] at hmake <;> exact hmake

theorem leaves_undeployFrom (app : App σ) (project : Uuid) (guild : String) :
    app.Leaves (app.undeployFrom project guild).2 := by
  have hmake := app.leaves_make guild (Procedure.undeploy project)
  unfold undeployFrom
  split <;> rename_i heq <;> rw [heq] at hmake <;> exact hmake

theorem leaves_report (app : App σ) (guild : String) (operation : Operation) :
    app.Leaves (app.report guild operation).2 :=
  ⟨Operation.catalogue_perform app.gateway guild operation app.world, rfl, rfl⟩

theorem leaves_simulateRun (app : App σ) (body : Api.simulationShape.Carrier) :
    app.Leaves (app.simulateRun body).2 := by
  obtain ⟨⟨document, ⟨context, _⟩, stubs, ⟨⟩⟩, _⟩ := body
  unfold simulateRun
  dsimp only
  split <;> exact ⟨rfl, rfl, rfl⟩

theorem leaves_withContent {content : Except Http.Response α} (app : App σ)
    {next : α → Except ServiceFault Http.Response × App σ} (h : ∀ a, app.Leaves (next a).2) :
    app.Leaves (app.withContent content next).2 := by
  cases content with
  | error response => exact .refl app
  | ok a => exact h a

/-- A request for an endpoint at which no graph is saved leaves the catalogue as it is. -/
theorem leaves_respondTo (app : App σ) (request : Http.Request) {endpoint : Endpoint}
    (h : ∀ command, endpoint ≠ .saveGraph command) : app.Leaves (app.respondTo request endpoint).2 := by
  cases endpoint with
  | health => exact .refl app
  | readiness => exact .refl app
  | interactions => exact app.leaves_webhook _ _
  | deploy => exact app.leaves_withContent fun ((project, guild, ()), _) => app.leaves_deployTo project guild
  | undeploy project guild => exact app.leaves_withContent fun project => app.leaves_undeployFrom project guild
  | join guild => exact app.leaves_report guild .join
  | leave guild => exact app.leaves_report guild .leave
  | simulate => exact app.leaves_withContent app.leaves_simulateRun
  | validate => exact app.leaves_withContent fun document => .refl app
  | saveGraph command => exact absurd rfl (h command)

end App

end CommandFlow.Service
