import CommandFlow.Proofs.Service.Catalogue
import CommandFlow.Proofs.Service.Reachable

/-!
# Graphs of commands

The graph that answers an invocation is saved for a command of the project to which the name is resolved. Which kind
of command that is nobody asks.

* `Store.exists_of_activeGraph`, `Bot.exists_of_load` : where a graph comes from;
* `Session.Reachable.exists_source` : in a reachable session a graph is loaded for a registered name, and is that of
  a slash command if the project has no other command of the name;
* `Session.not_slash_of_load` : a graph of a command that is not registered.
-/

namespace CommandFlow.Service

/-- An active snapshot of an enabled command of a project and a name, with its document. -/
structure Store.IsSource (store : Store) (project : Uuid) (name : String) (command : Command) (snapshot : Snapshot)
    (document : GraphDocument) : Prop where
  command_mem : command ∈ store.commands
  project_eq : command.project = project
  name_eq : command.name = name
  isEnabled : command.isEnabled = true
  snapshot_mem : snapshot ∈ store.snapshots
  of_command : snapshot.command = command.id
  isActive : snapshot.isActive = true
  read : GraphDocument.read .store snapshot.graph = .ok document

theorem Store.exists_of_activeGraph {store : Store} {project : Uuid} {name : String} {raw : Value}
    (h : store.activeGraph project name = some raw) :
    ∃ command ∈ store.commands, ∃ snapshot ∈ store.snapshots, command.project = project ∧ command.name = name ∧
      command.isEnabled = true ∧ snapshot.command = command.id ∧ snapshot.isActive = true ∧
      snapshot.graph = raw := by
  obtain ⟨snapshot, hfound, hraw⟩ := Option.map_eq_some_iff.mp h
  have hmem := List.mem_of_find?_eq_some hfound
  have hholds := List.find?_some hfound
  simp only [belongs, Bool.and_eq_true, List.any_eq_true, decide_eq_true_eq] at hholds
  obtain ⟨hactive, command, hcommand, ⟨⟨hid, hproject⟩, hname⟩, henabled⟩ := hholds
  exact ⟨command, hcommand, snapshot, hmem, hproject, hname, henabled, hid.symm, hactive, hraw⟩

theorem Bot.exists_of_load {σ : Type} {gateway : Gateway σ} {project : Uuid} {name : String} {world after : World σ}
    {graph : Graph} (h : load gateway project name world = (.ok (some graph), after)) :
    ∃ command snapshot document, world.router.store.IsSource project name command snapshot document ∧
      graph = document.graph := by
  obtain ⟨outside, hloaded | hrefused⟩ := load_cases gateway project name world
  · have hgraph := Except.ok.inj (congrArg Prod.fst (hloaded.symm.trans h))
    obtain ⟨raw, hraw, hread⟩ := Option.bind_eq_some_iff.mp hgraph
    obtain ⟨document, hdocument, hsame⟩ := Option.map_eq_some_iff.mp hread
    obtain ⟨command, hcommand, snapshot, hsnapshot, hproject, hname, henabled, hof, hactive, rfl⟩ :=
      Store.exists_of_activeGraph hraw
    exact ⟨command, snapshot, document,
      ⟨hcommand, hproject, hname, henabled, hsnapshot, hof, hactive, toOption_eq_some.mp hdocument⟩, hsame.symm⟩
  · have hfault := congrArg Prod.fst (hrefused.symm.trans h)
    cases hfault

def World.withSnapshots {σ : Type} (world : World σ) (snapshots : List Snapshot) : World σ :=
  { world with router := { world.router with store := { world.router.store with snapshots } } }

theorem World.IsSnapshot.withSnapshots {world : World Ledger} {guild : String} (h : world.IsSnapshot guild)
    (snapshots : List Snapshot) : (world.withSnapshots snapshots).IsSnapshot guild :=
  ⟨h.single, h.known, h.registered⟩

theorem Store.IsSource.of_catalogue {store other : Store} {project : Uuid} {name : String} {command : Command}
    {snapshot : Snapshot} {document : GraphDocument}
    (h : other.IsSource project name command snapshot document) (hcatalogue : other.catalogue = store.catalogue) :
    store.IsSource project name command snapshot document := by
  have hcommands := Store.commands_of_catalogue hcatalogue
  have hsnapshots := Store.snapshots_of_catalogue hcatalogue
  exact { h with command_mem := hcommands ▸ h.command_mem, snapshot_mem := hsnapshots ▸ h.snapshot_mem }

namespace Session

variable {verdict : String → Nat → Option Fault} {session : Session Ledger}

/-- In a reachable session where no task of the guild is inside, whatever was saved: a graph that is loaded for a name
is that of an active snapshot of an enabled command of the name, the project has an enabled slash command of the
name, which is registered, and an invocation of the name runs this graph. The graph is that of a slash command if the
project has no enabled command of another kind of the name. -/
theorem Reachable.exists_source (h : Reachable verdict session) {guild : String} (hquiet : session.IsQuiet guild)
    (snapshots : List Snapshot) {name : String} {project : Uuid} {graph : Graph} {resolved loaded : World Ledger}
    (hresolve : (Procedure.resolve guild name).run (Ledger.gateway verdict) guild
      (session.world.withSnapshots snapshots) = (.ok project, resolved))
    (hload : Bot.load (Ledger.gateway verdict) project name resolved = (.ok (some graph), loaded)) :
    let store := { session.world.router.store with snapshots }
    (∃ command snapshot document, store.IsSource project name command snapshot document ∧
      graph = document.graph ∧
      ((∀ other ∈ store.commands, other.project = project → other.name = name → other.isEnabled = true →
        other.type = .slash) → command.type = .slash)) ∧
    store.Offers guild project name ∧
    (∃ payload, (session.world.outside.taken guild).getLast? = some payload ∧
      some (.text name) ∈ payload.map (·.get? "name")) ∧
    ∀ settings platform (invocation : Chat.Invocation) generator, invocation.commandName = name →
      Bot.handleIn settings (Ledger.gateway verdict) platform guild invocation generator
          (session.world.withSnapshots snapshots) =
        Bot.execute settings platform graph invocation.context generator loaded := by
  intro store
  obtain ⟨progress, hfollows⟩ := h.exists_progress
  have hsnapshot : (session.world.withSnapshots snapshots).IsSnapshot guild :=
    ((hfollows.snapshot guild).of_part (hfollows.part_eq hquiet)).withSnapshots snapshots
  have hoffers : store.Offers guild project name :=
    Procedure.offers_of_resolve verdict hsnapshot (congrArg Prod.fst hresolve)
  have hcatalogue : resolved.catalogue = store.catalogue := by
    have hrun := Procedure.catalogue_run (Ledger.gateway verdict) guild (Procedure.resolve guild name)
      (session.world.withSnapshots snapshots)
    rw [hresolve] at hrun
    exact hrun
  obtain ⟨command, snapshot, document, hsource, hgraph⟩ := Bot.exists_of_load hload
  have hsource : store.IsSource project name command snapshot document := hsource.of_catalogue hcatalogue
  refine ⟨⟨command, snapshot, document, hsource, hgraph, fun hall => ?_⟩, hoffers, ?_, ?_⟩
  · exact hall command hsource.command_mem hsource.project_eq hsource.name_eq hsource.isEnabled
  · obtain ⟨payload, names, htaken, hnames, hunion⟩ := hsnapshot.registered project hoffers.1
    have hname : name ∈ names := (hunion.2 name).mpr ⟨project, hoffers⟩
    exact ⟨payload, htaken, hnames ▸ List.mem_map_of_mem hname⟩
  · rintro settings platform invocation generator rfl
    rw [Bot.handleIn, hresolve]
    dsimp only
    rw [hload]

def startGraph : Value :=
  .object [("nodes", .list [.object [("type", .text "START"), ("id", .text "s")]])]

def startOf (command : Uuid) : Snapshot := { command, version := 1, graph := startGraph }

theorem exists_load_startGraph (verdict : String → Nat → Option Fault) {world : World Ledger} {project : Uuid}
    {name : String} (h : world.router.store.activeGraph project name = some startGraph) :
    ∃ graph, Bot.load (Ledger.gateway verdict) project name world = (.ok (some graph), world) := by
  have hsome : (GraphDocument.read .store startGraph).toOption.isSome = true := by decide +kernel
  obtain ⟨document, hdocument⟩ := Option.isSome_iff_exists.mp hsome
  refine ⟨document.graph, ?_⟩
  show (Except.ok ((world.router.store.activeGraph project name).bind fun raw =>
    (GraphDocument.read .store raw).toOption.map (·.graph)), world) = _
  rw [h, Option.bind_some, hdocument]
  rfl

theorem exists_source_trial :
    let gateway := Ledger.gateway fun _ _ => none
    let world := (trial 0).world.withSnapshots [startOf ⟨2⟩]
    Reachable (fun _ _ => none) (trial 0) ∧ (trial 0).IsQuiet "guild" ∧ ∃ resolved loaded graph,
      (Procedure.resolve "guild" "ping").run gateway "guild" world = (.ok ⟨1⟩, resolved) ∧
      Bot.load gateway ⟨1⟩ "ping" resolved = (.ok (some graph), loaded) ∧
      ∃ command snapshot document, world.router.store.IsSource ⟨1⟩ "ping" command snapshot document ∧
        graph = document.graph ∧ command.type = .slash := by
  intro gateway world
  have hquiet : (trial 0).IsQuiet "guild" := by
    unfold IsQuiet
    decide +kernel
  have hresolve : (Procedure.resolve "guild" "ping").run gateway "guild" world = (.ok ⟨1⟩, world) := by
    with_unfolding_all rfl
  have hactive : world.router.store.activeGraph ⟨1⟩ "ping" = some startGraph := by with_unfolding_all rfl
  obtain ⟨graph, hload⟩ := exists_load_startGraph (fun _ _ => none) hactive
  have hslash : ∀ other ∈ world.router.store.commands, other.type = .slash := by decide +kernel
  obtain ⟨⟨command, snapshot, document, hsource, hgraph, htype⟩, -⟩ :=
    Reachable.exists_source (reachable_trial 0) hquiet [startOf ⟨2⟩] hresolve hload
  exact ⟨reachable_trial 0, hquiet, world, world, graph, hresolve, hload, command, snapshot, document, hsource,
    hgraph, htype fun other hother _ _ _ => hslash other hother⟩

/-- A project with two commands of one name, of which only the first is registered, is deployed in a guild. -/
def namesakes : Session Ledger :=
  ((⟨[], {}, ⟨⟨{ commands := [{ id := ⟨2⟩, project := ⟨1⟩, name := "ping" },
      { id := ⟨3⟩, project := ⟨1⟩, name := "ping", type := .user }] }, []⟩, []⟩⟩ : Session Ledger).ask
    "guild" (.deploy ⟨1⟩)).follow (Ledger.gateway fun _ _ => none) (List.replicate 12 0)

/-- The graph of a command that is not registered is loaded for the name of one that is. -/
theorem not_slash_of_load :
    let gateway := Ledger.gateway fun _ _ => none
    let world := namesakes.world.withSnapshots [startOf ⟨3⟩]
    Reachable (fun _ _ => none) namesakes ∧ namesakes.IsQuiet "guild" ∧ ∃ resolved loaded graph,
      (Procedure.resolve "guild" "ping").run gateway "guild" world = (.ok ⟨1⟩, resolved) ∧
      Bot.load gateway ⟨1⟩ "ping" resolved = (.ok (some graph), loaded) ∧
      ∀ command snapshot document, world.router.store.IsSource ⟨1⟩ "ping" command snapshot document →
        command.type ≠ .slash := by
  intro gateway world
  have hreachable : Reachable (fun _ _ => none) namesakes :=
    reachable_follow ((Reachable.begin rfl []).ask _ _) _
  have hquiet : namesakes.IsQuiet "guild" := by
    unfold IsQuiet
    decide +kernel
  have hresolve : (Procedure.resolve "guild" "ping").run gateway "guild" world = (.ok ⟨1⟩, world) := by
    with_unfolding_all rfl
  have hactive : world.router.store.activeGraph ⟨1⟩ "ping" = some startGraph := by with_unfolding_all rfl
  obtain ⟨graph, hload⟩ := exists_load_startGraph (fun _ _ => none) hactive
  have hslash : ∀ command ∈ world.router.store.commands, ∀ snapshot ∈ world.router.store.snapshots,
      snapshot.command = command.id → command.type ≠ .slash := by decide +kernel
  exact ⟨hreachable, hquiet, world, world, graph, hresolve, hload, fun command snapshot document hsource =>
    hslash command hsource.command_mem snapshot hsource.snapshot_mem hsource.of_command⟩

end Session

end CommandFlow.Service
