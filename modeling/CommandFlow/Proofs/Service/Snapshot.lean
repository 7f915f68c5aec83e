import CommandFlow.Proofs.Service.Accesses
import CommandFlow.Proofs.Service.Ledger
import CommandFlow.Proofs.Service.Listing

/-!
# Snapshots of guilds

What is known and what is registered of a guild are snapshots of the records: the names of the enabled slash
commands of the projects that are deployed there.

* `Store.Offers` : a project that is deployed in a guild has a command of a name;
* `World.IsSnapshot` : the records of a guild are single, and what is known and registered agrees with them;
* `Procedure.offers_of_resolve` : a name is resolved to a project that offers it;
* `Change.listed` : the projects that are listed before a change;
* `Operation.Effect`, `Operation.effect_perform` : what an operation does to the world;
* `Operation.Effect.isSnapshot`, `Operation.Effect.not_isDeployed` : what it keeps.
-/

namespace CommandFlow.Service

/-! ## Records -/

namespace Store

def IsDeployed (store : Store) (guild : String) (project : Uuid) : Prop :=
  ∃ d ∈ store.deployments, d.guild = guild ∧ d.project = project ∧ d.isActive = true

/-- The project is deployed in the guild and has an enabled slash command of the name. -/
def Offers (store : Store) (guild : String) (project : Uuid) (name : String) : Prop :=
  store.IsDeployed guild project ∧ ∃ command ∈ store.commands,
    command.project = project ∧ command.name = name ∧ command.isEnabled = true ∧ command.type = .slash

/-- The names are those that are offered in the guild, each once. -/
def IsUnion (store : Store) (guild : String) (names : List String) : Prop :=
  names.Nodup ∧ ∀ name, name ∈ names ↔ ∃ project, store.Offers guild project name

/-- Every project has at most one record in the guild. -/
def IsSingle (store : Store) (guild : String) : Prop :=
  ∀ project, store.deployments.countP (fun d => d.guild = guild && d.project = project) ≤ 1

variable (store : Store) {guild : String} {project other : Uuid}

theorem isDeployed_part : (store.part guild).IsDeployed guild project ↔ store.IsDeployed guild project := by
  simp only [IsDeployed, part, List.mem_filter, decide_eq_true_eq]
  constructor
  · rintro ⟨d, ⟨hd, -⟩, hfound⟩
    exact ⟨d, hd, hfound⟩
  · rintro ⟨d, hd, hguild, hfound⟩
    exact ⟨d, ⟨hd, hguild⟩, hguild, hfound⟩

theorem offers_part (name : String) :
    (store.part guild).Offers guild project name ↔ store.Offers guild project name := by
  unfold Offers
  rw [isDeployed_part]
  rfl

theorem isUnion_part (names : List String) :
    (store.part guild).IsUnion guild names ↔ store.IsUnion guild names := by
  simp only [IsUnion, offers_part]

theorem isSingle_part : (store.part guild).IsSingle guild ↔ store.IsSingle guild := by
  have hcount : ∀ project, (store.part guild).deployments.countP
      (fun d => d.guild = guild && d.project = project) =
        store.deployments.countP fun d => d.guild = guild && d.project = project := by
    intro project
    rw [part, List.countP_filter]
    congr 1
    funext d
    cases decide (d.guild = guild) <;> simp
  simp only [IsSingle, hcount]

/-! ## Changes of the records -/

theorem mark_project (guild : String) (project : Uuid) (isActive : Bool) (d : Deployment) :
    (mark guild project isActive d).project = d.project := by
  unfold mark
  split <;> rfl

theorem commands_apply (change : Change) (guild : String) : (change.apply guild store).commands = store.commands := by
  cases change <;> rfl

theorem slashCommands_apply (change : Change) (guild : String) (project : Uuid) :
    (change.apply guild store).slashCommands project = store.slashCommands project := by
  rw [slashCommands, commands_apply]
  rfl

variable {store}

theorem exists_record_of_deployment? (h : (store.deployment? guild project).isSome = true) :
    ∃ d ∈ store.deployments, d.guild = guild ∧ d.project = project := by
  obtain ⟨d, hd⟩ := Option.isSome_iff_exists.mp h
  refine ⟨d, List.mem_of_find?_eq_some hd, ?_⟩
  simpa using List.find?_some hd

theorem isDeployed_activate :
    (store.activate guild project).IsDeployed guild other ↔ other = project ∨ store.IsDeployed guild other := by
  by_cases hfound : (store.deployment? guild project).isSome = true
  · have hrecords : (store.activate guild project).deployments =
        store.deployments.map (mark guild project true) := if_pos hfound
    unfold IsDeployed
    rw [hrecords]
    constructor
    · rintro ⟨d, hd, hguild, hproject, hactive⟩
      obtain ⟨old, hold, rfl⟩ := List.mem_map.mp hd
      rw [mark_guild] at hguild
      rw [mark_project] at hproject
      by_cases hsame : other = project
      · exact .inl hsame
      · have hkept : mark guild project true old = old := by
          simp [mark, hproject, hsame]
        rw [hkept] at hactive
        exact .inr ⟨old, hold, hguild, hproject, hactive⟩
    · rintro (rfl | ⟨d, hd, hguild, hproject, hactive⟩)
      · obtain ⟨d, hd, hguild, hproject⟩ := exists_record_of_deployment? hfound
        refine ⟨_, List.mem_map_of_mem hd, by rw [mark_guild, hguild], by rw [mark_project, hproject], ?_⟩
        simp [mark, hguild, hproject]
      · refine ⟨_, List.mem_map_of_mem hd, by rw [mark_guild, hguild], by rw [mark_project, hproject], ?_⟩
        unfold mark
        split
        · rfl
        · exact hactive
  · have hrecords : (store.activate guild project).deployments =
        store.deployments ++ [⟨guild, project, true⟩] := if_neg hfound
    unfold IsDeployed
    rw [hrecords]
    constructor
    · rintro ⟨d, hd, hguild, hproject, hactive⟩
      rcases List.mem_append.mp hd with hold | hnew
      · exact .inr ⟨d, hold, hguild, hproject, hactive⟩
      · rw [List.mem_singleton.mp hnew] at hproject
        exact .inl hproject.symm
    · rintro (rfl | ⟨d, hd, hfound⟩)
      · exact ⟨_, List.mem_append_right _ (List.mem_singleton_self _), rfl, rfl, rfl⟩
      · exact ⟨d, List.mem_append_left _ hd, hfound⟩

theorem isDeployed_deactivate :
    (store.deactivate guild project).IsDeployed guild other ↔ other ≠ project ∧ store.IsDeployed guild other := by
  unfold IsDeployed deactivate
  constructor
  · rintro ⟨d, hd, hguild, hproject, hactive⟩
    obtain ⟨old, hold, rfl⟩ := List.mem_map.mp hd
    rw [mark_guild] at hguild
    rw [mark_project] at hproject
    have hne : other ≠ project := by
      rintro rfl
      simp [mark, hguild, hproject] at hactive
    have hkept : mark guild project false old = old := by
      simp [mark, hproject, hne]
    rw [hkept] at hactive
    exact ⟨hne, old, hold, hguild, hproject, hactive⟩
  · rintro ⟨hne, d, hd, hguild, hproject, hactive⟩
    have hkept : mark guild project false d = d := by
      simp [mark, hproject, hne]
    exact ⟨d, List.mem_map.mpr ⟨d, hd, hkept⟩, hguild, hproject, hactive⟩

theorem not_isDeployed_deactivateGuild : ¬ (store.deactivateGuild guild).IsDeployed guild other := by
  rintro ⟨d, hd, hguild, -, hactive⟩
  obtain ⟨old, -, rfl⟩ := List.mem_map.mp hd
  split at hguild <;> simp_all

/-- A change of the records makes no second record of a project. -/
theorem IsSingle.apply (h : store.IsSingle guild) (change : Change) : (change.apply guild store).IsSingle guild := by
  have hmap : ∀ f : Deployment → Deployment, (∀ d, (f d).guild = d.guild) → (∀ d, (f d).project = d.project) →
      ∀ project, (store.deployments.map f).countP (fun d => d.guild = guild && d.project = project) ≤ 1 := by
    intro f hguild hproject project
    rw [List.countP_map]
    refine Nat.le_trans (Nat.le_of_eq ?_) (h project)
    congr 1
    funext d
    rw [Function.comp_apply, hguild, hproject]
  cases change with
  | activate project =>
    intro current
    by_cases hfound : (store.deployment? guild project).isSome = true
    · have hrecords : (store.activate guild project).deployments =
          store.deployments.map (mark guild project true) := if_pos hfound
      rw [Change.apply, hrecords]
      exact hmap _ (mark_guild guild project true) (mark_project guild project true) current
    · have hrecords : (store.activate guild project).deployments =
          store.deployments ++ [⟨guild, project, true⟩] := if_neg hfound
      rw [Change.apply, hrecords, List.countP_append]
      by_cases hcurrent : project = current
      · subst hcurrent
        have hnone : store.deployments.countP (fun d => d.guild = guild && d.project = project) = 0 := by
          rw [List.countP_eq_zero]
          simpa [deployment?] using hfound
        rw [hnone]
        simp
      · have hnew : [(⟨guild, project, true⟩ : Deployment)].countP
            (fun d => d.guild = guild && d.project = current) = 0 := by
          simp [hcurrent]
        rw [hnew]
        exact h current
  | deactivate project =>
    exact hmap _ (mark_guild guild project false) (mark_project guild project false)
  | deactivateAll =>
    refine hmap _ (fun d => ?_) (fun d => ?_)
    · split <;> rfl
    · split <;> rfl

end Store

/-! ## Snapshots -/

/-- The records of a guild are single. The names that are known are those that are offered, each with a project
that offers it, and the last registration that was taken has exactly these names, unless nothing is deployed. -/
structure World.IsSnapshot (world : World Ledger) (guild : String) : Prop where
  single : world.router.store.IsSingle guild
  known : ∀ names, world.known guild = some names →
    world.router.store.IsUnion guild (Entries.names names) ∧
      ∀ name project, (name, project) ∈ names → world.router.store.Offers guild project name
  registered : ∀ project, world.router.store.IsDeployed guild project →
    ∃ payload names, (world.outside.taken guild).getLast? = some payload ∧
      payload.map (·.get? "name") = names.map (fun name => some (.text name)) ∧
      world.router.store.IsUnion guild names

namespace World

variable {world other : World Ledger} {guild : String}

theorem taken_part (ledger : Ledger) (guild : String) : (ledger.part guild).taken guild = ledger.taken guild := by
  rw [Ledger.taken, Ledger.part_part, Ledger.taken]

theorem isSnapshot_part : (world.part guild).IsSnapshot guild ↔ world.IsSnapshot guild := by
  have hstore : (world.part guild).router.store = world.router.store.part guild := rfl
  have hledger : (world.part guild).outside = world.outside.part guild := rfl
  constructor
  · rintro ⟨hsingle, hknown, hregistered⟩
    simp only [hstore, hledger, known_part, taken_part, Store.isSingle_part, Store.isUnion_part,
      Store.offers_part, Store.isDeployed_part] at hsingle hknown hregistered
    exact ⟨hsingle, hknown, hregistered⟩
  · rintro ⟨hsingle, hknown, hregistered⟩
    constructor <;>
      simp only [hstore, hledger, known_part, taken_part, Store.isSingle_part, Store.isUnion_part,
        Store.offers_part, Store.isDeployed_part]
    · exact hsingle
    · exact hknown
    · exact hregistered

theorem isDeployed_of_part {project : Uuid} (h : world.part guild = other.part guild) :
    world.router.store.IsDeployed guild project ↔ other.router.store.IsDeployed guild project := by
  have hstore : world.router.store.part guild = other.router.store.part guild :=
    congrArg (·.router.store) h
  rw [← Store.isDeployed_part, hstore, Store.isDeployed_part]

/-- Whether it is a snapshot depends on the part of the guild only. -/
theorem IsSnapshot.of_part (h : world.IsSnapshot guild) (hpart : other.part guild = world.part guild) :
    other.IsSnapshot guild := by
  rw [← isSnapshot_part, hpart, isSnapshot_part]
  exact h

theorem taken_push (ledger : Ledger) (guild : String) (payload : List Value) :
    Ledger.taken (ledger ++ [⟨guild, payload, true⟩]) guild = ledger.taken guild ++ [payload] := by
  simp [Ledger.taken, Ledger.part]

theorem taken_push_refused (ledger : Ledger) (guild : String) (payload : List Value) :
    Ledger.taken (ledger ++ [⟨guild, payload, false⟩]) guild = ledger.taken guild := by
  simp [Ledger.taken, Ledger.part]

theorem known_note_some (world : World Ledger) (guild : String) (names : Names) :
    (world.note guild (some names)).known guild = some names :=
  Entries.get?_insert_self _ _ _

theorem IsSnapshot.push_refused (h : world.IsSnapshot guild) (payload : List Value) :
    (world.push ⟨guild, payload, false⟩).IsSnapshot guild := by
  refine ⟨h.single, h.known, fun project hproject => ?_⟩
  have htaken : (world.push ⟨guild, payload, false⟩).outside.taken guild = world.outside.taken guild :=
    taken_push_refused world.outside guild payload
  rw [htaken]
  exact h.registered project hproject

end World

/-! ## Listings of what is deployed -/

def Store.offered (store : Store) (projects : List Uuid) : List (Uuid × Command) :=
  projects.flatMap fun project => (store.slashCommands project).map fun command => (project, command)

theorem Store.mem_offered {store : Store} {projects : List Uuid} {project : Uuid} {command : Command} :
    (project, command) ∈ store.offered projects ↔
      project ∈ projects ∧ command ∈ store.slashCommands project := by
  simp only [offered, List.mem_flatMap, List.mem_map, Prod.mk.injEq]
  constructor
  · rintro ⟨_, hproject, _, hcommand, rfl, rfl⟩
    exact ⟨hproject, hcommand⟩
  · rintro ⟨hproject, hcommand⟩
    exact ⟨project, hproject, command, hcommand, rfl, rfl⟩

/-- A listing of the projects that are deployed has the names that are offered. -/
theorem Listing.Lists.isUnion {store : Store} {guild : String} {projects : List Uuid} {listing : Listing}
    (h : listing.Lists (store.offered projects))
    (hprojects : ∀ project, project ∈ projects ↔ store.IsDeployed guild project) :
    store.IsUnion guild (Entries.names listing.names) ∧
      ∀ name project, (name, project) ∈ listing.names → store.Offers guild project name := by
  have hsound : ∀ name project, (name, project) ∈ listing.names → store.Offers guild project name := by
    intro name project hin
    obtain ⟨command, hcommand, hname⟩ := h.sound name project hin
    obtain ⟨hproject, hcommand⟩ := Store.mem_offered.mp hcommand
    obtain ⟨hmem, howner, henabled, htype⟩ := Store.mem_slashCommands.mp hcommand
    exact ⟨(hprojects project).mp hproject, command, hmem, howner, hname, henabled, htype⟩
  refine ⟨⟨h.nodup, fun name => ⟨fun hin => ?_, ?_⟩⟩, hsound⟩
  · obtain ⟨⟨_, project⟩, hentry, rfl⟩ := List.mem_map.mp hin
    exact ⟨project, hsound _ project hentry⟩
  · rintro ⟨project, hdeployed, command, hmem, howner, rfl, henabled, htype⟩
    refine h.complete project command (Store.mem_offered.mpr ⟨(hprojects project).mpr hdeployed, ?_⟩)
    exact Store.mem_slashCommands.mpr ⟨hmem, howner, henabled, htype⟩

/-- The guild is as its snapshot after the listing of what is deployed was noted, and registered too if anything
is deployed. -/
theorem World.isSnapshot_of_lists {world : World Ledger} {guild : String} {projects : List Uuid}
    {listing : Listing} (hsingle : world.router.store.IsSingle guild)
    (h : listing.Lists (world.router.store.offered projects))
    (hprojects : ∀ project, project ∈ projects ↔ world.router.store.IsDeployed guild project)
    (hknown : world.known guild = some listing.names)
    (htaken : ∀ project, world.router.store.IsDeployed guild project →
      (world.outside.taken guild).getLast? = some listing.payload) : world.IsSnapshot guild := by
  obtain ⟨hunion, hsound⟩ := h.isUnion hprojects
  refine ⟨hsingle, fun names hnames => ?_, fun project hproject => ?_⟩
  · rw [hknown, Option.some.injEq] at hnames
    rw [← hnames]
    exact ⟨hunion, hsound⟩
  · exact ⟨listing.payload, _, htaken project hproject, h.payload, hunion⟩

/-! ## Procedures at a snapshot -/

namespace Procedure

variable {α : Type} (verdict : String → Nat → Option Fault) {guild : String} {world : World Ledger}

theorem run_list (guild : String) (projects : List Uuid) (listing : Listing) (world : World Ledger) :
    (list projects listing).run (Ledger.gateway verdict) guild world =
      (Listing.ofProjects world.commands projects listing, world) :=
  run_list_of_isOpen (fun _ _ => rfl) guild projects listing world

/-- What goes on after a listing gets the listing of the commands, unless a command has no form. -/
theorem run_list_andThen (guild : String) (projects : List Uuid) (f : Listing → Procedure α) (world : World Ledger) :
    (∃ fault, ((list projects {}).andThen f).run (Ledger.gateway verdict) guild world = (.error fault, world)) ∨
    ∃ listing, Listing.ofProjects world.commands projects {} = .ok listing ∧
      ((list projects {}).andThen f).run (Ledger.gateway verdict) guild world =
        (f listing).run (Ledger.gateway verdict) guild world := by
  rw [run_andThen, run_list]
  cases hlisting : Listing.ofProjects world.commands projects {} with
  | error fault => exact .inl ⟨fault, rfl⟩
  | ok listing => exact .inr ⟨listing, rfl, rfl⟩

/-- A registration is refused and ends the procedure, or the procedure goes on after it. -/
theorem run_register (guild : String) (payload : List Value) (next : Procedure α) (world : World Ledger) :
    (∃ fault, (register payload next).run (Ledger.gateway verdict) guild world =
      (.error fault, world.push ⟨guild, payload, false⟩)) ∨
    (register payload next).run (Ledger.gateway verdict) guild world =
      next.run (Ledger.gateway verdict) guild (world.push ⟨guild, payload, true⟩) := by
  rw [run]
  cases hverdict : verdict guild (world.outside.part guild).length with
  | none => exact .inr (ifRegistered_of_taken verdict hverdict _ _ _)
  | some fault => exact .inl ⟨_, ifRegistered_of_refused verdict hverdict _ _ _⟩

/-- What publishes a listing gives up before its registration, is refused, or does all of it. -/
theorem run_publish (guild : String) (projects : List Uuid) (change : Change) (answer : α)
    (world : World Ledger) :
    let after := ((list projects {}).andThen fun listing => register listing.payload <| prepare <|
      commit change <| note (some listing.names) <| done answer).run (Ledger.gateway verdict) guild world
    (∃ fault, after = (.error fault, world)) ∨
    (∃ fault payload, after = (.error fault, world.push ⟨guild, payload, false⟩)) ∨
    ∃ listing, Listing.ofProjects world.commands projects {} = .ok listing ∧
      after = (.ok answer, ((world.push ⟨guild, listing.payload, true⟩).commit guild change).note guild
        (some listing.names)) := by
  intro after
  rcases run_list_andThen verdict guild projects (fun listing => register listing.payload <|
    prepare <| commit change <| note (some listing.names) <| done answer) world with
      ⟨fault, hrun⟩ | ⟨listing, hlisting, hrun⟩
  · exact .inl ⟨fault, hrun⟩
  rcases run_register verdict guild listing.payload (prepare <| commit change <|
    note (some listing.names) <| done answer) world with ⟨fault, hrefused⟩ | htaken
  · exact .inr (.inl ⟨fault, listing.payload, hrun.trans hrefused⟩)
  · exact .inr (.inr ⟨listing, hlisting, hrun.trans htaken⟩)

theorem mem_deployed {project : Uuid} :
    project ∈ world.deployed guild ↔ world.router.store.IsDeployed guild project :=
  Store.mem_activeProjects

/-- A change of the answer leaves the world as it is. -/
theorem run_andThen_done {β σ : Type} (gateway : Gateway σ) (guild : String) (p : Procedure α) (f : α → β)
    (world : World σ) :
    (p.andThen fun a => done (f a)).run gateway guild world =
      ((p.run gateway guild world).1.map f, (p.run gateway guild world).2) := by
  rw [run_andThen]
  obtain ⟨result, after⟩ := p.run gateway guild world
  cases result <;> rfl

theorem nodup_index (hindex : (Entries.names world.router.index).Nodup) (p : Procedure α) :
    (Entries.names (p.run (Ledger.gateway verdict) guild world).2.router.index).Nodup := by
  refine run_keeps (Ledger.gateway verdict) (P := fun world => (Entries.names world.router.index).Nodup)
    (fun _ _ h => h) (fun _ _ h => h) (fun world names h => ?_) p hindex
  cases names with
  | none => exact Entries.nodup_names_erase h guild
  | some names => exact Entries.nodup_names_insert h guild names

/-- After the end of a deployment the project is not deployed. -/
theorem not_isDeployed_of_undeploy {project : Uuid}
    (h : ((undeploy project).run (Ledger.gateway verdict) guild world).1 = .ok ()) :
    ¬ ((undeploy project).run (Ledger.gateway verdict) guild world).2.router.store.IsDeployed guild project := by
  unfold undeploy at h ⊢
  rw [run, ifServed_gateway] at h ⊢
  rcases run_publish verdict guild ((world.deployed guild).filter (· ≠ project)) (.deactivate project) ()
    world with ⟨fault, hrun⟩ | ⟨fault, payload, hrun⟩ | ⟨listing, -, hrun⟩
  · rw [hrun] at h
    cases h
  · rw [hrun] at h
    cases h
  · rw [hrun]
    intro hdeployed
    exact (Store.isDeployed_deactivate.mp hdeployed).1 rfl

theorem offers_of_resolve (h : world.IsSnapshot guild) {name : String} {project : Uuid}
    (hresolve : ((resolve guild name).run (Ledger.gateway verdict) guild world).1 = .ok project) :
    world.router.store.Offers guild project name := by
  have hanswering : ∀ (names : Names) (world : World Ledger),
      ((answering guild name names).run (Ledger.gateway verdict) guild world).1 = .ok project →
        (name, project) ∈ names := by
    intro names world hanswer
    unfold answering at hanswer
    split at hanswer
    · rename_i found hfound
      cases hanswer
      exact Entries.mem_of_get?_eq_some hfound
    · cases hanswer
  unfold resolve at hresolve
  rw [run] at hresolve
  cases hknown : world.known guild with
  | some names =>
    rw [hknown] at hresolve
    exact (h.known names hknown).2 name project (hanswering names world hresolve)
  | none =>
    rw [hknown] at hresolve
    rcases run_list_andThen verdict guild (world.deployed guild) (fun listing =>
      note (some listing.names) <| answering guild name listing.names) world with
        ⟨fault, hrun⟩ | ⟨listing, hlisting, hrun⟩
    · rw [run, ifServed_gateway, hrun] at hresolve
      cases hresolve
    · rw [run, ifServed_gateway, hrun] at hresolve
      exact ((Listing.lists_empty.ofProjects hlisting).isUnion fun project => mem_deployed).2 name project
        (hanswering listing.names _ hresolve)

end Procedure

/-! ## What operations do -/

/-- The projects that are listed before a change, given those that are deployed. -/
def Change.listed : Change → List Uuid → List Uuid
  | activate project, projects => project :: projects.filter (· ≠ project)
  | deactivate project, projects => projects.filter (· ≠ project)
  | deactivateAll, _ => []

/-- The projects that are listed before a change are those that are deployed after it. -/
theorem Change.mem_listed (change : Change) {world : World Ledger} {guild : String} {project : Uuid} :
    project ∈ change.listed (world.deployed guild) ↔
      (change.apply guild world.router.store).IsDeployed guild project := by
  cases change with
  | activate deployed =>
    refine Iff.trans ?_ Store.isDeployed_activate.symm
    rw [listed, List.mem_cons, List.mem_filter, Procedure.mem_deployed]
    by_cases hproject : project = deployed <;> simp [hproject]
  | deactivate ended =>
    refine Iff.trans ?_ Store.isDeployed_deactivate.symm
    rw [listed, List.mem_filter, Procedure.mem_deployed]
    by_cases hproject : project = ended <;> simp [hproject]
  | deactivateAll =>
    refine ⟨fun h => (List.not_mem_nil h).elim, fun h => ?_⟩
    exact (Store.not_isDeployed_deactivateGuild h).elim

namespace Operation

/-- How an operation may change the records of its guild. -/
def change? : Operation → Option Change
  | deploy project => some (.activate project)
  | undeploy project => some (.deactivate project)
  | leave => some .deactivateAll
  | _ => none

/-- What an operation for a guild can do to the world. Whenever names are noted, they are those of a listing of the
projects that are deployed then. -/
inductive Effect (operation : Operation) (guild : String) (world : World Ledger) : World Ledger → Prop where
  /-- The operation gives up early, or the names were known. -/
  | nothing : Effect operation guild world world
  /-- A registration is refused. -/
  | refused (payload : List Value) : Effect operation guild world (world.push ⟨guild, payload, false⟩)
  /-- What is deployed is noted, because it was not known or because it is nothing. -/
  | noted {listing : Listing} (hfree : world.known guild = none ∨ world.deployed guild = [])
      (hlisting : Listing.ofProjects world.commands (world.deployed guild) {} = .ok listing) :
      Effect operation guild world (world.note guild (some listing.names))
  /-- What is deployed is registered and noted. -/
  | registered {listing : Listing}
      (hlisting : Listing.ofProjects world.commands (world.deployed guild) {} = .ok listing) :
      Effect operation guild world
        ((world.push ⟨guild, listing.payload, true⟩).note guild (some listing.names))
  /-- What is deployed after a change is registered, the records change, and it is noted. -/
  | published {change : Change} {listing : Listing} (hchange : operation.change? = some change)
      (hlisting : Listing.ofProjects world.commands (change.listed (world.deployed guild)) {} = .ok listing) :
      Effect operation guild world (((world.push ⟨guild, listing.payload, true⟩).commit guild change).note guild
        (some listing.names))
  /-- Every deployment is ended, and the names are forgotten. -/
  | left (hchange : operation.change? = some .deactivateAll) :
      Effect operation guild world ((world.commit guild .deactivateAll).note guild none)

variable (verdict : String → Nat → Option Fault) {guild : String} {world : World Ledger} {operation : Operation}

theorem effect_publish {α : Type} (change : Change) (answer : α) (hchange : operation.change? = some change) :
    operation.Effect guild world (((Procedure.list (change.listed (world.deployed guild)) {}).andThen
      fun listing => .register listing.payload <| .prepare <| .commit change <| .note (some listing.names) <|
        .done answer).run (Ledger.gateway verdict) guild world).2 := by
  rcases Procedure.run_publish verdict guild (change.listed (world.deployed guild)) change answer world with
    ⟨fault, hrun⟩ | ⟨fault, payload, hrun⟩ | ⟨listing, hlisting, hrun⟩
  · rw [hrun]
    exact .nothing
  · rw [hrun]
    exact .refused payload
  · rw [hrun]
    exact .published hchange hlisting

theorem effect_deploy (project : Uuid) :
    (deploy project).Effect guild world
      ((Procedure.deploy project).run (Ledger.gateway verdict) guild world).2 := by
  unfold Procedure.deploy
  rw [Procedure.run, Procedure.ifServed_gateway]
  split
  · exact .nothing
  · rw [Procedure.run, Procedure.ifServed_gateway]
    exact effect_publish verdict (.activate project) _ rfl

theorem effect_undeploy (project : Uuid) :
    (undeploy project).Effect guild world
      ((Procedure.undeploy project).run (Ledger.gateway verdict) guild world).2 := by
  unfold Procedure.undeploy
  rw [Procedure.run, Procedure.ifServed_gateway]
  exact effect_publish verdict (.deactivate project) _ rfl

theorem effect_resolve (name : String) :
    (resolve name).Effect guild world
      ((Procedure.resolve guild name).run (Ledger.gateway verdict) guild world).2 := by
  have hanswering : ∀ (names : Names) (world : World Ledger),
      ((Procedure.answering guild name names).run (Ledger.gateway verdict) guild world).2 = world := by
    intro names world
    unfold Procedure.answering
    split <;> rfl
  unfold Procedure.resolve
  rw [Procedure.run]
  cases hknown : world.known guild with
  | some names =>
    rw [hanswering]
    exact .nothing
  | none =>
    rw [Procedure.run, Procedure.ifServed_gateway]
    rcases Procedure.run_list_andThen verdict guild (world.deployed guild) (fun listing =>
      .note (some listing.names) <| Procedure.answering guild name listing.names) world with
        ⟨fault, hrun⟩ | ⟨listing, hlisting, hrun⟩
    · rw [hrun]
      exact .nothing
    · rw [hrun, Procedure.run, hanswering]
      exact .noted (.inl hknown) hlisting

theorem effect_join :
    join.Effect guild world (Procedure.join.run (Ledger.gateway verdict) guild world).2 := by
  unfold Procedure.join
  rw [Procedure.run, Procedure.ifServed_gateway]
  rcases Procedure.run_list_andThen verdict guild (world.deployed guild) (fun listing =>
    if (world.deployed guild).isEmpty then .note (some listing.names) <| .done ()
    else .register listing.payload <| .note (some listing.names) <| .done ()) world with
      ⟨fault, hrun⟩ | ⟨listing, hlisting, hrun⟩
  · rw [hrun]
    exact .nothing
  rw [hrun]
  split
  · rename_i hempty
    exact .noted (.inr (List.isEmpty_iff.mp hempty)) hlisting
  · rcases Procedure.run_register verdict guild listing.payload (.note (some listing.names) <| .done ())
      world with ⟨fault, hrefused⟩ | htaken
    · rw [hrefused]
      exact .refused listing.payload
    · rw [htaken]
      exact .registered hlisting

/-- Every operation does one of these things. -/
theorem effect_perform (operation : Operation) (guild : String) (world : World Ledger) :
    operation.Effect guild world (operation.perform (Ledger.gateway verdict) guild world).2 := by
  show operation.Effect guild world ((operation.procedure guild).run (Ledger.gateway verdict) guild world).2
  cases operation with
  | deploy project =>
    rw [procedure, Procedure.run_andThen_done]
    exact effect_deploy verdict project
  | undeploy project =>
    rw [procedure, Procedure.run_andThen_done]
    exact effect_undeploy verdict project
  | resolve name =>
    rw [procedure, Procedure.run_andThen_done]
    exact effect_resolve verdict name
  | join =>
    rw [procedure, Procedure.run_andThen_done]
    exact effect_join verdict
  | leave =>
    rw [procedure, Procedure.run_andThen_done]
    exact .left rfl

/-! ## What operations keep -/

theorem Effect.isSnapshot {after : World Ledger} (h : operation.Effect guild world after)
    (hbefore : world.IsSnapshot guild) (hindex : (Entries.names world.router.index).Nodup) :
    after.IsSnapshot guild := by
  cases h with
  | nothing => exact hbefore
  | refused payload => exact hbefore.push_refused payload
  | @noted listing hfree hlisting =>
    refine ⟨hbefore.single, fun names hnames => ?_, hbefore.registered⟩
    rw [World.known_note_some, Option.some.injEq] at hnames
    rw [← hnames]
    exact (Listing.lists_empty.ofProjects hlisting).isUnion fun project => Procedure.mem_deployed
  | @registered listing hlisting =>
    refine World.isSnapshot_of_lists hbefore.single (Listing.lists_empty.ofProjects hlisting)
      (fun project => Procedure.mem_deployed) (World.known_note_some _ _ _) fun _ _ => ?_
    exact (congrArg List.getLast? (World.taken_push world.outside guild listing.payload)).trans
      List.getLast?_concat
  | @published change listing hchange hlisting =>
    have hoffered : (change.apply guild world.router.store).offered (change.listed (world.deployed guild)) =
        world.router.store.offered (change.listed (world.deployed guild)) := by
      simp only [Store.offered, Store.slashCommands_apply]
    have hlists : listing.Lists (world.router.store.offered (change.listed (world.deployed guild))) :=
      Listing.lists_empty.ofProjects hlisting
    rw [← hoffered] at hlists
    refine World.isSnapshot_of_lists (hbefore.single.apply change) hlists
      (fun project => Change.mem_listed change) (World.known_note_some _ _ _) fun _ _ => ?_
    exact (congrArg List.getLast? (World.taken_push world.outside guild listing.payload)).trans
      List.getLast?_concat
  | left =>
    refine ⟨hbefore.single.apply .deactivateAll, fun names hnames => ?_, fun project hproject => ?_⟩
    · have hnone : ((world.commit guild .deactivateAll).note guild none).known guild = none :=
        Entries.get?_erase_self hindex guild
      rw [hnone] at hnames
      cases hnames
    · exact absurd hproject Store.not_isDeployed_deactivateGuild

theorem not_isDeployed_apply {project : Uuid} {change : Change}
    (h : ¬ world.router.store.IsDeployed guild project) (hother : operation ≠ .deploy project)
    (hchange : operation.change? = some change) :
    ¬ (change.apply guild world.router.store).IsDeployed guild project := by
  intro hdeployed
  cases operation with
  | deploy other =>
    cases hchange
    rcases Store.isDeployed_activate.mp hdeployed with heq | hbefore
    · exact hother (by rw [heq])
    · exact h hbefore
  | undeploy other =>
    cases hchange
    exact h (Store.isDeployed_deactivate.mp hdeployed).2
  | leave =>
    cases hchange
    exact Store.not_isDeployed_deactivateGuild hdeployed
  | _ => cases hchange

/-- An operation that does not deploy a project leaves it not deployed. -/
theorem Effect.not_isDeployed {after : World Ledger} (h : operation.Effect guild world after) {project : Uuid}
    (hbefore : ¬ world.router.store.IsDeployed guild project) (hother : operation ≠ .deploy project) :
    ¬ after.router.store.IsDeployed guild project := by
  cases h with
  | nothing => exact hbefore
  | refused => exact hbefore
  | noted => exact hbefore
  | registered => exact hbefore
  | published hchange => exact not_isDeployed_apply hbefore hother hchange
  | left hchange => exact not_isDeployed_apply hbefore hother hchange

end Operation

end CommandFlow.Service
