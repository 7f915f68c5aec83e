import CommandFlow.Proofs.Service.Priority
import CommandFlow.Proofs.Service.Snapshot

/-!
# Routes

What a name of a guild is resolved to, by what is known or by the records.

* `World.route` : what a name is resolved to; `World.fresh` : the service has started again;
* `World.provider?` : of the projects that are deployed in a guild, the first that has a command of a name;
* `World.CanList` : every project that is deployed in a guild can be listed;
  `Operation.Effect.canList` : every operation keeps this;
* `World.route_fresh` : after a restart a name is resolved to its provider;
* `World.IsSnapshot.route_eq_fresh` : so it is before the restart if only one project offers it.
-/

namespace CommandFlow.Service

/-! ## Providers -/

namespace Store

variable {store : Store} {guild name : String} {project : Uuid}

theorem hasName_slashCommands :
    Listing.hasName name (store.slashCommands project) = true ↔ ∃ command ∈ store.commands,
      command.project = project ∧ command.name = name ∧ command.isEnabled = true ∧
        command.type = .slash := by
  simp only [Listing.hasName, List.any_eq_true, decide_eq_true_eq]
  constructor
  · rintro ⟨command, hcommand, hname⟩
    obtain ⟨hmem, howner, henabled, htype⟩ := mem_slashCommands.mp hcommand
    exact ⟨command, hmem, howner, hname, henabled, htype⟩
  · rintro ⟨command, hmem, howner, hname, henabled, htype⟩
    exact ⟨command, mem_slashCommands.mpr ⟨hmem, howner, henabled, htype⟩, hname⟩

/-- At most one project that is deployed in the guild offers the name. -/
def IsUncontested (store : Store) (guild name : String) : Prop :=
  ∀ project other, store.Offers guild project name → store.Offers guild other name → project = other

end Store

def routed (guild name : String) : Option Uuid → Except ServiceFault Answer
  | some project => .ok (.project project)
  | none => .error (.notDeployed guild name)

namespace World

section
variable {σ : Type}

/-- Of the projects that are deployed in the guild, the first that has a command of the name. -/
def provider? (world : World σ) (guild name : String) : Option Uuid :=
  (world.deployed guild).find? fun project => Listing.hasName name (world.commands project)

def route (gateway : Gateway σ) (world : World σ) (guild name : String) :
    Except ServiceFault Answer :=
  ((Operation.resolve name).perform gateway guild world).1

/-- The service has started again: what was known is lost, and the records stay. -/
def fresh (world : World σ) : World σ := { world with router := ⟨world.router.store, []⟩ }

end

variable {world : World Ledger} {guild name : String}

theorem offers_of_provider? {project : Uuid} (h : world.provider? guild name = some project) :
    world.router.store.Offers guild project name := by
  have hdeployed : project ∈ world.deployed guild := List.mem_of_find?_eq_some h
  unfold provider? at h
  have hname : Listing.hasName name (world.commands project) = true := by
    simpa using List.find?_some h
  exact ⟨Procedure.mem_deployed.mp hdeployed, Store.hasName_slashCommands.mp hname⟩

theorem not_offers_of_provider? (h : world.provider? guild name = none) (project : Uuid) :
    ¬ world.router.store.Offers guild project name := by
  rintro ⟨hdeployed, hname⟩
  have hnot := List.find?_eq_none.mp h project (Procedure.mem_deployed.mpr hdeployed)
  exact hnot (Store.hasName_slashCommands.mpr hname)

theorem eq_provider? (h : world.router.store.IsUncontested guild name) {found : Option Uuid}
    (hsome : ∀ project, found = some project → world.router.store.Offers guild project name)
    (hnone : found = none → ∀ project, ¬ world.router.store.Offers guild project name) :
    found = world.provider? guild name := by
  cases found with
  | none =>
    cases hprovider : world.provider? guild name with
    | none => rfl
    | some other => exact absurd (offers_of_provider? hprovider) (hnone rfl other)
  | some project =>
    have hoffers := hsome project rfl
    cases hprovider : world.provider? guild name with
    | none => exact absurd hoffers (not_offers_of_provider? hprovider project)
    | some other => rw [h project other hoffers (offers_of_provider? hprovider)]

/-! ## Projects that can be listed -/

/-- The commands of every project that is deployed in the guild can be listed. -/
def CanList (world : World Ledger) (guild : String) : Prop :=
  ∀ project, world.router.store.IsDeployed guild project →
    Listing.IsListable project (world.commands project)

theorem CanList.exists_listing (h : world.CanList guild) :
    ∃ listing, Listing.ofProjects world.commands (world.deployed guild) {} = .ok listing :=
  Listing.exists_ofProjects (fun project hproject => h project (Procedure.mem_deployed.mp hproject)) {}

theorem CanList.of_part {other : World Ledger} (h : world.CanList guild)
    (hpart : other.part guild = world.part guild) : other.CanList guild := by
  intro project hproject
  rw [commands_of_part hpart]
  exact h project ((isDeployed_of_part hpart).mp hproject)

end World

/-- Operations keep that what is deployed can be listed: what is deployed anew was listed first. -/
theorem Operation.Effect.canList {operation : Operation} {guild : String} {world after : World Ledger}
    (h : operation.Effect guild world after) (hbefore : world.CanList guild) : after.CanList guild := by
  cases h with
  | nothing => exact hbefore
  | refused => exact hbefore
  | noted => exact hbefore
  | registered => exact hbefore
  | @published change listing hchange hlisting =>
    intro project hproject
    show Listing.IsListable project ((change.apply guild world.router.store).slashCommands project)
    rw [Store.slashCommands_apply]
    have hlisted : project ∈ change.listed (world.deployed guild) := (Change.mem_listed change).mpr hproject
    cases change with
    | activate deployed =>
      rcases List.mem_cons.mp hlisted with rfl | hother
      · exact Listing.isListable_of_ofProjects hlisting
      · exact hbefore project (Procedure.mem_deployed.mp (List.mem_filter.mp hother).1)
    | deactivate ended =>
      exact hbefore project (Procedure.mem_deployed.mp (List.mem_filter.mp hlisted).1)
    | deactivateAll => exact (List.not_mem_nil hlisted).elim
  | left => exact fun project hproject => (Store.not_isDeployed_deactivateGuild hproject).elim

theorem World.canList_perform (verdict : String → Nat → Option Fault) {world : World Ledger}
    (h : ∀ guild, world.CanList guild) (guild : String) (operation : Operation) (other : String) :
    (operation.perform (Ledger.gateway verdict) guild world).2.CanList other := by
  by_cases hguild : guild = other
  · subst hguild
    exact (operation.effect_perform verdict guild world).canList (h guild)
  · exact (h other).of_part
      (Procedure.run_part_of_ne verdict hguild (operation.procedure guild) world)

/-! ## Routes -/

namespace World

variable (verdict : String → Nat → Option Fault) {world : World Ledger} {guild : String} (name : String)

theorem run_answering (names : Names) (world : World Ledger) :
    (((Procedure.answering guild name names).run (Ledger.gateway verdict) guild world).1.map
      Answer.project) = routed guild name (Entries.get? names name) := by
  unfold Procedure.answering
  cases Entries.get? names name <;> rfl

theorem route_eq_run : world.route (Ledger.gateway verdict) guild name =
    ((Procedure.resolve guild name).run (Ledger.gateway verdict) guild world).1.map Answer.project := by
  have hrun := Procedure.run_andThen_done (Ledger.gateway verdict) guild (Procedure.resolve guild name)
    Answer.project world
  exact congrArg Prod.fst hrun

/-- A name that is known is resolved by what is known. -/
theorem route_of_known {names : Names} (h : world.known guild = some names) :
    world.route (Ledger.gateway verdict) guild name =
      routed guild name (Entries.get? names name) := by
  rw [route_eq_run, Procedure.resolve, Procedure.run, h]
  exact run_answering verdict name names world

/-- A listing of what is deployed has a name with its provider. -/
theorem get?_deployed {listing : Listing}
    (h : Listing.ofProjects world.commands (world.deployed guild) {} = .ok listing) :
    Entries.get? listing.names name = world.provider? guild name :=
  Listing.get?_ofProjects h name

/-- A name of a guild that is not known is resolved to its provider. -/
theorem route_of_unknown (hknown : world.known guild = none) (hlist : world.CanList guild) :
    world.route (Ledger.gateway verdict) guild name =
      routed guild name (world.provider? guild name) := by
  obtain ⟨listing, hlisting⟩ := hlist.exists_listing
  rw [route_eq_run, Procedure.resolve, Procedure.run, hknown]
  show (((Procedure.list (world.deployed guild) {}).andThen fun listing =>
    .note (some listing.names) <| Procedure.answering guild name listing.names).run
      (Ledger.gateway verdict) guild world).1.map Answer.project = _
  rw [Procedure.run_andThen, Procedure.run_list, hlisting, ← get?_deployed name hlisting]
  exact run_answering verdict name listing.names _

/-- After a restart a name is resolved to its provider. -/
theorem route_fresh (hlist : world.CanList guild) :
    world.fresh.route (Ledger.gateway verdict) guild name =
      routed guild name (world.provider? guild name) := by
  have hfresh : world.fresh.CanList guild := hlist
  exact route_of_unknown verdict name rfl hfresh

theorem IsSnapshot.route_eq_fresh {name : String} (h : world.IsSnapshot guild)
    (hlist : world.CanList guild) (huncontested : world.router.store.IsUncontested guild name) :
    world.route (Ledger.gateway verdict) guild name =
      world.fresh.route (Ledger.gateway verdict) guild name := by
  rw [route_fresh verdict name hlist]
  cases hknown : world.known guild with
  | none => exact route_of_unknown verdict name hknown hlist
  | some names =>
    obtain ⟨⟨-, hunion⟩, hsound⟩ := h.known names hknown
    rw [route_of_known verdict name hknown]
    congr 1
    refine eq_provider? huncontested (fun project hfound => ?_) fun hmissing project hoffers => ?_
    · exact hsound name project (Entries.mem_of_get?_eq_some hfound)
    · exact (Entries.get?_eq_none_iff names name).mp hmissing ((hunion name).mpr ⟨project, hoffers⟩)

end World

end CommandFlow.Service
