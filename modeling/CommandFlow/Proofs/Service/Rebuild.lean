import CommandFlow.Proofs.Service.Routing

/-!
# What is known, what is registered and what is recorded

Names are resolved as they were registered last. After a restart they are resolved by the records alone, which
need not agree where two projects offer a name.

* `World.performAll` : operations, one after the other;
* `World.IsRegistered` : what is known of a guild is what was registered last;
  `Operation.Effect.isRegistered` : operations keep this;
* `World.route_join` : after a registration on joining a name is resolved to its provider;
* `World.routes_agree` : what is known agrees with the registration, and with the records if the name is
  uncontested;
* `World.route_ne_route_fresh` : a contested name that is resolved differently after a restart.
-/

namespace CommandFlow.Service

namespace World

/-- Operations for guilds, one after the other. -/
def performAll {σ : Type} (gateway : Gateway σ) (operations : List (String × Operation))
    (world : World σ) : World σ :=
  operations.foldl (fun world asked => (asked.2.perform gateway asked.1 world).2) world

/-! ## Registrations -/

/-- If anything is deployed in the guild, what is known is a listing of it, and what was registered last is that
listing. -/
def IsRegistered (world : World Ledger) (guild : String) : Prop :=
  (∃ project, world.router.store.IsDeployed guild project) →
    ∃ projects listing, Listing.ofProjects world.commands projects {} = .ok listing ∧
      (∀ project, project ∈ projects ↔ world.router.store.IsDeployed guild project) ∧
      world.known guild = some listing.names ∧
      (world.outside.taken guild).getLast? = some listing.payload

variable {world : World Ledger} {guild : String}

theorem IsRegistered.of_part {other : World Ledger} (h : world.IsRegistered guild)
    (hpart : other.part guild = world.part guild) : other.IsRegistered guild := by
  have hledger : other.outside.part guild = world.outside.part guild := congrArg (·.outside) hpart
  intro hactive
  simp only [isDeployed_of_part hpart] at hactive ⊢
  obtain ⟨projects, listing, hlisting, hprojects, hknown, htaken⟩ := h hactive
  refine ⟨projects, listing, ?_, hprojects, (known_of_part hpart).trans hknown, ?_⟩
  · rw [commands_of_part hpart]
    exact hlisting
  · rw [Ledger.taken, hledger]
    exact htaken

end World

/-- Operations keep that what is known is what was registered last. -/
theorem Operation.Effect.isRegistered {operation : Operation} {guild : String} {world after : World Ledger}
    (h : operation.Effect guild world after) (hbefore : world.IsRegistered guild) :
    after.IsRegistered guild := by
  cases h with
  | nothing => exact hbefore
  | refused payload =>
    intro hactive
    obtain ⟨projects, listing, hlisting, hprojects, hknown, htaken⟩ := hbefore hactive
    refine ⟨projects, listing, hlisting, hprojects, hknown, ?_⟩
    exact (congrArg List.getLast? (World.taken_push_refused world.outside guild payload)).trans htaken
  | @noted listing hfree hlisting =>
    rintro ⟨project, hproject⟩
    -- nothing is deployed where the names were not known
    obtain ⟨projects, known, -, -, hknown, -⟩ := hbefore ⟨project, hproject⟩
    rcases hfree with hunknown | hempty
    · rw [hunknown] at hknown
      cases hknown
    · have hmem : project ∈ world.deployed guild := Procedure.mem_deployed.mpr hproject
      rw [hempty] at hmem
      exact (List.not_mem_nil hmem).elim
  | @registered listing hlisting =>
    intro _
    refine ⟨world.deployed guild, listing, hlisting, fun project => Procedure.mem_deployed,
      World.known_note_some _ _ _, ?_⟩
    exact (congrArg List.getLast? (World.taken_push world.outside guild listing.payload)).trans
      List.getLast?_concat
  | @published change listing hchange hlisting =>
    intro _
    refine ⟨change.listed (world.deployed guild), listing, ?_, fun project => Change.mem_listed change,
      World.known_note_some _ _ _, ?_⟩
    · have hcommands : (change.apply guild world.router.store).slashCommands = world.commands :=
        funext fun project => Store.slashCommands_apply world.router.store change guild project
      show Listing.ofProjects (change.apply guild world.router.store).slashCommands _ _ = _
      rw [hcommands]
      exact hlisting
    · exact (congrArg List.getLast? (World.taken_push world.outside guild listing.payload)).trans
        List.getLast?_concat
  | left =>
    rintro ⟨project, hproject⟩
    exact (Store.not_isDeployed_deactivateGuild hproject).elim

namespace World

/-! ## Operations one after the other -/

/-- What holds after operations from a store without deployments: every guild is as its snapshot, what is
deployed can be listed, and what is known was registered. -/
structure IsTended (world : World Ledger) : Prop where
  index : (Entries.names world.router.index).Nodup
  snapshot : ∀ guild, world.IsSnapshot guild
  canList : ∀ guild, world.CanList guild
  registered : ∀ guild, world.IsRegistered guild

variable (verdict : String → Nat → Option Fault) {world : World Ledger}

theorem isTended_begin {store : Store} (hstore : store.deployments = []) (ledger : Ledger) :
    IsTended ⟨⟨store, []⟩, ledger⟩ := by
  have hnone : ∀ guild project, ¬ store.IsDeployed guild project := by
    rintro guild project ⟨d, hd, -⟩
    rw [hstore] at hd
    exact List.not_mem_nil hd
  refine ⟨List.nodup_nil, fun guild => ⟨fun project => ?_, fun names hnames => ?_, fun project hproject => ?_⟩,
    fun guild project hproject => ?_, fun guild hactive => ?_⟩
  · show store.deployments.countP _ ≤ 1
    rw [hstore]
    exact Nat.zero_le 1
  · cases hnames
  · exact (hnone guild project hproject).elim
  · exact (hnone guild project hproject).elim
  · obtain ⟨project, hproject⟩ := hactive
    exact (hnone guild project hproject).elim

theorem IsTended.perform (h : world.IsTended) (guild : String) (operation : Operation) :
    (operation.perform (Ledger.gateway verdict) guild world).2.IsTended where
  index := Procedure.nodup_index verdict h.index (operation.procedure guild)
  canList := canList_perform verdict h.canList guild operation
  snapshot other := by
    by_cases hguild : guild = other
    · subst hguild
      exact (operation.effect_perform verdict guild world).isSnapshot (h.snapshot guild) h.index
    · exact (h.snapshot other).of_part
        (Procedure.run_part_of_ne verdict hguild (operation.procedure guild) world)
  registered other := by
    by_cases hguild : guild = other
    · subst hguild
      exact (operation.effect_perform verdict guild world).isRegistered (h.registered guild)
    · exact (h.registered other).of_part
        (Procedure.run_part_of_ne verdict hguild (operation.procedure guild) world)

theorem IsTended.performAll (h : world.IsTended) (operations : List (String × Operation)) :
    (world.performAll (Ledger.gateway verdict) operations).IsTended := by
  induction operations generalizing world with
  | nil => exact h
  | cons asked rest ih => exact ih (h.perform verdict asked.1 asked.2)

variable {guild : String} (name : String)

/-- After a registration on joining that is taken a name is resolved to its provider. -/
theorem route_join (hlist : world.CanList guild)
    (htaken : verdict guild (world.outside.part guild).length = none) :
    route (Ledger.gateway verdict) (Operation.join.perform (Ledger.gateway verdict) guild world).2 guild name =
      routed guild name (world.provider? guild name) := by
  obtain ⟨listing, hlisting⟩ := hlist.exists_listing
  have hknown : (Operation.join.perform (Ledger.gateway verdict) guild world).2.known guild =
      some listing.names := by
    show ((Procedure.join.andThen fun _ => .done Answer.done).run (Ledger.gateway verdict) guild
      world).2.known guild = _
    rw [Procedure.run_andThen_done, Procedure.join, Procedure.run, Procedure.ifServed_gateway,
      Procedure.run_andThen, Procedure.run_list, hlisting]
    dsimp only
    split
    · exact known_note_some _ _ _
    · rw [Procedure.run, Procedure.ifRegistered_of_taken verdict htaken]
      exact known_note_some _ _ _
  rw [route_of_known verdict name hknown, get?_deployed name hlisting]

/-- After operations one after the other a name of a guild is resolved to the project whose command was registered
under it last. After a restart, and after a registration on joining, it is resolved to its provider in the records.
The two are the same if the name is uncontested. -/
theorem routes_agree {store : Store} (hstore : store.deployments = []) (ledger : Ledger)
    (operations : List (String × Operation)) {project : Uuid}
    (hactive : (performAll (Ledger.gateway verdict) operations
      ⟨⟨store, []⟩, ledger⟩).router.store.IsDeployed guild project) :
    let gateway := Ledger.gateway verdict
    let world := performAll gateway operations ⟨⟨store, []⟩, ledger⟩
    (∃ (sources : List (Uuid × Command)) (payload : List Value),
      (world.outside.taken guild).getLast? = some payload ∧
      List.Forall₂ (fun source form => source.2.form = .ok form) sources payload ∧
      (∀ source ∈ sources, source.2 ∈ world.commands source.1 ∧
        world.router.store.IsDeployed guild source.1) ∧
      (sources.map (·.2.name)).Nodup ∧
      world.route gateway guild name =
        routed guild name ((sources.find? fun source => source.2.name = name).map (·.1))) ∧
    world.fresh.route gateway guild name = routed guild name (world.provider? guild name) ∧
    (verdict guild (world.outside.part guild).length = none →
      route gateway (Operation.join.perform gateway guild world).2 guild name =
        world.fresh.route gateway guild name) ∧
    (world.router.store.IsUncontested guild name →
      world.route gateway guild name = world.fresh.route gateway guild name) := by
  intro gateway world
  have htended : world.IsTended := (isTended_begin hstore ledger).performAll verdict operations
  have hfresh := route_fresh verdict name (htended.canList guild)
  refine ⟨?_, hfresh, fun htaken => ?_, fun huncontested => ?_⟩
  · obtain ⟨projects, listing, hlisting, hprojects, hknown, htaken⟩ :=
      htended.registered guild ⟨project, hactive⟩
    obtain ⟨sources, hsources, hregisters⟩ := Listing.exists_registers hlisting
    refine ⟨sources, listing.payload, htaken, hregisters.payload, ?_, ?_, ?_⟩
    · rintro ⟨owner, command⟩ hsource
      obtain ⟨howner, hcommand⟩ := Store.mem_offered.mp (hsources.subset hsource)
      exact ⟨hcommand, (hprojects owner).mp howner⟩
    · have hnodup := (Listing.lists_empty.ofProjects hlisting).nodup
      rw [hregisters.names, Entries.names, List.map_map] at hnodup
      exact hnodup
    · rw [← hregisters.get?]
      exact route_of_known verdict name hknown
  · rw [hfresh]
    exact route_join verdict name (htended.canList guild) htaken
  · exact (htended.snapshot guild).route_eq_fresh verdict (htended.canList guild) huncontested

/-- Two projects that have a command of the same name. -/
def twins : Store where
  commands := [{ id := ⟨3⟩, project := ⟨1⟩, name := "ping" },
    { id := ⟨4⟩, project := ⟨2⟩, name := "ping" }]

/-- Both projects are deployed in a guild, the first of them first. -/
def twinsDeployed : World Ledger :=
  performAll (Ledger.gateway fun _ _ => none) [("guild", .deploy ⟨1⟩), ("guild", .deploy ⟨2⟩)]
    ⟨⟨twins, []⟩, []⟩

theorem routes_agree_twins :
    twins.deployments = [] ∧ twinsDeployed.router.store.IsDeployed "guild" ⟨2⟩ ∧
    twinsDeployed.fresh.route (Ledger.gateway fun _ _ => none) "guild" "ping" =
      routed "guild" "ping" (twinsDeployed.provider? "guild" "ping") := by
  have hactive : twinsDeployed.router.store.IsDeployed "guild" ⟨2⟩ :=
    ⟨⟨"guild", ⟨2⟩, true⟩, by decide +kernel, rfl, rfl, rfl⟩
  exact ⟨rfl, hactive, (routes_agree _ "ping" rfl [] _ hactive).2.1⟩

/-- A name of two projects that were deployed one after the other is resolved to the second of them, and after a
restart to the first. -/
theorem route_ne_route_fresh :
    twinsDeployed.route (Ledger.gateway fun _ _ => none) "guild" "ping" = .ok (.project ⟨2⟩) ∧
      twinsDeployed.fresh.route (Ledger.gateway fun _ _ => none) "guild" "ping" = .ok (.project ⟨1⟩) := by
  constructor <;> with_unfolding_all rfl

end World

end CommandFlow.Service
