import CommandFlow.Proofs.Service.Stability
import Mathlib.Data.List.Dedup

/-!
# What a deployment counts

The answer to a deployment is how many commands the project has; of several commands of one name one is registered.

* `Listing.mem_names_first_iff` : the project that is listed first has every name of its commands;
* `Listing.length_names_first` : so it has as many names as its commands have, each counted once;
* `Operation.deploy_counts` : the answer to a deployment, and what was registered and noted of the project;
  `Operation.deploy_counts_ne` : a command that is counted and not registered.
-/

namespace CommandFlow.Service

namespace Listing

variable {commands : Uuid → List Command} {project : Uuid} {projects : List Uuid} {listing : Listing}

/-- The project that is listed first has the names of its commands, and no others. -/
theorem mem_names_first_iff (h : ofProjects commands (project :: projects) {} = .ok listing) (name : String) :
    (name, project) ∈ listing.names ↔ name ∈ (commands project).map (·.name) := by
  rw [List.mem_map]
  constructor
  · intro hname
    obtain ⟨command, hcommand, rfl⟩ := (lists_empty.ofProjects h).sound name project hname
    simp only [List.nil_append, List.mem_flatMap, List.mem_map, Prod.mk.injEq] at hcommand
    obtain ⟨_, -, own, hown, rfl, rfl⟩ := hcommand
    exact ⟨own, hown, rfl⟩
  · rintro ⟨command, hcommand, rfl⟩
    have hown : hasName command.name (commands project) = true := List.any_eq_true.mpr ⟨command, hcommand, by simp⟩
    have hfirst : Entries.get? listing.names command.name = some project := by
      rw [get?_ofProjects h, List.find?_cons, hown]
      rfl
    exact Entries.mem_of_get?_eq_some hfirst

/-- The project that is listed first has as many names as its commands, each counted once. -/
theorem length_names_first (h : ofProjects commands (project :: projects) {} = .ok listing) :
    (listing.names.filter (·.2 = project)).length = ((commands project).map (·.name)).dedup.length := by
  have hnodup : ((listing.names.filter (·.2 = project)).map (·.1)).Nodup :=
    ((lists_empty.ofProjects h).nodup).sublist (List.filter_sublist.map _)
  have hsame : ∀ name, name ∈ (listing.names.filter (·.2 = project)).map (·.1) ↔
      name ∈ ((commands project).map (·.name)).dedup := by
    intro name
    rw [List.mem_dedup, ← mem_names_first_iff h]
    simp
  have hperm := (List.perm_ext_iff_of_nodup hnodup (List.nodup_dedup _)).mpr hsame
  rw [← hperm.length_eq, List.length_map]

end Listing

theorem length_dedup_eq_iff {names : List String} : names.dedup.length = names.length ↔ names.Nodup := by
  rw [← List.dedup_eq_self]
  exact ⟨(List.dedup_sublist names).eq_of_length, congrArg List.length⟩

namespace Procedure

variable (verdict : String → Nat → Option Fault) {guild : String} {world : World Ledger} {project : Uuid}

theorem deploy_answer {count : Nat} (h : ((deploy project).run (Ledger.gateway verdict) guild world).1 = .ok count) :
    count = (world.commands project).length := by
  unfold deploy at h
  rw [run, ifServed_gateway] at h
  split at h
  · cases h
  · rw [run, ifServed_gateway] at h
    rcases run_publish verdict guild (Change.listed (.activate project) (world.deployed guild)) (.activate project)
      (world.commands project).length world with ⟨fault, hrun⟩ | ⟨fault, payload, hrun⟩ | ⟨listing, -, hrun⟩
    · cases h.symm.trans (congrArg Prod.fst hrun)
    · cases h.symm.trans (congrArg Prod.fst hrun)
    · exact Except.ok.inj (h.symm.trans (congrArg Prod.fst hrun))

/-- A project with commands that can be listed is deployed if the registration is taken. -/
theorem run_deploy {listing : Listing} (hown : world.commands project ≠ [])
    (hlisting : Listing.ofProjects world.commands (Change.listed (.activate project) (world.deployed guild)) {} =
      .ok listing) (htaken : verdict guild (world.outside.part guild).length = none) :
    (deploy project).run (Ledger.gateway verdict) guild world = (.ok (world.commands project).length,
      ((world.push ⟨guild, listing.payload, true⟩).commit guild (.activate project)).note guild
        (some listing.names)) := by
  unfold deploy
  rw [Change.listed] at hlisting
  rw [run, ifServed_gateway, if_neg (by simpa using hown), run, ifServed_gateway, run_andThen, run_list, hlisting]
  dsimp only
  rw [run, ifRegistered_of_taken verdict htaken]
  rfl

end Procedure

namespace Operation

/-- The answer to a deployment that succeeds is how many commands the project has. What is registered of it then is one
entry for each name of its commands, and these names are given to it. So the answer is the number of these entries, and
of these names, if no two commands of the project have one name; else it is greater. -/
theorem deploy_counts (verdict : String → Nat → Option Fault) {guild : String} {world : World Ledger} {project : Uuid}
    {answer : Answer} (h : ((deploy project).perform (Ledger.gateway verdict) guild world).1 = .ok answer) :
    let after := ((deploy project).perform (Ledger.gateway verdict) guild world).2
    let own := (world.commands project).map (·.name)
    answer = .count own.length ∧
    ∃ (sources : List (Uuid × Command)) (payload : List Value) (names : Names),
      (after.outside.taken guild).getLast? = some payload ∧ after.known guild = some names ∧
      Listing.Registers sources ⟨payload, names⟩ ∧ (∀ source ∈ sources, source.2 ∈ world.commands source.1) ∧
      (∀ name, (name, project) ∈ names ↔ name ∈ own) ∧
      (sources.filter (·.1 = project)).length = own.dedup.length ∧
      (names.filter (·.2 = project)).length = own.dedup.length ∧
      own.dedup.length ≤ own.length ∧ (own.dedup.length = own.length ↔ own.Nodup) := by
  intro after own
  rw [perform_eq_run _ rfl] at h
  have hanswer : answer = .count own.length := by
    rw [procedure, Procedure.run_andThen_done] at h
    obtain ⟨count, hcount, rfl⟩ := map_eq_ok.mp h
    rw [Procedure.deploy_answer verdict hcount, List.length_map]
  obtain ⟨listing, hlisting, hpublished⟩ := exists_published verdict rfl rfl h
  have hafter : after = ((world.push ⟨guild, listing.payload, true⟩).commit guild (.activate project)).note guild
      (some listing.names) := (congrArg Prod.snd (perform_eq_run _ rfl world)).trans hpublished
  obtain ⟨sources, hsources, hregisters⟩ := Listing.exists_registers hlisting
  have hnames : (listing.names.filter (·.2 = project)).length = own.dedup.length := Listing.length_names_first hlisting
  have hentries : (sources.filter (·.1 = project)).length = (listing.names.filter (·.2 = project)).length := by
    rw [hregisters.names, List.filter_map, List.length_map]
    rfl
  refine ⟨hanswer, sources, listing.payload, listing.names, ?_, ?_, hregisters, ?_,
    Listing.mem_names_first_iff hlisting,
    hentries.trans hnames, hnames, (List.dedup_sublist own).length_le, length_dedup_eq_iff⟩
  · rw [hafter]
    exact (congrArg List.getLast? (World.taken_push world.outside guild listing.payload)).trans List.getLast?_concat
  · rw [hafter]
    exact World.known_note_some _ _ _
  · rintro ⟨owner, command⟩ hsource
    exact (Store.mem_offered.mp (hsources.subset hsource)).2

def doubled : World Ledger where
  router := ⟨{ commands :=
      [{ id := ⟨2⟩, project := ⟨1⟩, name := "ping" }, { id := ⟨3⟩, project := ⟨1⟩, name := "ping" }] }, []⟩
  outside := []

def pingForm : Value := .object [("name", .text "ping"), ("description", .text "No description"), ("options", .list [])]

theorem commands_doubled : doubled.commands ⟨1⟩ = doubled.router.store.commands := by
  rw [World.commands, Store.slashCommands]
  exact List.mergeSort_of_pairwise (by decide +kernel)

theorem perform_doubled :
    (deploy ⟨1⟩).perform (Ledger.gateway fun _ _ => none) "guild" doubled =
      (.ok (.count 2), ((doubled.push ⟨"guild", [pingForm], true⟩).commit "guild" (.activate ⟨1⟩)).note "guild"
        (some [("ping", ⟨1⟩)])) := by
  have hadd : Listing.addAll {} ⟨1⟩ (doubled.commands ⟨1⟩) = .ok ⟨[pingForm], [("ping", ⟨1⟩)]⟩ := by
    rw [commands_doubled]
    with_unfolding_all rfl
  have hlisting : Listing.ofProjects doubled.commands (Change.listed (.activate ⟨1⟩) (doubled.deployed "guild")) {} =
      .ok ⟨[pingForm], [("ping", ⟨1⟩)]⟩ := foldlM_cons_eq_ok.mpr ⟨_, hadd, rfl⟩
  have hrun := Procedure.run_deploy (fun _ _ => none) (by rw [commands_doubled]; exact List.cons_ne_nil _ _)
    hlisting rfl
  rw [perform_eq_run _ rfl, procedure, Procedure.run_andThen_done, hrun, commands_doubled]
  rfl

theorem deploy_counts_doubled :
    let deployed := (deploy ⟨1⟩).perform (Ledger.gateway fun _ _ => none) "guild" doubled
    deployed.1 = .ok (.count 2) ∧ ∃ names, deployed.2.known "guild" = some names ∧
      (names.filter (·.2 = ⟨1⟩)).length = ((doubled.commands ⟨1⟩).map (·.name)).dedup.length := by
  intro deployed
  have hdone : deployed.1 = .ok (.count 2) := congrArg Prod.fst perform_doubled
  obtain ⟨-, sources, payload, names, -, hknown, -, -, -, -, hnames, -⟩ := deploy_counts (fun _ _ => none) hdone
  exact ⟨hdone, names, hknown, hnames⟩

/-- Two commands are counted, one is registered, and one name is given to the project. -/
theorem deploy_counts_ne :
    let deployed := (deploy ⟨1⟩).perform (Ledger.gateway fun _ _ => none) "guild" doubled
    deployed.1 = .ok (.count 2) ∧ deployed.2.outside.taken "guild" = [[pingForm]] ∧
      deployed.2.known "guild" = some [("ping", ⟨1⟩)] := by
  intro deployed
  have hdeployed : deployed = _ := perform_doubled
  rw [hdeployed]
  exact ⟨rfl, by with_unfolding_all rfl, World.known_note_some _ _ _⟩

end Operation

end CommandFlow.Service
