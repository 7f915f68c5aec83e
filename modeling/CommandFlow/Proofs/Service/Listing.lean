import CommandFlow.Proofs.Entries
import CommandFlow.Proofs.Except
import CommandFlow.Proofs.Service.Accesses

/-!
# Listings

* `Listing.Lists` : a listing has each name of some commands once, with a project of it;
* `Listing.ofProjects` : the listing of several projects; `Listing.lists_ofProjects` : it lists their commands;
* `Procedure.run_andThen` : a procedure that goes on runs in two parts;
* `Store.mem_slashCommands`, `Store.mem_activeProjects` : the commands that are registered, and where.
-/

namespace CommandFlow.Service

theorem Command.get?_form {command : Command} {form : Value} (h : command.form = .ok form) :
    form.get? "name" = some (.text command.name) := by
  unfold Command.form Chat.registration at h
  cases hforms : (Chat.optionList command.options).mapM Chat.optionForm with
  | error fault =>
    rw [hforms] at h
    cases h
  | ok forms =>
    rw [hforms] at h
    cases h
    rfl

theorem contains_iff {names : Names} {name : String} :
    Entries.contains names name = true ↔ name ∈ Entries.names names := by
  unfold Entries.contains
  rw [← Decidable.not_iff_not, ← Entries.get?_eq_none_iff, Option.not_isSome_iff_eq_none]

namespace Listing

/-- A command whose name is taken is passed over, and another one is put in its form at the end. -/
theorem add_eq_ok {listing longer : Listing} {project : Uuid} {command : Command} :
    listing.add project command = .ok longer ↔
      command.name ∈ Entries.names listing.names ∧ longer = listing ∨
      command.name ∉ Entries.names listing.names ∧ ∃ form, command.form = .ok form ∧
        longer = ⟨listing.payload ++ [form], Entries.insert listing.names command.name project⟩ := by
  unfold Listing.add
  rw [← contains_iff]
  by_cases htaken : Entries.contains listing.names command.name = true
  · simp [htaken, eq_comm]
  · cases hform : command.form with
    | error fault => simp [htaken, Except.map]
    | ok form => simp [htaken, Except.map, eq_comm]

/-- The listing has each name of the given commands of projects once, in the form in which it is registered, and
with a project that has a command of the name. -/
structure Lists (listed : List (Uuid × Command)) (listing : Listing) : Prop where
  payload : listing.payload.map (·.get? "name") =
    (Entries.names listing.names).map fun name => some (.text name)
  nodup : (Entries.names listing.names).Nodup
  sound : ∀ name project, (name, project) ∈ listing.names →
    ∃ command, (project, command) ∈ listed ∧ command.name = name
  complete : ∀ project command, (project, command) ∈ listed → command.name ∈ Entries.names listing.names

theorem lists_empty : Lists [] {} where
  payload := rfl
  nodup := List.nodup_nil
  sound _ _ h := (List.not_mem_nil h).elim
  complete _ _ h := (List.not_mem_nil h).elim

variable {listed : List (Uuid × Command)} {listing longer : Listing} {project : Uuid}

/-- A command is listed under its name, by itself or because the name is taken. -/
theorem Lists.add {command : Command} (h : listing.Lists listed)
    (hadd : listing.add project command = .ok longer) : longer.Lists (listed ++ [(project, command)]) := by
  rcases add_eq_ok.mp hadd with ⟨hname, rfl⟩ | ⟨hname, form, hform, rfl⟩
  · refine ⟨h.payload, h.nodup, fun name owner hin => ?_, fun owner other hin => ?_⟩
    · obtain ⟨found, hfound, hfoundName⟩ := h.sound name owner hin
      exact ⟨found, List.mem_append_left _ hfound, hfoundName⟩
    · rcases List.mem_append.mp hin with hold | hnew
      · exact h.complete owner other hold
      · obtain ⟨rfl, rfl⟩ := Prod.mk.inj (List.mem_singleton.mp hnew)
        exact hname
  · have hnames : Entries.insert listing.names command.name project =
        listing.names ++ [(command.name, project)] := Entries.insert_of_not_mem hname project
    refine ⟨?_, Entries.nodup_names_insert h.nodup _ _, fun name owner hin => ?_, fun owner other hin => ?_⟩
    · rw [hnames, List.map_append, h.payload]
      simp [Entries.names, Command.get?_form hform]
    · rw [hnames] at hin
      rcases List.mem_append.mp hin with hold | hnew
      · obtain ⟨found, hfound, hfoundName⟩ := h.sound name owner hold
        exact ⟨found, List.mem_append_left _ hfound, hfoundName⟩
      · obtain ⟨rfl, rfl⟩ := Prod.mk.inj (List.mem_singleton.mp hnew)
        exact ⟨command, List.mem_append_right _ (List.mem_singleton_self _), rfl⟩
    · rw [Entries.mem_names_insert]
      rcases List.mem_append.mp hin with hold | hnew
      · exact .inr (h.complete owner other hold)
      · obtain ⟨rfl, rfl⟩ := Prod.mk.inj (List.mem_singleton.mp hnew)
        exact .inl rfl

theorem Lists.addAll {commands : List Command} (h : listing.Lists listed)
    (hadd : listing.addAll project commands = .ok longer) :
    longer.Lists (listed ++ commands.map fun command => (project, command)) := by
  unfold Listing.addAll at hadd
  induction commands generalizing listing listed with
  | nil =>
    cases hadd
    rw [List.map_nil, List.append_nil]
    exact h
  | cons command commands ih =>
    obtain ⟨next, hfirst, hlater⟩ := foldlM_cons_eq_ok.mp hadd
    have hrest := ih (h.add hfirst) hlater
    rwa [List.append_assoc] at hrest

def ofProjects (commands : Uuid → List Command) (projects : List Uuid) (listing : Listing) :
    Except ServiceFault Listing :=
  projects.foldlM (fun listing project => listing.addAll project (commands project)) listing

theorem Lists.ofProjects {commands : Uuid → List Command} {projects : List Uuid} (h : listing.Lists listed)
    (hlist : ofProjects commands projects listing = .ok longer) :
    longer.Lists (listed ++ projects.flatMap fun project =>
      (commands project).map fun command => (project, command)) := by
  unfold Listing.ofProjects at hlist
  induction projects generalizing listing listed with
  | nil =>
    cases hlist
    rw [List.flatMap_nil, List.append_nil]
    exact h
  | cons project projects ih =>
    obtain ⟨next, hfirst, hlater⟩ := foldlM_cons_eq_ok.mp hlist
    have hrest := ih (h.addAll hfirst) hlater
    rwa [List.append_assoc] at hrest

/-- What keeps projects from being listed is a command that has no form. -/
theorem exists_of_ofProjects_eq_error {commands : Uuid → List Command} {projects : List Uuid} {fault : ServiceFault}
    (h : ofProjects commands projects listing = .error fault) :
    ∃ project ∈ projects, ∃ command ∈ commands project, command.form = .error fault := by
  obtain ⟨project, hproject, longer, hadd⟩ := exists_of_foldlM_eq_error h
  obtain ⟨command, hcommand, shorter, hform⟩ := exists_of_foldlM_eq_error hadd
  refine ⟨project, hproject, command, hcommand, ?_⟩
  unfold Listing.add at hform
  split at hform
  · cases hform
  · exact map_eq_error.mp hform

end Listing

/-! ## Procedures that list -/

namespace Procedure

variable {α β σ : Type}

/-- To make every access of a procedure that goes on is to make those of the first part and then the others. -/
theorem run_andThen (gateway : Gateway σ) (guild : String) (p : Procedure α) (f : α → Procedure β)
    (world : World σ) :
    (p.andThen f).run gateway guild world =
      match p.run gateway guild world with
      | (.ok a, world) => (f a).run gateway guild world
      | (.error fault, world) => (.error fault, world) := by
  induction p generalizing world with
  | done answer => rfl
  | fail fault => rfl
  | known next ih => exact ih _ world
  | commands project next ih =>
    simp only [andThen, run, ifServed, ih]
    split <;> rfl
  | deployed next ih =>
    simp only [andThen, run, ifServed, ih]
    split <;> rfl
  | register payload next ih =>
    simp only [andThen, run, ifRegistered, ih]
    split <;> rfl
  | prepare next ih =>
    simp only [andThen, run, ifServed, ih]
    split <;> rfl
  | commit change next ih =>
    simp only [andThen, run, ifServed, ih]
    split <;> rfl
  | note names next ih => exact ih _

/-- Where the store answers, what is listed is the listing of the commands. -/
theorem run_list_of_isOpen {gateway : Gateway σ} (h : gateway.IsOpen) (guild : String) (projects : List Uuid)
    (listing : Listing) (world : World σ) :
    (list projects listing).run gateway guild world =
      (Listing.ofProjects world.commands projects listing, world) := by
  induction projects generalizing listing with
  | nil => rfl
  | cons project projects ih =>
    rw [list, run, ifServed_of_isOpen h]
    unfold Listing.ofProjects
    rw [List.foldlM_cons]
    cases listing.addAll project (world.commands project) with
    | error fault => rfl
    | ok longer => exact ih longer

end Procedure

namespace Store

theorem mem_slashCommands {store : Store} {project : Uuid} {command : Command} :
    command ∈ store.slashCommands project ↔
      command ∈ store.commands ∧ command.project = project ∧ command.isEnabled = true ∧
        command.type = .slash := by
  simp [slashCommands, List.mem_mergeSort, Command.isRegistered]

theorem mem_activeProjects {store : Store} {guild : String} {project : Uuid} :
    project ∈ store.activeProjects guild ↔
      ∃ d ∈ store.deployments, d.guild = guild ∧ d.project = project ∧ d.isActive = true := by
  simp only [activeProjects, List.mem_map, List.mem_filter, Bool.and_eq_true, decide_eq_true_eq]
  constructor
  · rintro ⟨d, ⟨hd, hguild, hactive⟩, hproject⟩
    exact ⟨d, hd, hguild, hproject, hactive⟩
  · rintro ⟨d, hd, hguild, hproject, hactive⟩
    exact ⟨d, ⟨hd, hguild, hactive⟩, hproject⟩

end Store

end CommandFlow.Service
