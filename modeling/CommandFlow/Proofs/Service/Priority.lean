import CommandFlow.Proofs.Service.Listing
import Mathlib.Data.List.Forall2

/-!
# Which project a listing prefers

Of the projects that have a command of a name, the one that is listed first answers to it.

* `Listing.get?_ofProjects` : the project of a name is the first that has a command of it;
* `Listing.IsListable` : the commands of a project can be listed; `Listing.exists_ofProjects` : then they can
  be listed after any others;
* `Listing.Registers` : the commands of a registration, and the project of each;
  `Listing.exists_registers` : every listing is made of such.
-/

namespace CommandFlow.Service

namespace Listing

variable {listing longer : Listing} {project : Uuid}

def hasName (name : String) (commands : List Command) : Bool := commands.any (·.name = name)

/-! ## The project of a name -/

theorem get?_add {command : Command} (h : listing.add project command = .ok longer) (name : String) :
    Entries.get? longer.names name =
      (Entries.get? listing.names name).or (if command.name = name then some project else none) := by
  rcases add_eq_ok.mp h with ⟨htaken, rfl⟩ | ⟨hfree, form, -, rfl⟩
  · split
    · rename_i hname
      rw [hname, ← contains_iff] at htaken
      obtain ⟨owner, howner⟩ := Option.isSome_iff_exists.mp htaken
      rw [howner]
      rfl
    · exact Option.or_none.symm
  · rw [Entries.get?_insert]
    split
    · rename_i hname
      rw [hname] at hfree
      rw [(Entries.get?_eq_none_iff _ _).mpr hfree]
      rfl
    · exact Option.or_none.symm

theorem get?_addAll {commands : List Command} (h : listing.addAll project commands = .ok longer)
    (name : String) :
    Entries.get? longer.names name =
      (Entries.get? listing.names name).or (if hasName name commands then some project else none) := by
  unfold Listing.addAll at h
  induction commands generalizing listing with
  | nil =>
    cases h
    exact Option.or_none.symm
  | cons command commands ih =>
    obtain ⟨next, hfirst, hrest⟩ := foldlM_cons_eq_ok.mp h
    rw [ih hrest, get?_add hfirst, Option.or_assoc]
    congr 1
    by_cases hname : command.name = name <;> simp [hasName, hname]

theorem get?_ofProjects {commands : Uuid → List Command} {projects : List Uuid}
    (h : ofProjects commands projects listing = .ok longer) (name : String) :
    Entries.get? longer.names name =
      (Entries.get? listing.names name).or
        (projects.find? fun project => hasName name (commands project)) := by
  unfold ofProjects at h
  induction projects generalizing listing with
  | nil =>
    cases h
    exact Option.or_none.symm
  | cons project projects ih =>
    obtain ⟨next, hfirst, hrest⟩ := foldlM_cons_eq_ok.mp h
    rw [ih hrest, get?_addAll hfirst, Option.or_assoc, List.find?_cons]
    congr 1
    cases hasName name (commands project) <;> rfl

/-! ## Projects that can be listed -/

/-- Every name of a listing is a name of another one. -/
def IsWithin (listing other : Listing) : Prop :=
  Entries.names listing.names ⊆ Entries.names other.names

def IsListable (project : Uuid) (commands : List Command) : Prop :=
  ∃ listing, ({} : Listing).addAll project commands = .ok listing

/-- A command that can be listed can be listed where more names are taken. -/
theorem exists_add_of_isWithin {other : Listing} {command : Command} (owner : Uuid)
    (h : listing.IsWithin other) (hadd : listing.add project command = .ok longer) :
    ∃ longer', other.add owner command = .ok longer' ∧ longer.IsWithin longer' := by
  by_cases hother : command.name ∈ Entries.names other.names
  · refine ⟨other, add_eq_ok.mpr (.inl ⟨hother, rfl⟩), fun name hname => ?_⟩
    rcases add_eq_ok.mp hadd with ⟨-, rfl⟩ | ⟨-, form, -, rfl⟩
    · exact h hname
    · rcases (Entries.mem_names_insert _ _ _ _).mp hname with rfl | hold
      · exact hother
      · exact h hold
  · rcases add_eq_ok.mp hadd with ⟨htaken, -⟩ | ⟨-, form, hform, rfl⟩
    · exact absurd (h htaken) hother
    · refine ⟨_, add_eq_ok.mpr (.inr ⟨hother, form, hform, rfl⟩), fun name hname => ?_⟩
      rw [Entries.mem_names_insert] at hname ⊢
      exact hname.imp_right fun hold => h hold

theorem exists_addAll_of_isWithin {other : Listing} {commands : List Command} (owner : Uuid)
    (h : listing.IsWithin other) (hadd : listing.addAll project commands = .ok longer) :
    ∃ longer', other.addAll owner commands = .ok longer' := by
  unfold Listing.addAll at hadd ⊢
  induction commands generalizing listing other with
  | nil => exact ⟨other, rfl⟩
  | cons command commands ih =>
    obtain ⟨next, hfirst, hrest⟩ := foldlM_cons_eq_ok.mp hadd
    obtain ⟨next', hnext, hwithin⟩ := exists_add_of_isWithin owner h hfirst
    obtain ⟨longer', hlonger⟩ := ih hwithin hrest
    exact ⟨longer', foldlM_cons_eq_ok.mpr ⟨next', hnext, hlonger⟩⟩

/-- Projects that can be listed by themselves can be listed one after the other. -/
theorem exists_ofProjects {commands : Uuid → List Command} {projects : List Uuid}
    (h : ∀ project ∈ projects, IsListable project (commands project)) (listing : Listing) :
    ∃ longer, ofProjects commands projects listing = .ok longer := by
  unfold ofProjects
  induction projects generalizing listing with
  | nil => exact ⟨listing, rfl⟩
  | cons project projects ih =>
    obtain ⟨own, hown⟩ := h project List.mem_cons_self
    have hwithin : ({} : Listing).IsWithin listing := List.nil_subset _
    obtain ⟨next, hnext⟩ := exists_addAll_of_isWithin project hwithin hown
    obtain ⟨longer, hlonger⟩ := ih (fun other hother => h other (List.mem_cons_of_mem _ hother)) next
    exact ⟨longer, foldlM_cons_eq_ok.mpr ⟨next, hnext, hlonger⟩⟩

theorem isListable_of_ofProjects {commands : Uuid → List Command} {projects : List Uuid}
    (h : ofProjects commands (project :: projects) {} = .ok longer) :
    IsListable project (commands project) := by
  unfold ofProjects at h
  obtain ⟨next, hfirst, -⟩ := foldlM_cons_eq_ok.mp h
  exact ⟨next, hfirst⟩

/-! ## Registrations -/

/-- The commands of a registration, each with the project that has it, and the names that are noted with it. -/
structure Registers (sources : List (Uuid × Command)) (listing : Listing) : Prop where
  payload : List.Forall₂ (fun source form => source.2.form = .ok form) sources listing.payload
  names : listing.names = sources.map fun source => (source.2.name, source.1)

theorem registers_empty : Registers [] {} := ⟨.nil, rfl⟩

variable {sources : List (Uuid × Command)}

theorem Registers.add {command : Command} (h : listing.Registers sources)
    (hadd : listing.add project command = .ok longer) :
    ∃ more, more.Sublist [(project, command)] ∧ longer.Registers (sources ++ more) := by
  rcases add_eq_ok.mp hadd with ⟨-, rfl⟩ | ⟨hname, form, hform, rfl⟩
  · exact ⟨[], List.nil_sublist _, by rwa [List.append_nil]⟩
  · refine ⟨[(project, command)], List.Sublist.refl _, ?_, ?_⟩
    · exact List.rel_append h.payload (.cons hform .nil)
    · rw [Entries.insert_of_not_mem hname, h.names, List.map_append]
      rfl

theorem Registers.addAll {commands : List Command} (h : listing.Registers sources)
    (hadd : listing.addAll project commands = .ok longer) :
    ∃ more, more.Sublist (commands.map fun command => (project, command)) ∧
      longer.Registers (sources ++ more) := by
  unfold Listing.addAll at hadd
  induction commands generalizing listing sources with
  | nil =>
    cases hadd
    exact ⟨[], List.Sublist.refl _, by rwa [List.append_nil]⟩
  | cons command commands ih =>
    obtain ⟨next, hfirst, hlater⟩ := foldlM_cons_eq_ok.mp hadd
    obtain ⟨one, hone, hnext⟩ := h.add hfirst
    obtain ⟨rest, hrest, hlonger⟩ := ih hnext hlater
    rw [List.append_assoc] at hlonger
    exact ⟨one ++ rest, hone.append hrest, hlonger⟩

theorem Registers.ofProjects {commands : Uuid → List Command} {projects : List Uuid}
    (h : listing.Registers sources) (hlisting : ofProjects commands projects listing = .ok longer) :
    ∃ more, more.Sublist (projects.flatMap fun project =>
      (commands project).map fun command => (project, command)) ∧ longer.Registers (sources ++ more) := by
  unfold Listing.ofProjects at hlisting
  induction projects generalizing listing sources with
  | nil =>
    cases hlisting
    exact ⟨[], List.Sublist.refl _, by rwa [List.append_nil]⟩
  | cons project projects ih =>
    obtain ⟨next, hfirst, hlater⟩ := foldlM_cons_eq_ok.mp hlisting
    obtain ⟨own, hown, hnext⟩ := h.addAll hfirst
    obtain ⟨rest, hrest, hlonger⟩ := ih hnext hlater
    rw [List.append_assoc] at hlonger
    refine ⟨own ++ rest, ?_, hlonger⟩
    rw [List.flatMap_cons]
    exact hown.append hrest

/-- Every listing of projects registers some of their commands, in order. -/
theorem exists_registers {commands : Uuid → List Command} {projects : List Uuid}
    (h : ofProjects commands projects {} = .ok longer) :
    ∃ sources, sources.Sublist (projects.flatMap fun project =>
      (commands project).map fun command => (project, command)) ∧ longer.Registers sources :=
  registers_empty.ofProjects h

/-- The project of a name is that of the command that is registered under it. -/
theorem Registers.get? (h : listing.Registers sources) (name : String) :
    Entries.get? listing.names name =
      (sources.find? fun source => source.2.name = name).map (·.1) := by
  rw [h.names]
  clear h
  induction sources with
  | nil => rfl
  | cons source rest ih =>
    rw [List.map_cons, Entries.get?, List.find?_cons]
    by_cases hname : source.2.name = name
    · simp [hname]
    · simp [hname, ih]

end Listing

end CommandFlow.Service
