import CommandFlow.Proofs.Entries
import CommandFlow.Service.Router

/-!
# Guilds do not touch each other

* `Ledger` : the registrations that the chat platform was asked for; `Ledger.gateway` : the outside that writes
  them down, where the store always answers;
* `World.part` : what a world holds for one guild;
* `Procedure.run_part`, `Procedure.run_part_of_ne` : a procedure for a guild reads and changes the part of the
  guild and no other; `Procedure.step_part`, `Procedure.step_part_of_ne` : so does each of its accesses;
* `Procedure.run_step` : to make every access is to make the first and then the others.
-/

namespace CommandFlow.Service

/-! ## The ledger -/

/-- A registration that the chat platform was asked for, and whether it was taken. -/
structure Push where
  guild : String
  payload : List Value
  isTaken : Bool

/-- The registrations that the chat platform was asked for. -/
abbrev Ledger := List Push

namespace Ledger

/-- The registrations for a guild. -/
def part (ledger : Ledger) (guild : String) : Ledger := ledger.filter (·.guild = guild)

def taken (ledger : Ledger) (guild : String) : List (List Value) :=
  ((ledger.part guild).filter (·.isTaken)).map (·.payload)

/-- The outside where the store always answers and the registrations for a guild are taken or refused in turn
as the verdict tells. -/
def gateway (verdict : String → Nat → Option Fault) : Gateway Ledger where
  serves _ ledger := (true, ledger)
  register guild payload ledger :=
    match verdict guild (ledger.part guild).length with
    | none => (.ok (), ledger ++ [⟨guild, payload, true⟩])
    | some fault => (.error fault, ledger ++ [⟨guild, payload, false⟩])

theorem part_part (ledger : Ledger) (guild : String) : (ledger.part guild).part guild = ledger.part guild := by
  simp [part]

theorem part_append_self (ledger : Ledger) (push : Push) :
    part (ledger ++ [push]) push.guild = ledger.part push.guild ++ [push] := by
  simp [part]

theorem part_append_of_ne (ledger : Ledger) (push : Push) {other : String} (h : push.guild ≠ other) :
    part (ledger ++ [push]) other = ledger.part other := by
  simp [part, h]

end Ledger

/-! ## The part of a guild -/

namespace Store

/-- The store with the deployments in a guild only. -/
def part (store : Store) (guild : String) : Store :=
  { store with deployments := store.deployments.filter (·.guild = guild) }

theorem mark_guild (guild : String) (project : Uuid) (isActive : Bool) (d : Deployment) :
    (mark guild project isActive d).guild = d.guild := by
  unfold mark
  split <;> rfl

theorem deployment?_part (store : Store) (guild : String) (project : Uuid) :
    (store.part guild).deployment? guild project = store.deployment? guild project := by
  simp [deployment?, part, List.find?_filter]

theorem activeProjects_part (store : Store) (guild : String) :
    (store.part guild).activeProjects guild = store.activeProjects guild := by
  simp only [activeProjects, part, List.filter_filter]
  congr 2
  funext d
  cases decide (d.guild = guild) <;> simp

/-- Changing records without their guilds and then choosing a guild is the same the other way round. -/
theorem filter_map_guild (f : Deployment → Deployment) (hf : ∀ d, (f d).guild = d.guild)
    (deployments : List Deployment) (guild : String) :
    (deployments.map f).filter (·.guild = guild) = (deployments.filter (·.guild = guild)).map f := by
  rw [List.filter_map]
  congr 1
  apply List.filter_congr
  intro d _
  rw [Function.comp_apply, hf]

/-- A change of the records of one guild leaves the others. -/
theorem filter_map_of_ne (f : Deployment → Deployment) {guild other : String} (h : guild ≠ other)
    (hf : ∀ d, (f d).guild = d.guild) (hsame : ∀ d, d.guild ≠ guild → f d = d)
    (deployments : List Deployment) :
    (deployments.map f).filter (·.guild = other) = deployments.filter (·.guild = other) := by
  rw [filter_map_guild f hf]
  refine (List.map_congr_left fun d hd => ?_).trans (List.map_id _)
  have hother : d.guild = other := by simpa using (List.mem_filter.mp hd).2
  exact hsame d fun hd => h (hd.symm.trans hother)

theorem apply_part (change : Change) (guild : String) (store : Store) :
    (change.apply guild store).part guild = change.apply guild (store.part guild) := by
  cases change with
  | activate project =>
    rw [Change.apply, Change.apply, activate, activate, deployment?_part]
    by_cases hfound : (store.deployment? guild project).isSome
    · simp only [hfound, if_true, part]
      rw [filter_map_guild _ (mark_guild guild project true)]
    · simp [hfound, part]
  | deactivate project =>
    simp only [Change.apply, deactivate, part]
    rw [filter_map_guild _ (mark_guild guild project false)]
  | deactivateAll =>
    simp only [Change.apply, deactivateGuild, part]
    rw [filter_map_guild]
    intro d
    split <;> rfl

theorem apply_part_of_ne (change : Change) {guild other : String} (h : guild ≠ other) (store : Store) :
    (change.apply guild store).part other = store.part other := by
  have hmark : ∀ project isActive (d : Deployment), d.guild ≠ guild → mark guild project isActive d = d := by
    intro project isActive d hd
    simp [mark, hd]
  cases change with
  | activate project =>
    by_cases hfound : (store.deployment? guild project).isSome
    · simp only [Change.apply, activate, hfound, if_true, part]
      rw [filter_map_of_ne _ h (mark_guild guild project true) (hmark project true)]
    · simp [Change.apply, activate, hfound, part, h]
  | deactivate project =>
    simp only [Change.apply, deactivate, part]
    rw [filter_map_of_ne _ h (mark_guild guild project false) (hmark project false)]
  | deactivateAll =>
    simp only [Change.apply, deactivateGuild, part]
    rw [filter_map_of_ne _ h]
    · intro d
      split <;> rfl
    · intro d hd
      exact if_neg hd

end Store

namespace World

/-- What a world holds for a guild. -/
def part (world : World Ledger) (guild : String) : World Ledger where
  router := ⟨world.router.store.part guild, world.router.index.filter (·.1 = guild)⟩
  outside := world.outside.part guild

def push (world : World Ledger) (push : Push) : World Ledger :=
  { world with outside := world.outside ++ [push] }

variable (world : World Ledger) (guild : String)

theorem known_part : (world.part guild).known guild = world.known guild := Entries.get?_filter_self _ _

variable {world guild} in
theorem known_of_part {other : World Ledger} (h : world.part guild = other.part guild) :
    world.known guild = other.known guild := by
  rw [← known_part, h, known_part]

variable {world guild} in
theorem commands_of_part {other : World Ledger} (h : world.part guild = other.part guild) :
    world.commands = other.commands := by
  have hcommands : world.router.store.commands = other.router.store.commands :=
    congrArg (·.router.store.commands) h
  funext project
  unfold commands Store.slashCommands
  rw [hcommands]

variable {world guild} in
/-- What acts on the part of a guild alone does the same in worlds that hold the same for the guild. -/
theorem congr_of_part {β : Type} {act : World Ledger → β × World Ledger}
    (hact : ∀ world, act (world.part guild) = ((act world).1, (act world).2.part guild))
    {other : World Ledger} (h : world.part guild = other.part guild) :
    (act world).1 = (act other).1 ∧ (act world).2.part guild = (act other).2.part guild := by
  have hsame := hact world
  rw [h, hact other] at hsame
  exact ⟨(congrArg Prod.fst hsame).symm, (congrArg Prod.snd hsame).symm⟩

theorem deployed_part : (world.part guild).deployed guild = world.deployed guild :=
  Store.activeProjects_part _ _

theorem commit_part (change : Change) :
    (world.commit guild change).part guild = (world.part guild).commit guild change := by
  simp only [commit, part, Store.apply_part]

theorem note_part (names : Option Names) :
    (world.note guild names).part guild = (world.part guild).note guild names := by
  cases names with
  | none => simp only [note, part, Index.note, Entries.filter_erase_self]
  | some names => simp only [note, part, Index.note, Entries.filter_insert_self]

theorem push_part (payload : List Value) (isTaken : Bool) :
    (world.push ⟨guild, payload, isTaken⟩).part guild =
      (world.part guild).push ⟨guild, payload, isTaken⟩ := by
  simp only [push, part, Ledger.part_append_self world.outside ⟨guild, payload, isTaken⟩]

variable {guild} {other : String}

theorem commit_part_of_ne (h : guild ≠ other) (change : Change) :
    (world.commit guild change).part other = world.part other := by
  simp only [commit, part, Store.apply_part_of_ne change h]

theorem note_part_of_ne (h : guild ≠ other) (names : Option Names) :
    (world.note guild names).part other = world.part other := by
  cases names with
  | none => simp only [note, part, Index.note, Entries.filter_erase_of_ne _ h]
  | some names => simp only [note, part, Index.note, Entries.filter_insert_of_ne _ names h]

theorem push_part_of_ne (h : guild ≠ other) (payload : List Value) (isTaken : Bool) :
    (world.push ⟨guild, payload, isTaken⟩).part other = world.part other := by
  simp only [push, part, Ledger.part_append_of_ne world.outside ⟨guild, payload, isTaken⟩ h]

end World

/-! ## Procedures -/

namespace Procedure

variable {α γ : Type} (verdict : String → Nat → Option Fault)

theorem ifServed_gateway (area : Area) (world : World Ledger) (answered refused : World Ledger → γ) :
    ifServed (Ledger.gateway verdict) area world answered refused = answered world := rfl

theorem ifRegistered_of_taken {guild : String} {world : World Ledger}
    (h : verdict guild (world.outside.part guild).length = none) (payload : List Value)
    (taken : World Ledger → γ) (refused : Fault → World Ledger → γ) :
    ifRegistered (Ledger.gateway verdict) guild payload world taken refused =
      taken (world.push ⟨guild, payload, true⟩) := by
  simp only [ifRegistered, Ledger.gateway, h]
  rfl

theorem ifRegistered_of_refused {guild : String} {world : World Ledger} {fault : Fault}
    (h : verdict guild (world.outside.part guild).length = some fault) (payload : List Value)
    (taken : World Ledger → γ) (refused : Fault → World Ledger → γ) :
    ifRegistered (Ledger.gateway verdict) guild payload world taken refused =
      refused fault (world.push ⟨guild, payload, false⟩) := by
  simp only [ifRegistered, Ledger.gateway, h]
  rfl

/-- To make every access of a procedure is to make the first and then the others. -/
theorem run_step {σ : Type} (gateway : Gateway σ) (guild : String) (p : Procedure α) (world : World σ) :
    (p.step gateway guild world).1.run gateway guild (p.step gateway guild world).2 =
      p.run gateway guild world := by
  have hserved : ∀ area (next : World σ → Procedure α × World σ),
      (ifServed gateway area world next fun world => (fail .storage, world)).1.run gateway guild
          (ifServed gateway area world next fun world => (fail .storage, world)).2 =
        ifServed gateway area world (fun world => (next world).1.run gateway guild (next world).2)
          fun world => (.error .storage, world) := by
    intro area next
    unfold ifServed
    split <;> rfl
  cases p with
  | done answer => rfl
  | fail fault => rfl
  | known next => rfl
  | commands project next => exact hserved _ _
  | deployed next => exact hserved _ _
  | register payload next =>
    simp only [step, run, ifRegistered]
    split <;> rfl
  | prepare next => exact hserved _ _
  | commit change next => exact hserved _ _
  | note names next => rfl

/-- A procedure gives the same answer and does the same when it has the part of its guild only. -/
theorem run_part (guild : String) (p : Procedure α) (world : World Ledger) :
    p.run (Ledger.gateway verdict) guild (world.part guild) =
      ((p.run (Ledger.gateway verdict) guild world).1,
        (p.run (Ledger.gateway verdict) guild world).2.part guild) := by
  induction p generalizing world with
  | done answer => rfl
  | fail fault => rfl
  | known next ih =>
    rw [run, World.known_part]
    exact ih _ world
  | commands project next ih => exact ih _ world
  | deployed next ih =>
    simp only [run, ifServed_gateway, World.deployed_part]
    exact ih _ world
  | register payload next ih =>
    have hlength : (world.part guild).outside.part guild = world.outside.part guild :=
      Ledger.part_part _ _
    cases hverdict : verdict guild (world.outside.part guild).length with
    | none =>
      rw [run, run, ifRegistered_of_taken verdict hverdict,
        ifRegistered_of_taken verdict (by rw [hlength, hverdict]), ← World.push_part]
      exact ih _
    | some fault =>
      rw [run, run, ifRegistered_of_refused verdict hverdict,
        ifRegistered_of_refused verdict (by rw [hlength, hverdict]), ← World.push_part]
  | prepare next ih => exact ih world
  | commit change next ih =>
    simp only [run, ifServed_gateway, ← World.commit_part]
    exact ih _
  | note names next ih =>
    rw [run, run, ← World.note_part]
    exact ih _

/-- A procedure does the same in worlds that hold the same for its guild. -/
theorem run_congr {guild : String} (p : Procedure α) {world other : World Ledger}
    (h : world.part guild = other.part guild) :
    (p.run (Ledger.gateway verdict) guild world).1 = (p.run (Ledger.gateway verdict) guild other).1 ∧
      (p.run (Ledger.gateway verdict) guild world).2.part guild =
        (p.run (Ledger.gateway verdict) guild other).2.part guild :=
  World.congr_of_part (run_part verdict guild p) h

/-- One access of a procedure gives the same and does the same when it has the part of its guild only. -/
theorem step_part (guild : String) (p : Procedure α) (world : World Ledger) :
    p.step (Ledger.gateway verdict) guild (world.part guild) =
      ((p.step (Ledger.gateway verdict) guild world).1,
        (p.step (Ledger.gateway verdict) guild world).2.part guild) := by
  cases p with
  | known next =>
    rw [step, World.known_part]
    rfl
  | deployed next =>
    simp only [step, ifServed_gateway, World.deployed_part]
  | register payload next =>
    have hlength : (world.part guild).outside.part guild = world.outside.part guild :=
      Ledger.part_part _ _
    cases hverdict : verdict guild (world.outside.part guild).length with
    | none =>
      rw [step, step, ifRegistered_of_taken verdict hverdict,
        ifRegistered_of_taken verdict (by rw [hlength, hverdict]), ← World.push_part]
    | some fault =>
      rw [step, step, ifRegistered_of_refused verdict hverdict,
        ifRegistered_of_refused verdict (by rw [hlength, hverdict]), ← World.push_part]
  | commit change next => simp only [step, ifServed_gateway, ← World.commit_part]
  | note names next => rw [step, step, ← World.note_part]
  | _ => rfl

/-- One access of a procedure does the same in worlds that hold the same for its guild. -/
theorem step_congr {guild : String} (p : Procedure α) {world other : World Ledger}
    (h : world.part guild = other.part guild) :
    (p.step (Ledger.gateway verdict) guild world).1 = (p.step (Ledger.gateway verdict) guild other).1 ∧
      (p.step (Ledger.gateway verdict) guild world).2.part guild =
        (p.step (Ledger.gateway verdict) guild other).2.part guild :=
  World.congr_of_part (step_part verdict guild p) h

/-- One access of a procedure leaves what the world holds for other guilds. -/
theorem step_part_of_ne {guild other : String} (h : guild ≠ other) (p : Procedure α)
    (world : World Ledger) :
    (p.step (Ledger.gateway verdict) guild world).2.part other = world.part other := by
  cases p with
  | register payload next =>
    cases hverdict : verdict guild (world.outside.part guild).length with
    | none =>
      rw [step, ifRegistered_of_taken verdict hverdict]
      exact World.push_part_of_ne world h payload true
    | some fault =>
      rw [step, ifRegistered_of_refused verdict hverdict]
      exact World.push_part_of_ne world h payload false
  | commit change next => exact World.commit_part_of_ne world h change
  | note names next => exact World.note_part_of_ne world h names
  | _ => rfl

/-- A procedure leaves what the world holds for other guilds. -/
theorem run_part_of_ne {guild other : String} (h : guild ≠ other) (p : Procedure α)
    (world : World Ledger) :
    (p.run (Ledger.gateway verdict) guild world).2.part other = world.part other := by
  induction p generalizing world with
  | done answer => rfl
  | fail fault => rfl
  | known next ih => exact ih _ world
  | commands project next ih => exact ih _ world
  | deployed next ih => exact ih _ world
  | register payload next ih =>
    cases hverdict : verdict guild (world.outside.part guild).length with
    | none =>
      rw [run, ifRegistered_of_taken verdict hverdict, ih, World.push_part_of_ne world h]
    | some fault =>
      rw [run, ifRegistered_of_refused verdict hverdict]
      exact World.push_part_of_ne world h payload false
  | prepare next ih => exact ih world
  | commit change next ih =>
    rw [run, ifServed_gateway, ih, World.commit_part_of_ne world h]
  | note names next ih => rw [run, ih, World.note_part_of_ne world h]

end Procedure

end CommandFlow.Service
