import CommandFlow.Service.Router

/-!
# Accesses of procedures

What a procedure asks of the store and of the chat platform, written down beside the outside world.

* `Gateway.IsOpen` : the store answers every access;
  `Procedure.ifServed_eq`, `Procedure.ifRegistered_eq` : an access is answered or refused;
  `Procedure.run_keeps_of`, `Procedure.run_keeps` : what outlasts every procedure;
* `Gateway.Keeps` : every answer keeps a property of the outside; `Procedure.run_keeps_outside` : so does a procedure;
* `Gateway.Erases` : a gateway answers as another one, once its books are erased; `Procedure.run_erase` : so a
  procedure does the same with the books and without them;
* `Access` : an access and its answer; `Gateway.recorded` : the gateway that writes every access down;
* `Procedure.Accounts` : only the last access of a record may be refused, and its fault is the result;
  `Procedure.exists_record_run` : the accesses of a run account for it.
-/

namespace CommandFlow.Service

variable {σ τ α : Type}

/-! ## Answers and refusals -/

/-- The store answers every access, which changes nothing outside. -/
def Gateway.IsOpen (gateway : Gateway σ) : Prop :=
  ∀ area outside, gateway.serves area outside = (true, outside)

namespace Procedure

theorem ifServed_of_isOpen {γ : Type} {gateway : Gateway σ} (h : gateway.IsOpen) (area : Area) (world : World σ)
    (answered refused : World σ → γ) : ifServed gateway area world answered refused = answered world := by
  rw [ifServed, h]

variable (gateway : Gateway σ)

theorem ifServed_eq {γ : Type} (area : Area) (world : World σ) (answered refused : World σ → γ) :
    let after : World σ := { world with outside := (gateway.serves area world.outside).2 }
    ifServed gateway area world answered refused = answered after ∨
      ifServed gateway area world answered refused = refused after := by
  unfold ifServed
  obtain ⟨isServed, outside⟩ := gateway.serves area world.outside
  cases isServed with
  | true => exact .inl rfl
  | false => exact .inr rfl

theorem ifServed_cases {γ : Type} (area : Area) (world : World σ) (answered refused : World σ → γ) :
    ∃ outside, ifServed gateway area world answered refused = answered { world with outside } ∨
      ifServed gateway area world answered refused = refused { world with outside } :=
  ⟨_, ifServed_eq gateway area world answered refused⟩

theorem ifRegistered_eq {γ : Type} (guild : String) (payload : List Value) (world : World σ)
    (taken : World σ → γ) (refused : Fault → World σ → γ) :
    let after : World σ := { world with outside := (gateway.register guild payload world.outside).2 }
    ifRegistered gateway guild payload world taken refused = taken after ∨
      ∃ fault, ifRegistered gateway guild payload world taken refused = refused fault after := by
  unfold ifRegistered
  obtain ⟨answer, outside⟩ := gateway.register guild payload world.outside
  cases answer with
  | ok done => exact .inl rfl
  | error fault => exact .inr ⟨fault, rfl⟩

/-- What every answer of the gateway keeps, and every change of deployments and names, outlasts procedures. -/
theorem run_keeps_of {P : World σ → Prop} {guild : String}
    (hserves : ∀ (world : World σ) area, P world →
      P { world with outside := (gateway.serves area world.outside).2 })
    (hregister : ∀ (world : World σ) payload, P world →
      P { world with outside := (gateway.register guild payload world.outside).2 })
    (hcommit : ∀ (world : World σ) change, P world → P (world.commit guild change))
    (hnote : ∀ (world : World σ) names, P world → P (world.note guild names)) (p : Procedure α)
    {world : World σ} (h : P world) : P (p.run gateway guild world).2 := by
  have hserved : ∀ (area : Area) (world : World σ) (next : World σ → Except ServiceFault α × World σ),
      P world → (∀ after : World σ, P after → P (next after).2) →
      P (ifServed gateway area world next fun world => (.error .storage, world)).2 := by
    intro area world next h hnext
    rcases ifServed_eq gateway area world next fun world => (.error .storage, world) with hanswered | hrefused
    · rw [hanswered]
      exact hnext _ (hserves world area h)
    · rw [hrefused]
      exact hserves world area h
  induction p generalizing world with
  | done answer => exact h
  | fail fault => exact h
  | known next ih => exact ih _ h
  | commands project next ih => exact hserved _ _ _ h fun after hafter => ih _ hafter
  | deployed next ih => exact hserved _ _ _ h fun after hafter => ih _ hafter
  | register payload next ih =>
    rcases ifRegistered_eq gateway guild payload world (fun world => next.run gateway guild world)
      fun fault world => (.error (.registration fault), world) with htaken | ⟨fault, hrefused⟩
    · rw [run, htaken]
      exact ih (hregister world payload h)
    · rw [run, hrefused]
      exact hregister world payload h
  | prepare next ih => exact hserved _ _ _ h fun after hafter => ih hafter
  | commit change next ih => exact hserved _ _ _ h fun after hafter => ih (hcommit after change hafter)
  | note names next ih => exact ih (hnote world names h)

/-- What holds whatever the outside is, and through every change of deployments and names, outlasts procedures. -/
theorem run_keeps {P : World σ → Prop} {guild : String}
    (houtside : ∀ (world : World σ) outside, P world → P { world with outside })
    (hcommit : ∀ (world : World σ) change, P world → P (world.commit guild change))
    (hnote : ∀ (world : World σ) names, P world → P (world.note guild names)) (p : Procedure α)
    {world : World σ} (h : P world) : P (p.run gateway guild world).2 :=
  run_keeps_of gateway (fun world _ => houtside world _) (fun world _ => houtside world _) hcommit hnote p h

end Procedure

/-- Every answer keeps a property of the outside. -/
structure Gateway.Keeps (J : σ → Prop) (gateway : Gateway σ) : Prop where
  serves : ∀ area outside, J outside → J (gateway.serves area outside).2
  register : ∀ guild payload outside, J outside → J (gateway.register guild payload outside).2

theorem Procedure.run_keeps_outside {J : σ → Prop} {gateway : Gateway σ} (h : gateway.Keeps J) (guild : String)
    (p : Procedure α) {world : World σ} (hworld : J world.outside) : J (p.run gateway guild world).2.outside :=
  run_keeps_of gateway (P := fun world => J world.outside) (fun world area => h.serves area world.outside)
    (fun world payload => h.register guild payload world.outside) (fun _ _ h => h) (fun _ _ h => h) p hworld

/-! ## Books -/

/-- Once its books are erased a gateway answers as the plain one. -/
structure Gateway.Erases (erase : τ → σ) (kept : Gateway τ) (gateway : Gateway σ) : Prop where
  serves : ∀ area outside,
    gateway.serves area (erase outside) = Prod.map id erase (kept.serves area outside)
  register : ∀ guild payload outside,
    gateway.register guild payload (erase outside) =
      Prod.map id erase (kept.register guild payload outside)

def Gateway.beside (gateway : Gateway σ) : Gateway (σ × τ) where
  serves area state := ((gateway.serves area state.1).1, (gateway.serves area state.1).2, state.2)
  register guild payload state :=
    ((gateway.register guild payload state.1).1, (gateway.register guild payload state.1).2, state.2)

theorem Gateway.beside_erases (gateway : Gateway σ) :
    (gateway.beside : Gateway (σ × τ)).Erases Prod.fst gateway :=
  ⟨fun _ _ => rfl, fun _ _ _ => rfl⟩

theorem Gateway.Keeps.beside {J : σ → Prop} {gateway : Gateway σ} (h : gateway.Keeps J) (books : τ) :
    (gateway.beside : Gateway (σ × τ)).Keeps fun state => J state.1 ∧ state.2 = books where
  serves area state hstate := ⟨h.serves area state.1 hstate.1, hstate.2⟩
  register guild payload state hstate := ⟨h.register guild payload state.1 hstate.1, hstate.2⟩

theorem Gateway.IsOpen.beside {gateway : Gateway σ} (h : gateway.IsOpen) :
    (gateway.beside : Gateway (σ × τ)).IsOpen := by
  intro area state
  show ((gateway.serves area state.1).1, (gateway.serves area state.1).2, state.2) = (true, state)
  rw [h]

def World.map (f : τ → σ) (world : World τ) : World σ := ⟨world.router, f world.outside⟩

namespace Procedure

section
variable {erase : τ → σ} {kept : Gateway τ} {gateway : Gateway σ} (h : kept.Erases erase gateway)
include h

theorem ifServed_erase {β : Type} (area : Area) (world : World τ) {answered refused : World σ → β × World σ}
    {answered' refused' : World τ → β × World τ}
    (hanswered : ∀ world, answered (world.map erase) = Prod.map id (World.map erase) (answered' world))
    (hrefused : ∀ world, refused (world.map erase) = Prod.map id (World.map erase) (refused' world)) :
    ifServed gateway area (world.map erase) answered refused =
      Prod.map id (World.map erase) (ifServed kept area world answered' refused') := by
  unfold ifServed
  rw [World.map, h.serves]
  obtain ⟨isServed, outside⟩ := kept.serves area world.outside
  cases isServed with
  | true => exact hanswered { world with outside }
  | false => exact hrefused { world with outside }

theorem ifRegistered_erase {β : Type} (guild : String) (payload : List Value) (world : World τ)
    {taken : World σ → β × World σ} {taken' : World τ → β × World τ}
    {refused : Fault → World σ → β × World σ} {refused' : Fault → World τ → β × World τ}
    (htaken : ∀ world, taken (world.map erase) = Prod.map id (World.map erase) (taken' world))
    (hrefused : ∀ fault world,
      refused fault (world.map erase) = Prod.map id (World.map erase) (refused' fault world)) :
    ifRegistered gateway guild payload (world.map erase) taken refused =
      Prod.map id (World.map erase) (ifRegistered kept guild payload world taken' refused') := by
  unfold ifRegistered
  rw [World.map, h.register]
  obtain ⟨answer, outside⟩ := kept.register guild payload world.outside
  cases answer with
  | ok done => exact htaken { world with outside }
  | error fault => exact hrefused fault { world with outside }

/-- A procedure does the same with the books and without them. -/
theorem run_erase (guild : String) (p : Procedure α) (world : World τ) :
    p.run gateway guild (world.map erase) =
      Prod.map id (World.map erase) (p.run kept guild world) := by
  induction p generalizing world with
  | done answer => rfl
  | fail fault => rfl
  | known next ih => exact ih _ world
  | commands project next ih => exact ifServed_erase h _ world (fun world => ih _ world) fun _ => rfl
  | deployed next ih => exact ifServed_erase h _ world (fun world => ih _ world) fun _ => rfl
  | register payload next ih => exact ifRegistered_erase h guild payload world ih fun _ _ => rfl
  | prepare next ih => exact ifServed_erase h _ world ih fun _ => rfl
  | commit change next ih =>
    exact ifServed_erase h _ world (fun world => ih (world.commit guild change)) fun _ => rfl
  | note names next ih => exact ih (world.note guild names)

end

end Procedure

/-! ## Records -/

/-- An access to a part of the store, or a registration, and its answer. -/
inductive Access where
  | store (area : Area) (isServed : Bool)
  | registration (guild : String) (payload : List Value) (answer : Except Fault Unit)

namespace Access

def fault? : Access → Option ServiceFault
  | store _ true => none
  | store _ false => some .storage
  | registration _ _ (.ok ()) => none
  | registration _ _ (.error cause) => some (.registration cause)

def isRegistration : Access → Bool
  | registration _ _ _ => true
  | store _ _ => false

end Access

/-- The gateway that writes every access down. -/
def Gateway.recorded (gateway : Gateway σ) : Gateway (σ × List Access) where
  serves area state :=
    let (isServed, outside) := gateway.serves area state.1
    (isServed, outside, state.2 ++ [.store area isServed])
  register guild payload state :=
    let (answer, outside) := gateway.register guild payload state.1
    (answer, outside, state.2 ++ [.registration guild payload answer])

namespace Gateway

variable (gateway : Gateway σ)

theorem recorded_erases : gateway.recorded.Erases Prod.fst gateway := ⟨fun _ _ => rfl, fun _ _ _ => rfl⟩

theorem serves_recorded (area : Area) (state : σ × List Access) :
    gateway.recorded.serves area state = ((gateway.serves area state.1).1, (gateway.serves area state.1).2,
      state.2 ++ [.store area (gateway.serves area state.1).1]) := rfl

theorem register_recorded (guild : String) (payload : List Value) (state : σ × List Access) :
    gateway.recorded.register guild payload state = ((gateway.register guild payload state.1).1,
      (gateway.register guild payload state.1).2,
      state.2 ++ [.registration guild payload (gateway.register guild payload state.1).1]) := rfl

end Gateway

namespace World

variable {ι : Type}

def unrecorded (world : World σ) : World (σ × List ι) := ⟨world.router, world.outside, []⟩

def record (world : World (σ × List ι)) : List ι := world.outside.2

end World

namespace Procedure

/-- Only the last access of a record may be refused, and its fault is then the result. -/
inductive Accounts (result : Except ServiceFault α) : List Access → Prop where
  | nil : Accounts result []
  | refused {access : Access} {fault : ServiceFault} (hfault : access.fault? = some fault)
      (hresult : result = .error fault) : Accounts result [access]
  | answered {access : Access} {rest : List Access} (hfault : access.fault? = none)
      (hrest : Accounts result rest) : Accounts result (access :: rest)

theorem Accounts.result_eq {result : Except ServiceFault α} {record : List Access} (h : Accounts result record)
    {access : Access} (hmem : access ∈ record) {fault : ServiceFault} (hfault : access.fault? = some fault) :
    result = .error fault := by
  induction h with
  | nil => exact (List.not_mem_nil hmem).elim
  | refused hrefused hresult =>
    rw [List.mem_singleton.mp hmem, hrefused] at hfault
    cases hfault
    exact hresult
  | answered hanswered _ ih =>
    rcases List.mem_cons.mp hmem with rfl | hrest
    · rw [hanswered] at hfault
      cases hfault
    · exact ih hrest

variable (gateway : Gateway σ) (guild : String)

/-- What a run writes down after an access to the store that is answered or refused. -/
theorem exists_record_ifServed (area : Area) (world : World (σ × List Access))
    {answered : World (σ × List Access) → Except ServiceFault α × World (σ × List Access)}
    (hanswered : ∀ world, ∃ record, (answered world).2.record = world.record ++ record ∧
      Accounts (answered world).1 record) :
    let ran := ifServed gateway.recorded area world answered fun world => (.error .storage, world)
    ∃ record, ran.2.record = world.record ++ record ∧ Accounts ran.1 record := by
  unfold ifServed
  rw [Gateway.serves_recorded]
  obtain ⟨isServed, outside⟩ := gateway.serves area world.outside.1
  cases isServed with
  | true =>
    obtain ⟨record, hrecord, haccounts⟩ :=
      hanswered { world with outside := (outside, world.record ++ [.store area true]) }
    exact ⟨.store area true :: record, hrecord.trans (List.append_assoc _ _ _), .answered rfl haccounts⟩
  | false => exact ⟨[.store area false], rfl, .refused rfl rfl⟩

theorem exists_record_run (p : Procedure α) (world : World (σ × List Access)) :
    ∃ record, (p.run gateway.recorded guild world).2.record = world.record ++ record ∧
      Accounts (p.run gateway.recorded guild world).1 record := by
  induction p generalizing world with
  | done answer => exact ⟨[], (List.append_nil _).symm, .nil⟩
  | fail fault => exact ⟨[], (List.append_nil _).symm, .nil⟩
  | known next ih => exact ih _ world
  | commands project next ih => exact exists_record_ifServed gateway _ world fun world => ih _ world
  | deployed next ih => exact exists_record_ifServed gateway _ world fun world => ih _ world
  | register payload next ih =>
    rw [run, ifRegistered, Gateway.register_recorded]
    obtain ⟨answer, outside⟩ := gateway.register guild payload world.outside.1
    cases answer with
    | ok done =>
      obtain ⟨record, hrecord, haccounts⟩ := ih
        { world with outside := (outside, world.record ++ [.registration guild payload (.ok ())]) }
      exact ⟨.registration guild payload (.ok ()) :: record, hrecord.trans (List.append_assoc _ _ _),
        .answered rfl haccounts⟩
    | error fault => exact ⟨[.registration guild payload (.error fault)], rfl, .refused rfl rfl⟩
  | prepare next ih => exact exists_record_ifServed gateway _ world ih
  | commit change next ih =>
    exact exists_record_ifServed gateway _ world fun world => ih (world.commit guild change)
  | note names next ih => exact ih (world.note guild names)

end Procedure

end CommandFlow.Service
