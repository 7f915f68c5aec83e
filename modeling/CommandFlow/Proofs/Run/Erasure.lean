import CommandFlow.Proofs.Run.Execution

/-!
# Live runs over a wider world

A platform may keep books beside the outside world. If its calls are those of a plain platform once the books
are erased, so are live runs and notices.

* `Platform.Erases` : the calls of one platform are those of another, once the books are erased;
* `Live.World.map` : the world of a run over another outside world;
* `Live.execute_erase`, `Live.sendNotice_erase` : a run and a notice with the books are those without.
-/

namespace CommandFlow

variable {σ τ : Type}

/-- Once the books are erased, the calls of a platform that keeps them are those of the plain one. -/
structure Platform.Erases (erase : τ → σ) (kept : Platform τ) (platform : Platform σ) : Prop where
  library : platform.library = kept.library
  send : ∀ request outside,
    platform.send request (erase outside) = Prod.map id erase (kept.send request outside)
  clock : ∀ outside, platform.clock (erase outside) = kept.clock outside
  setClock : ∀ clock outside,
    platform.setClock clock (erase outside) = erase (kept.setClock clock outside)
  hasResponded : ∀ outside, platform.hasResponded (erase outside) = kept.hasResponded outside
  respond : ∀ payload outside,
    platform.respond payload (erase outside) = Prod.map id erase (kept.respond payload outside)
  followUp : ∀ payload outside,
    platform.followUp payload (erase outside) = Prod.map id erase (kept.followUp payload outside)
  addRole : ∀ guildId userId roleId outside,
    platform.addRole guildId userId roleId (erase outside) =
      Prod.map id erase (kept.addRole guildId userId roleId outside)
  removeRole : ∀ guildId userId roleId outside,
    platform.removeRole guildId userId roleId (erase outside) =
      Prod.map id erase (kept.removeRole guildId userId roleId outside)
  awaitMessage : ∀ wait outside,
    platform.awaitMessage wait (erase outside) = Prod.map id erase (kept.awaitMessage wait outside)

theorem Run.andThen_erase {α β : Type} {erase : τ → σ} (answer : Reply α × τ)
    {next : α → τ → Reply β × τ} {next' : α → σ → Reply β × σ}
    (h : ∀ a world, next' a (erase world) = Prod.map id erase (next a world)) :
    andThen (Prod.map id erase answer) next' = Prod.map id erase (andThen answer next) := by
  obtain ⟨reply, world⟩ := answer
  cases reply with
  | done a => exact h a world
  | raised fault => rfl
  | expired => rfl

namespace Live

def World.map (f : τ → σ) (world : World τ) : World σ := ⟨world.hasReplied, f world.outside⟩

theorem call_erase {α : Type} {erase : τ → σ} {make : τ → Reply α × τ} {make' : σ → Reply α × σ}
    (h : ∀ outside, make' (erase outside) = Prod.map id erase (make outside)) (world : World τ) :
    call make' (world.map erase) = Prod.map id (World.map erase) (call make world) := by
  have hmake := h world.outside
  unfold call
  dsimp only [World.map]
  rw [hmake]
  rfl

theorem noteReply_erase (erase : τ → σ) (answer : Reply Unit × World τ) :
    noteReply (Prod.map id (World.map erase) answer) =
      Prod.map id (World.map erase) (noteReply answer) :=
  Run.andThen_erase answer fun _ _ => rfl

theorem settled_erase {erase : τ → σ} {answer : Reply Unit × σ} {answer' : Reply Unit × τ}
    (hanswer : answer = Prod.map id erase answer') :
    settled answer = Prod.map id erase (settled answer') := by
  rw [hanswer]
  exact Run.andThen_erase answer' fun _ _ => rfl

section
variable {erase : τ → σ} {kept : Platform τ} {platform : Platform σ}
  (h : kept.Erases erase platform)
include h

theorem timely_erase {α : Type} (answer : Reply α × τ) :
    platform.timely (Prod.map id erase answer) = Prod.map id erase (kept.timely answer) := by
  have hclock := h.clock answer.2
  unfold Web.timely
  show (if (platform.clock (erase answer.2)).isUp then _ else _) = _
  rw [hclock]
  split <;> rfl

theorem sleep_erase (ticks : Nat) (outside : τ) :
    platform.sleep ticks (erase outside) = Prod.map id erase (kept.sleep ticks outside) := by
  unfold Web.sleep
  rw [h.clock]
  exact Prod.ext rfl (h.setClock _ outside)

/-! ## Calls -/

theorem emit_erase (output : Output) (world : World τ) :
    emit platform output (world.map erase) =
      Prod.map id (World.map erase) (emit kept output world) := by
  have hresponded : platform.hasResponded (world.map erase).outside =
      kept.hasResponded world.outside := h.hasResponded world.outside
  unfold emit
  rw [hresponded]
  show (if (world.hasReplied || _) = true then _ else _) = _
  split
  · exact call_erase (h.followUp output.payload) world
  · rw [call_erase (h.respond output.payload) world]
    exact noteReply_erase erase _

theorem fetch_erase (method : CallMethod) (url : String) (headers : Entries String)
    (body : Option String) (outside : τ) :
    fetch platform method url headers body (erase outside) =
      Prod.map id erase (fetch kept method url headers body outside) := by
  simp only [fetch, h.library]
  split
  · rfl
  · rename_i request _
    have hanswer : (fetched kept.library request (platform.send request (erase outside)).1,
          (platform.send request (erase outside)).2) =
        Prod.map id erase (fetched kept.library request (kept.send request outside).1,
          (kept.send request outside).2) := by
      rw [h.send]
      rfl
    exact (congrArg platform.timely hanswer).trans (timely_erase h _)

theorem perform_erase (poll : Binary64) (task : Task) (outside : τ) :
    perform platform poll task (erase outside) =
      Prod.map id erase (perform kept poll task outside) := by
  cases task with
  | addRole guildId userId roleId => exact settled_erase (h.addRole guildId userId roleId outside)
  | removeRole guildId userId roleId =>
    exact settled_erase (h.removeRole guildId userId roleId outside)
  | call url method headers body => exact fetch_erase h method url headers body outside
  | awaitReply timeout userId channelId =>
    unfold perform withSeconds
    dsimp only
    cases seconds? timeout with
    | none => rfl
    | some seconds =>
      dsimp only
      rw [h.awaitMessage]
      exact Run.andThen_erase _ fun _ _ => rfl

theorem pause_erase (poll : Binary64) (milliseconds : Nat) (world : World τ) :
    (backend platform poll).pause milliseconds (world.map erase) =
      Prod.map id (World.map erase) ((backend kept poll).pause milliseconds world) := by
  unfold backend withSeconds
  dsimp only
  cases seconds? milliseconds with
  | none => rfl
  | some seconds => exact call_erase (sleep_erase h (ticksOf seconds)) world

theorem backend_erase (poll : Binary64) :
    (backend kept poll).Related (fun world world' => world.map erase = world') (fun _ => False)
      (backend platform poll) where
  keeps := ⟨fun _ _ h => h, fun _ _ h => h, fun _ _ h => h⟩
  emit := by
    rintro output world _ - rfl
    have hemit := emit_erase h output world
    exact .inr ⟨(congrArg Prod.fst hemit).symm, (congrArg Prod.snd hemit).symm⟩
  perform := by
    rintro action world _ - rfl
    have hperform : (backend platform poll).perform action (world.map erase) =
        Prod.map id (World.map erase) ((backend kept poll).perform action world) :=
      call_erase (perform_erase h poll action.task) world
    refine .inr ⟨?_, ?_⟩
    · rw [Run.performIf_some_fst, Run.performIf_some_fst, hperform]
      rfl
    · rw [Run.performIf_some_snd, Run.performIf_some_snd, hperform]
      rfl
  pause := by
    rintro milliseconds world _ rfl
    have hpause := pause_erase h poll milliseconds world
    exact .inr ⟨(congrArg Prod.fst hpause).symm, (congrArg Prod.snd hpause).symm⟩

/-! ## Runs -/

theorem adjust_erase (change : Clock → Clock) (world : World τ) :
    adjust platform change (world.map erase) = (adjust kept change world).map erase := by
  unfold adjust Web.adjust World.map
  rw [h.clock, h.setClock]

theorem run_erase (poll : Binary64) (graph : Graph) (context : Context) (limit : Int)
    (generator : Generator) (world : World τ) :
    Run.run (backend platform poll) graph context limit generator (world.map erase) =
      Prod.map id (World.map erase)
        (Run.run (backend kept poll) graph context limit generator world) := by
  have halike := Run.run_alike (backend_erase h poll) graph context limit generator
    (show world.map erase = world.map erase from rfl)
  rcases halike with hfalse | ⟨houtcome, hworld⟩
  · exact hfalse.elim
  · exact Prod.ext houtcome.symm hworld.symm

theorem execute_erase (settings : Settings) (graph : Graph) (context : Context)
    (generator : Generator) (world : World τ) :
    execute platform settings graph context generator (world.map erase) =
      Prod.map id (World.map erase) (execute kept settings graph context generator world) := by
  cases htime : isTimeless settings.timeLimit with
  | true =>
    rw [execute_of_isTimeless platform htime, execute_of_isTimeless kept htime]
    rfl
  | false =>
    rw [execute_of_isTimeless_eq_false platform htime, execute_of_isTimeless_eq_false kept htime]
    rw [adjust_erase h, run_erase h]
    dsimp only [Prod.map, id]
    rw [adjust_erase h]

theorem sendNotice_erase (text : String) (ephemeral : Bool) (world : World τ) :
    sendNotice platform text ephemeral (world.map erase) =
      Prod.map id (World.map erase) (sendNotice kept text ephemeral world) :=
  emit_erase h _ world

end

end Live

end CommandFlow
