import CommandFlow.Proofs.Run.Related
import CommandFlow.Run.Live

/-!
# Journals of live runs

* `Event` : a call of a run with its answer; `Backend.logged` : a backend that writes down its calls;
* `Platform.logged` : a platform that writes down the payloads that were delivered;
* `Live.journal` : a live run with what was written down; `Live.run_eq_journal` : writing it down changes
  nothing about the run.
-/

namespace CommandFlow

variable {σ : Type}

/-! ## What is written down -/

/-- A call that a run makes, and the answer. -/
inductive Event where
  | emitted (output : Output) (answer : Reply Unit)
  | performed (action : Action) (answer : Reply ActionResult)
  | paused (milliseconds : Nat) (answer : Reply Unit)

def Event.note {α : Type} (event : α → Event) (answer : α × σ) (events : List Event) :
    α × σ × List Event :=
  (answer.1, answer.2, events ++ [event answer.1])

def Backend.logged (backend : Backend σ) : Backend (σ × List Event) where
  emit output state := Event.note (.emitted output) (backend.emit output state.1) state.2
  perform action state := Event.note (.performed action) (backend.perform action state.1) state.2
  pause milliseconds state :=
    Event.note (.paused milliseconds) (backend.pause milliseconds state.1) state.2

/-- The payloads that an answered reply has delivered: its own if it went through. -/
def deliveries (answer : Reply Unit) (payload : Value) : List Value :=
  match answer with
  | .done () => [payload]
  | _ => []

namespace Platform

/-- A call that delivers nothing. -/
def aside {α : Type} (make : σ → α × σ) (state : σ × List Value) : α × σ × List Value :=
  ((make state.1).1, (make state.1).2, state.2)

def deliver (send : Value → σ → Reply Unit × σ) (payload : Value) (state : σ × List Value) :
    Reply Unit × σ × List Value :=
  ((send payload state.1).1, (send payload state.1).2,
    state.2 ++ deliveries (send payload state.1).1 payload)

/-- The platform that also writes down the payloads that were delivered. -/
def logged (platform : Platform σ) : Platform (σ × List Value) where
  library := platform.library
  send request := aside (platform.send request)
  clock state := platform.clock state.1
  setClock clock state := (platform.setClock clock state.1, state.2)
  hasResponded state := platform.hasResponded state.1
  respond := deliver platform.respond
  followUp := deliver platform.followUp
  addRole guildId userId roleId := aside (platform.addRole guildId userId roleId)
  removeRole guildId userId roleId := aside (platform.removeRole guildId userId roleId)
  awaitMessage wait := aside (platform.awaitMessage wait)

end Platform

namespace Live

/-- A live run with what was written down of it. -/
structure Journal (σ : Type) where
  outcome : Except Run.Refusal Result
  world : World σ
  events : List Event
  delivered : List Value

/-- Runs a graph live and writes down the calls of the run and the payloads that were delivered. -/
def journal (platform : Platform σ) (poll : Binary64) (graph : Graph) (context : Context)
    (limit : Int) (generator : Generator) (world : World σ) : Journal σ :=
  let (outcome, state, events) := Run.run (backend platform.logged poll).logged graph context limit
    generator (⟨world.hasReplied, world.outside, []⟩, [])
  ⟨outcome, ⟨state.hasReplied, state.outside.1⟩, events, state.outside.2⟩

/-! ## Writing down changes nothing -/

theorem timely_logged {α : Type} (platform : Platform σ) (answer : Reply α) (outside : σ)
    (delivered : List Value) :
    platform.logged.timely (answer, outside, delivered) =
      ((platform.timely (answer, outside)).1, (platform.timely (answer, outside)).2, delivered) := by
  unfold Web.timely
  show (if (platform.clock outside).isUp then _ else _) = _
  split <;> rfl

theorem fetch_logged (platform : Platform σ) (method : CallMethod) (url : String)
    (headers : Entries String) (body : Option String) (outside : σ) (delivered : List Value) :
    fetch platform.logged method url headers body (outside, delivered) =
      Platform.aside (fetch platform method url headers body) (outside, delivered) := by
  have hlibrary : platform.logged.library = platform.library := rfl
  simp only [fetch, Platform.aside, hlibrary]
  split
  · rfl
  · exact timely_logged platform _ _ delivered

theorem settled_aside (make : σ → Reply Unit × σ) (state : σ × List Value) :
    settled (Platform.aside make state) =
      Platform.aside (fun outside => settled (make outside)) state := by
  simp only [settled, Platform.aside]
  obtain ⟨answer, outside⟩ := make state.1
  cases answer <;> rfl

theorem withSeconds_aside {α : Type} (milliseconds : Nat) (next : Binary64 → σ → Reply α × σ)
    (outside : σ) (delivered : List Value) :
    withSeconds milliseconds (outside, delivered)
        (fun seconds => Platform.aside (next seconds) (outside, delivered)) =
      Platform.aside (fun outside => withSeconds milliseconds outside fun seconds => next seconds outside)
        (outside, delivered) := by
  simp only [withSeconds, Platform.aside]
  generalize seconds? milliseconds = seconds
  cases seconds <;> rfl

theorem perform_logged (platform : Platform σ) (poll : Binary64) (task : Task) (outside : σ)
    (delivered : List Value) :
    perform platform.logged poll task (outside, delivered) =
      Platform.aside (perform platform poll task) (outside, delivered) := by
  cases task with
  | addRole guildId userId roleId =>
    exact settled_aside (platform.addRole guildId userId roleId) (outside, delivered)
  | removeRole guildId userId roleId =>
    exact settled_aside (platform.removeRole guildId userId roleId) (outside, delivered)
  | awaitReply timeout userId channelId =>
    have hnext : ∀ timeout, Run.andThen
          (platform.logged.awaitMessage { channelId, userId, timeout, poll } (outside, delivered))
          (fun value outside => ((.done { value } : Reply ActionResult), outside)) =
        Platform.aside (fun outside => Run.andThen
          (platform.awaitMessage { channelId, userId, timeout, poll } outside)
          fun value outside => ((.done { value } : Reply ActionResult), outside))
          (outside, delivered) := by
      intro timeout
      simp only [Platform.logged, Platform.aside]
      obtain ⟨answer, after⟩ := platform.awaitMessage { channelId, userId, timeout, poll } outside
      cases answer <;> rfl
    rw [perform, funext hnext]
    exact withSeconds_aside timeout _ outside delivered
  | call url method headers body => exact fetch_logged platform method url headers body outside delivered

theorem noteReply_deliver (send : Value → σ → Reply Unit × σ) (payload : Value) (hasReplied : Bool)
    (outside : σ) (delivered : List Value) :
    noteReply (call (Platform.deliver send payload) ⟨hasReplied, outside, delivered⟩) =
      ((noteReply (call (send payload) ⟨hasReplied, outside⟩)).1,
        ⟨(noteReply (call (send payload) ⟨hasReplied, outside⟩)).2.hasReplied,
          (noteReply (call (send payload) ⟨hasReplied, outside⟩)).2.outside,
          delivered ++ deliveries (noteReply (call (send payload) ⟨hasReplied, outside⟩)).1 payload⟩) := by
  simp only [noteReply, call, Platform.deliver]
  obtain ⟨reply, after⟩ := send payload outside
  cases reply <;> rfl

/-- What an output does is the same with a log, and the log grows by the payload if the output is delivered. -/
theorem emit_logged (platform : Platform σ) (output : Output) (hasReplied : Bool) (outside : σ)
    (delivered : List Value) :
    emit platform.logged output ⟨hasReplied, outside, delivered⟩ =
      ((emit platform output ⟨hasReplied, outside⟩).1,
        ⟨(emit platform output ⟨hasReplied, outside⟩).2.hasReplied,
          (emit platform output ⟨hasReplied, outside⟩).2.outside,
          delivered ++ deliveries (emit platform output ⟨hasReplied, outside⟩).1 output.payload⟩) := by
  by_cases hresponded : (hasReplied || platform.hasResponded outside) = true
  · have hlogged : emit platform.logged output ⟨hasReplied, outside, delivered⟩ =
        call (Platform.deliver platform.followUp output.payload) ⟨hasReplied, outside, delivered⟩ :=
      if_pos hresponded
    have hplain : emit platform output ⟨hasReplied, outside⟩ =
        call (platform.followUp output.payload) ⟨hasReplied, outside⟩ := if_pos hresponded
    rw [hlogged, hplain]
    rfl
  · have hlogged : emit platform.logged output ⟨hasReplied, outside, delivered⟩ =
        noteReply (call (Platform.deliver platform.respond output.payload)
          ⟨hasReplied, outside, delivered⟩) := if_neg hresponded
    have hplain : emit platform output ⟨hasReplied, outside⟩ =
        noteReply (call (platform.respond output.payload) ⟨hasReplied, outside⟩) :=
      if_neg hresponded
    rw [hlogged, hplain, noteReply_deliver]

theorem pause_logged (platform : Platform σ) (poll : Binary64) (milliseconds : Nat)
    (hasReplied : Bool) (outside : σ) (delivered : List Value) :
    (backend platform.logged poll).pause milliseconds ⟨hasReplied, outside, delivered⟩ =
      (((backend platform poll).pause milliseconds ⟨hasReplied, outside⟩).1,
        ⟨((backend platform poll).pause milliseconds ⟨hasReplied, outside⟩).2.hasReplied,
          ((backend platform poll).pause milliseconds ⟨hasReplied, outside⟩).2.outside, delivered⟩) := by
  simp only [backend, withSeconds]
  generalize seconds? milliseconds = seconds
  cases seconds <;> rfl

/-- The world of a run without what was written down. -/
def plainWorld (state : World (σ × List Value) × List Event) : World σ :=
  ⟨state.1.hasReplied, state.1.outside.1⟩

theorem related_logged (platform : Platform σ) (poll : Binary64) :
    (backend platform.logged poll).logged.Related (fun state world => plainWorld state = world)
      (fun _ => False) (backend platform poll) where
  keeps := ⟨fun _ _ h => h, fun _ _ h => h, fun _ _ h => h⟩
  emit := by
    rintro output ⟨⟨hasReplied, outside, delivered⟩, events⟩ _ - rfl
    refine .inr ⟨?_, ?_⟩
    · show (emit platform.logged output ⟨hasReplied, outside, delivered⟩).1 = _
      rw [emit_logged]
      rfl
    · show plainWorld ((emit platform.logged output ⟨hasReplied, outside, delivered⟩).2, _) = _
      rw [emit_logged]
      rfl
  perform := by
    rintro action ⟨⟨hasReplied, outside, delivered⟩, events⟩ _ - rfl
    have hlogged : ((backend platform.logged poll).logged.perform action
          (⟨hasReplied, outside, delivered⟩, events)).1 = (perform platform poll action.task outside).1 ∧
        plainWorld ((backend platform.logged poll).logged.perform action
          (⟨hasReplied, outside, delivered⟩, events)).2 =
            ⟨hasReplied, (perform platform poll action.task outside).2⟩ := by
      simp only [Backend.logged, Event.note, backend, call, perform_logged, Platform.aside, plainWorld,
        and_self]
    refine .inr ⟨?_, ?_⟩
    · rw [Run.performIf_some_fst, Run.performIf_some_fst, hlogged.1]
      rfl
    · rw [Run.performIf_some_snd, Run.performIf_some_snd]
      exact hlogged.2
  pause := by
    rintro milliseconds ⟨⟨hasReplied, outside, delivered⟩, events⟩ _ rfl
    refine .inr ⟨?_, ?_⟩
    · show ((backend platform.logged poll).pause milliseconds ⟨hasReplied, outside, delivered⟩).1 = _
      rw [pause_logged]
      rfl
    · show plainWorld (((backend platform.logged poll).pause milliseconds
        ⟨hasReplied, outside, delivered⟩).2, _) = _
      rw [pause_logged]
      rfl

/-- The journal is that of the live run: its outcome and the world that it leaves are the same. -/
theorem run_eq_journal (platform : Platform σ) (poll : Binary64) (graph : Graph) (context : Context)
    (limit : Int) (generator : Generator) (world : World σ) :
    Run.run (backend platform poll) graph context limit generator world =
      ((journal platform poll graph context limit generator world).outcome,
        (journal platform poll graph context limit generator world).world) := by
  have halike := Run.run_alike (related_logged platform poll) graph context limit generator
    (show plainWorld (⟨world.hasReplied, world.outside, []⟩, []) = world from rfl)
  rcases halike with hfalse | ⟨houtcome, hworld⟩
  · exact hfalse.elim
  · exact Prod.ext houtcome.symm hworld.symm

end Live

end CommandFlow
