import CommandFlow.Proofs.Run.Execution
import CommandFlow.Run.Rehearsal

/-!
# Scenarios

A scenario tells how the outside world answers every call of a live run and how long that takes, by the calls
that were made so far.

* `Scenario`, `Scenario.Answer` : the answers; `Scenario.platform` : the platform that gives them in virtual time and
  records the calls;
* `Scenario.make_of_done`, `Scenario.request_eq` : how a call ends;
* `Scenario.keeps_calls`, `Scenario.prefix_execute` : a live run only adds calls.
-/

namespace CommandFlow

/-! ## Answers -/

/-- How a call is answered, and how long that takes. A call that may fail fails with the fault; a request is
answered with a fault or a response of its own. -/
structure Scenario.Answer where
  ticks : Nat := 0
  fault : Option Fault := none
  /-- The message that a wait finds. -/
  message : Value := .null
  /-- The answer to a request. -/
  response : Except Http.Fault Http.Response := .ok {}

/-- How the outside world answers, by the calls that were made so far, the one to be answered included, and when
the interaction has a primary response. -/
structure Scenario where
  answer : List Rehearsal.Call → Scenario.Answer
  hasResponded : List Rehearsal.Call → Bool := fun _ => false
  library : Http.Library := .standIn

def Rehearsal.Call.isRequest : Rehearsal.Call → Bool
  | .http _ => true
  | _ => false

theorem Clock.wait_cases (clock : Clock) (ticks : Nat) :
    (clock.wait ticks).1 = .done () ∨ (clock.wait ticks).1 = .expired := by
  unfold Clock.wait
  split
  · split
    · exact .inr rfl
    · exact .inl rfl
  · exact .inl rfl

namespace Scenario

/-- The calls that were made, and the clock. -/
structure World where
  calls : List Rehearsal.Call := []
  clock : Clock := {}

def Answer.settle {α : Type} (answer : Answer) (a : α) : Reply α :=
  match answer.fault with
  | some fault => .raised fault
  | none => .done a

section
variable (scenario : Scenario)

/-- Makes a call. It is answered unless the time of the run is up before. -/
def make {α : Type} (call : Rehearsal.Call) (value : Answer → α) (world : World) : Reply α × World :=
  let calls := world.calls ++ [call]
  let answer := scenario.answer calls
  let (reply, clock) := world.clock.wait answer.ticks
  Run.andThen (reply, ⟨calls, clock⟩) fun _ world => (answer.settle (value answer), world)

def send (request : Http.Request) (world : World) : Except Http.Fault Http.Response × World :=
  let calls := world.calls ++ [.http request]
  let answer := scenario.answer calls
  (answer.response, ⟨calls, (world.clock.wait answer.ticks).2⟩)

def platform : Platform World where
  library := scenario.library
  send := scenario.send
  clock world := world.clock
  setClock clock world := { world with clock }
  hasResponded world := scenario.hasResponded world.calls
  respond payload := scenario.make (.respond payload) fun _ => ()
  followUp payload := scenario.make (.followUp payload) fun _ => ()
  addRole guildId userId roleId := scenario.make (.addRole guildId userId roleId) fun _ => ()
  removeRole guildId userId roleId := scenario.make (.removeRole guildId userId roleId) fun _ => ()
  awaitMessage wait := scenario.make (.wait wait) (·.message)

/-- The answer to a request as the result of an action, unless the time of the run is up before. -/
def request (request : Http.Request) (world : World) : Reply ActionResult × World :=
  scenario.platform.timely
    (Live.fetched scenario.library request (scenario.send request world).1, (scenario.send request world).2)

end

end Scenario

def Live.World.calls (world : Live.World Scenario.World) : List Rehearsal.Call := world.outside.calls

namespace Scenario

/-! ## The calls of a scenario -/

section
variable (scenario : Scenario) (poll : Binary64)

theorem calls_make {α : Type} (call : Rehearsal.Call) (value : Answer → α) (world : World) :
    (scenario.make call value world).2.calls = world.calls ++ [call] := by
  unfold make
  exact Run.andThen_keeps (I := fun after : World => after.calls = world.calls ++ [call]) rfl
    fun _ _ h => h

theorem make_of_done {α : Type} (call : Rehearsal.Call) (value : Answer → α) {world : World}
    (h : (world.clock.wait (scenario.answer (world.calls ++ [call])).ticks).1 = .done ()) :
    scenario.make call value world =
      let answer := scenario.answer (world.calls ++ [call])
      (answer.settle (value answer), ⟨world.calls ++ [call], (world.clock.wait answer.ticks).2⟩) := by
  unfold make
  dsimp only
  generalize world.clock.wait (scenario.answer (world.calls ++ [call])).ticks = waited at h ⊢
  obtain ⟨reply, clock⟩ := waited
  cases h
  rfl

theorem make_of_expired {α : Type} (call : Rehearsal.Call) (value : Answer → α) {world : World}
    (h : (world.clock.wait (scenario.answer (world.calls ++ [call])).ticks).1 = .expired) :
    (scenario.make call value world).1 = .expired := by
  unfold make
  dsimp only
  generalize world.clock.wait (scenario.answer (world.calls ++ [call])).ticks = waited at h ⊢
  obtain ⟨reply, clock⟩ := waited
  cases h
  rfl

theorem request_eq (request : Http.Request) (world : World) :
    scenario.request request world =
      let calls := world.calls ++ [.http request]
      let answer := scenario.answer calls
      let clock := (world.clock.wait answer.ticks).2
      (if clock.isUp then .expired else Live.fetched scenario.library request answer.response, ⟨calls, clock⟩) := by
  unfold Scenario.request Web.timely
  exact (apply_ite (·, _) _ _ _).symm

/-- A call depends on a scenario by the answer to it alone. -/
theorem make_congr {other : Scenario} {α : Type} {call : Rehearsal.Call} {value : Answer → α} {world : World}
    (h : other.answer (world.calls ++ [call]) = scenario.answer (world.calls ++ [call])) :
    other.make call value world = scenario.make call value world := by
  simp only [make, h]

theorem request_congr {other : Scenario} (hlibrary : other.library = scenario.library) {request : Http.Request}
    {world : World}
    (h : other.answer (world.calls ++ [.http request]) = scenario.answer (world.calls ++ [.http request])) :
    other.request request world = scenario.request request world := by
  simp only [request_eq, h, hlibrary]

theorem calls_request (request : Http.Request) (world : World) :
    (scenario.request request world).2.calls = world.calls ++ [.http request] := by
  rw [request_eq]

theorem calls_emit (output : Output) (world : Live.World World) :
    ∃ call, (Live.emit scenario.platform output world).2.calls = world.calls ++ [call] := by
  unfold Live.emit
  split
  · exact ⟨_, scenario.calls_make (.followUp output.payload) (fun _ => ()) world.outside⟩
  · have hcalls := scenario.calls_make (.respond output.payload) (fun _ => ()) world.outside
    refine ⟨.respond output.payload, ?_⟩
    exact Run.andThen_keeps (I := fun after : Live.World World => after.calls = _) hcalls
      fun _ _ h => h

theorem prefix_andThen_make {α β : Type} (call : Rehearsal.Call) (value : Answer → α)
    {next : α → World → Reply β × World} (hnext : ∀ a world, (next a world).2 = world) (world : World) :
    world.calls <+: (Run.andThen (scenario.make call value world) next).2.calls := by
  refine Run.andThen_keeps (I := fun after : World => world.calls <+: after.calls) ?_ fun a after h => ?_
  · rw [calls_make]
    exact List.prefix_append _ _
  · rw [hnext]
    exact h

theorem prefix_perform (task : Task) (world : World) :
    world.calls <+: (Live.perform scenario.platform poll task world).2.calls := by
  cases task with
  | addRole guildId userId roleId =>
    refine scenario.prefix_andThen_make (.addRole guildId userId roleId) (fun _ => ()) ?_ world
    exact fun _ _ => rfl
  | removeRole guildId userId roleId =>
    refine scenario.prefix_andThen_make (.removeRole guildId userId roleId) (fun _ => ()) ?_ world
    exact fun _ _ => rfl
  | awaitReply timeout userId channelId =>
    rw [Live.perform, Live.withSeconds]
    split
    · exact List.prefix_rfl
    · refine scenario.prefix_andThen_make (.wait _) (·.message) ?_ world
      exact fun _ _ => rfl
  | call url method headers body =>
    simp only [Live.perform, Live.fetch]
    split
    · exact List.prefix_rfl
    · rename_i request _
      have hcalls := scenario.calls_request request world
      exact ⟨[.http request], hcalls.symm⟩

theorem keeps_calls (calls : List Rehearsal.Call) :
    (Live.backend scenario.platform poll).Keeps fun world => calls <+: world.calls where
  emit output world h := by
    obtain ⟨call, hcalls⟩ := scenario.calls_emit output world
    show calls <+: (Live.emit scenario.platform output world).2.calls
    rw [hcalls]
    exact h.trans (List.prefix_append _ _)
  perform action world h := h.trans (scenario.prefix_perform poll action.task world.outside)
  pause milliseconds world h := by
    simp only [Live.backend, Live.withSeconds]
    split <;> exact h

theorem prefix_execute (settings : Settings) (graph : Graph) (context : Context) (generator : Generator)
    (world : Live.World World) :
    world.calls <+: (Live.execute scenario.platform settings graph context generator world).2.calls := by
  cases htime : Live.isTimeless settings.timeLimit with
  | true =>
    have hnothing := Live.execute_of_isTimeless scenario.platform htime graph context generator world
    exact ⟨[], (List.append_nil _).trans (congrArg (·.2.calls) hnothing.symm)⟩
  | false =>
    rw [Live.execute_of_isTimeless_eq_false scenario.platform htime]
    have hkeeps := scenario.keeps_calls settings.pollInterval world.calls
    refine Run.run_keeps hkeeps graph context settings.visitLimit generator ?_
    exact List.prefix_rfl

end

/-! ## A scenario -/

/-- A question, and a message that tells the reply. -/
def question : Graph where
  nodes := [⟨"begin", ⟨.zero, .zero⟩, .start ""⟩,
    ⟨"ask", ⟨.zero, .zero⟩, .awaitReply ⟨"Who are you?", 30000, "name", none, none⟩⟩,
    ⟨"greet", ⟨.zero, .zero⟩, .sendMessage ⟨"Hello \x7b\x7bname\x7d\x7d", none, false⟩⟩]
  edges := [{ id := "1", source := "begin", target := "ask" },
    { id := "2", source := "ask", target := "greet" }]

/-- Every call is answered, a wait for a reply after two seconds. -/
def attentive : Scenario where
  answer calls :=
    match calls.getLast? with
    | some (.wait _) => { ticks := ticksOf (.ofInt 2), message := .text "Ada" }
    | _ => {}

end Scenario

end CommandFlow
