import CommandFlow.Proofs.Binary64.Rounding
import CommandFlow.Proofs.Run.Journal
import CommandFlow.Run.Rehearsal
import CommandFlow.Run.Simulation

/-!
# Live and simulated runs agree

* `Event.Follows` : a call is answered, and as the stubs of a simulation tell;
* `Simulation.related_live` : as long as the calls of a live run follow the stubs, it goes the way of the
  simulation;
* `simulate_agrees` : then the simulation has the same result, and its outputs are what was delivered.
-/

namespace CommandFlow

variable {σ : Type}

/-- The call is answered, and the answer to an action is its stub. A role change may be answered with any
value. -/
def Event.Follows (stubs : Entries Value) : Event → Prop
  | .emitted _ answer => answer = .done ()
  | .performed action answer => ∃ value, answer = .done { value } ∧
      (action.task.isRoleChange = false → value = Simulation.answer stubs action)
  | .paused _ answer => answer = .done ()

theorem Action.IsProper.writes_eq_nil {action : Action} (h : action.IsProper)
    (hrole : action.task.isRoleChange = true) (value : Value) :
    action.writes { value } = .ok [] := by
  simp only [Action.writes, (h hrole).1]

namespace Simulation

theorem inSeconds_of_natAbs_le {a b : Int} (hle : a.natAbs ≤ b.natAbs) (h : inSeconds b = true) :
    inSeconds a = true := by
  unfold inSeconds at h ⊢
  exact Binary64.isFinite_ofRatio_of_le (Nat.succ_pos 999) hle h

/-- A delay that is capped by a number in range is in range. -/
theorem inSeconds_min {cap : Int} (h : inSeconds cap = true) (milliseconds : Nat) :
    inSeconds (min (milliseconds : Int) cap) = true := by
  rcases Int.le_total (milliseconds : Int) cap with hle | hle
  · rw [Int.min_eq_left hle]
    exact inSeconds_of_natAbs_le (by omega) h
  · rw [Int.min_eq_right hle]
    exact h

/-- Some call did not follow the stubs. -/
def IsOff (stubs : Entries Value) (state : Live.World (σ × List Value) × List Event) : Prop :=
  ∃ event ∈ state.2, ¬ event.Follows stubs

/-- What was delivered is what the simulation recorded, and that is messages and embeds. -/
def Mirrors (state : Live.World (σ × List Value) × List Event) (world : World) : Prop :=
  state.1.outside.2 = world.outputs.map Output.payload ∧ ∀ output ∈ world.outputs, output.type ≠ .error

section
variable (platform : Platform σ) (poll : Binary64) {settings : Settings}
  {state : Live.World (σ × List Value) × List Event} {world : World}

theorem emit_alike {output : Output} (htype : output.type ≠ .error) (h : Mirrors state world) :
    Run.Alike Mirrors (IsOff settings.stubs)
      ((Live.backend platform.logged poll).logged.emit output state)
      ((backend settings).emit output world) := by
  obtain ⟨⟨hasReplied, outside, delivered⟩, events⟩ := state
  obtain ⟨hdelivered, htypes⟩ := h
  by_cases hdone : (Live.emit platform.logged output ⟨hasReplied, outside, delivered⟩).1 = .done ()
  · have hplain := hdone
    rw [Live.emit_logged] at hplain
    refine .inr ⟨hdone, ?_, ?_⟩
    · show (Live.emit platform.logged output ⟨hasReplied, outside, delivered⟩).2.outside.2 = _
      have hbefore : delivered = world.outputs.map Output.payload := hdelivered
      rw [Live.emit_logged, hplain, hbefore]
      simp only [deliveries, backend, List.map_append, List.map_cons, List.map_nil]
    · intro other hother
      rcases List.mem_append.mp hother with hother | hother
      · exact htypes other hother
      · rw [List.mem_singleton.mp hother]
        exact htype
  · exact .inl ⟨.emitted output _, List.mem_append_right _ (List.mem_singleton_self _), hdone⟩

/-- An action that follows its stub writes what the stub writes, and delivers nothing. -/
theorem perform_alike {action : Action} (hproper : action.IsProper) (h : Mirrors state world) :
    Run.Alike Mirrors (IsOff settings.stubs)
      (Run.performIf (Live.backend platform.logged poll).logged (some action) state)
      (Run.performIf (backend settings) (some action) world) := by
  obtain ⟨⟨hasReplied, outside, delivered⟩, events⟩ := state
  obtain ⟨hdelivered, htypes⟩ := h
  by_cases hfollows : (Event.performed action
      (Live.perform platform.logged poll action.task (outside, delivered)).1).Follows settings.stubs
  · obtain ⟨value, hdone, hvalue⟩ := hfollows
    refine .inr ⟨?_, ?_, ?_⟩
    · rw [Run.performIf_some_fst, Run.performIf_some_fst]
      show Run.written action (Live.perform platform.logged poll action.task (outside, delivered)).1 =
        Run.written action (.done { value := answer settings.stubs action })
      rw [hdone]
      cases hrole : action.task.isRoleChange with
      | true => simp only [Run.written, hproper.writes_eq_nil hrole]
      | false => rw [hvalue hrole]
    · rw [Run.performIf_some_snd, Run.performIf_some_snd]
      show (Live.perform platform.logged poll action.task (outside, delivered)).2.2 = _
      rw [Live.perform_logged]
      exact hdelivered
    · rw [Run.performIf_some_snd]
      exact htypes
  · left
    rw [IsOff, Run.performIf_some_snd]
    exact ⟨_, List.mem_append_right _ (List.mem_singleton_self _), hfollows⟩

/-- The simulation caps a delay, so it goes through if the cap is in range. -/
theorem pause_alike (hcap : inSeconds settings.delayCap = true) (milliseconds : Nat)
    (h : Mirrors state world) :
    Run.Alike Mirrors (IsOff settings.stubs)
      ((Live.backend platform.logged poll).logged.pause milliseconds state)
      ((backend settings).pause milliseconds world) := by
  obtain ⟨⟨hasReplied, outside, delivered⟩, events⟩ := state
  obtain ⟨hdelivered, htypes⟩ := h
  by_cases hdone : ((Live.backend platform.logged poll).pause milliseconds
      ⟨hasReplied, outside, delivered⟩).1 = .done ()
  · have hpause : (backend settings).pause milliseconds world =
        (.done (), { world with
          elapsed := world.elapsed + (min (milliseconds : Int) settings.delayCap).toNat }) :=
      if_pos (inSeconds_min hcap milliseconds)
    rw [hpause]
    refine .inr ⟨hdone, ?_, htypes⟩
    show ((Live.backend platform.logged poll).pause milliseconds
      ⟨hasReplied, outside, delivered⟩).2.outside.2 = _
    rw [Live.pause_logged]
    exact hdelivered
  · exact .inl ⟨.paused milliseconds _, List.mem_append_right _ (List.mem_singleton_self _), hdone⟩

/-- As long as the calls of a live run follow the stubs, they are answered as in the simulation. -/
theorem related_live (hcap : inSeconds settings.delayCap = true) :
    (Live.backend platform.logged poll).logged.Related Mirrors (IsOff settings.stubs)
      (backend settings) where
  keeps := by
    constructor <;> rintro call state ⟨event, hevent, hoff⟩ <;>
      exact ⟨event, List.mem_append_left _ hevent, hoff⟩
  emit _ _ _ htype h := emit_alike platform poll htype h
  perform _ _ _ hproper h := perform_alike platform poll hproper h
  pause milliseconds _ _ h := pause_alike platform poll hcap milliseconds h

end

end Simulation

/-- If every call of a live run is answered, and every wait and every call of a web address as the stubs tell,
then the simulation gives the same result. Its outputs, but for the one that closes a failed run, are the messages
and embeds whose payloads were delivered, in order. -/
theorem simulate_agrees (platform : Platform σ) (poll : Binary64) (settings : Simulation.Settings)
    (graph : Graph) (context : Context) (generator : Generator) (world : Live.World σ)
    (hcap : Simulation.inSeconds settings.delayCap = true)
    (hcalls : ∀ event ∈
      (Live.journal platform poll graph context settings.limit generator world).events,
      event.Follows settings.stubs) :
    (∀ refusal, (Run.run (Live.backend platform poll) graph context settings.limit generator
        world).1 = .error refusal → simulate settings graph context generator = .error refusal) ∧
    ∀ result, (Run.run (Live.backend platform poll) graph context settings.limit generator
        world).1 = .ok result →
      ∃ simulated sent, simulate settings graph context generator = .ok simulated ∧
        simulated.result = result ∧
        simulated.world.outputs = sent ++ (result.failure.map Simulation.closingOutput).toList ∧
        (∀ output ∈ sent, output.type ≠ .error) ∧
        (Live.journal platform poll graph context settings.limit generator world).delivered =
          sent.map Output.payload := by
  have halike := Run.run_alike (Simulation.related_live platform poll hcap) graph context
    settings.limit generator
    (show Simulation.Mirrors (⟨world.hasReplied, world.outside, []⟩, []) {} from ⟨rfl, by simp⟩)
  rcases halike with ⟨event, hevent, hoff⟩ | ⟨houtcome, hdelivered, htypes⟩
  · exact absurd (hcalls event hevent) hoff
  · rw [Live.run_eq_journal, simulate]
    revert houtcome hdelivered htypes
    obtain ⟨outcome, after⟩ := Run.run (Simulation.backend settings) graph context settings.limit
      generator {}
    intro houtcome hdelivered htypes
    dsimp only at houtcome hdelivered htypes
    refine ⟨fun refusal hrefusal => ?_, fun result hresult => ?_⟩
    · have hsame : outcome = .error refusal := houtcome.symm.trans hrefusal
      rw [hsame]
    · have hsame : outcome = .ok result := houtcome.symm.trans hresult
      rw [hsame]
      cases hfailure : result.failure with
      | none =>
        refine ⟨⟨result, after⟩, after.outputs, ?_, rfl, by simp, htypes, hdelivered⟩
        simp only [hfailure]
      | some failure =>
        refine ⟨⟨result, { after with
          outputs := after.outputs ++ [Simulation.closingOutput failure] }⟩, after.outputs, ?_, rfl, ?_,
          htypes, hdelivered⟩
        · simp only [hfailure]
        · rfl

namespace Run

/-- A reply that is waited for, a delay and a message that tells the reply. -/
def greeting : Graph where
  nodes := [⟨"begin", ⟨.zero, .zero⟩, .start ""⟩,
    ⟨"ask", ⟨.zero, .zero⟩, .awaitReply ⟨"", 30000, "name", none, none⟩⟩,
    ⟨"rest", ⟨.zero, .zero⟩, .delay 250⟩,
    ⟨"greet", ⟨.zero, .zero⟩, .sendMessage ⟨"Hello \x7b\x7bname\x7d\x7d", none, false⟩⟩]
  edges := [{ id := "1", source := "begin", target := "ask" },
    { id := "2", source := "ask", target := "rest" },
    { id := "3", source := "rest", target := "greet" }]

/-- A platform where the user replies, and the journal of a run on it. -/
def greetingPlatform : Platform Rehearsal.World :=
  Rehearsal.platform { replies := [(Context.standIn.user.id, .text "Ada")] }

def greetingSettings : Simulation.Settings where
  stubs := [("ask", .text "Ada")]

end Run

open Run in
set_option maxRecDepth 4000 in
theorem simulate_agrees_greeting :
    Simulation.inSeconds greetingSettings.delayCap = true ∧
    (∀ event ∈ (Live.journal greetingPlatform .zero greeting .standIn 1000 (.ofSeed 0)
      ⟨false, {}⟩).events, event.Follows greetingSettings.stubs) ∧
    ∀ result, (run (Live.backend greetingPlatform .zero) greeting .standIn 1000 (.ofSeed 0)
        ⟨false, {}⟩).1 = .ok result →
      ∃ simulated sent, simulate greetingSettings greeting .standIn (.ofSeed 0) = .ok simulated ∧
        simulated.result = result ∧
        simulated.world.outputs = sent ++ (result.failure.map Simulation.closingOutput).toList ∧
        (∀ output ∈ sent, output.type ≠ .error) ∧
        (Live.journal greetingPlatform .zero greeting .standIn 1000 (.ofSeed 0)
          ⟨false, {}⟩).delivered = sent.map Output.payload := by
  have hcap : Simulation.inSeconds greetingSettings.delayCap = true := by decide +kernel
  have hevents : (Live.journal greetingPlatform .zero greeting .standIn 1000 (.ofSeed 0)
      ⟨false, {}⟩).events =
        [.performed ⟨"ask", .awaitReply 30000 "123456789012345678" "111222333444555666", some "name",
            none⟩ (.done { value := .text "Ada" }),
          .paused 250 (.done ()),
          .emitted ⟨.message, "greet", "SEND_MESSAGE", .text "Hello Ada", false⟩ (.done ())] := by
    with_unfolding_all rfl
  have hcalls : ∀ event ∈ (Live.journal greetingPlatform .zero greeting .standIn 1000 (.ofSeed 0)
      ⟨false, {}⟩).events, event.Follows greetingSettings.stubs := by
    rw [hevents]
    simp [Event.Follows, Simulation.answer, greetingSettings, Entries.get?]
  exact ⟨hcap, hcalls, (simulate_agrees greetingPlatform .zero greetingSettings greeting .standIn
    (.ofSeed 0) ⟨false, {}⟩ hcap hcalls).2⟩

end CommandFlow
