import CommandFlow.Proofs.Run.Journal
import CommandFlow.Proofs.Run.Visits

/-!
# The calls of a run

A run makes the calls of its visits, one visit after the other.

* `Run.Logs` : a logged call is answered as the plain one; `Logs.andThen` : so is what is made of such calls;
* `Run.Visit.calls` : the calls that a visit makes, with their answers;
* `Run.Visit.visit_withLog` : writing the calls down changes nothing about a visit;
* `Run.walk_logged` : what is written down of a walk are the calls of its visits, in order.
-/

namespace CommandFlow.Run

variable {σ : Type}

/-! ## Logs -/

/-- A logged call is answered as the plain one, and writes down the same calls behind whatever is written
down. -/
def Logs {α : Type} (logged : σ × List Event → α × σ × List Event) (plain : σ → α × σ) : Prop :=
  ∀ world, ∃ calls, ∀ events,
    logged (world, events) = ((plain world).1, (plain world).2, events ++ calls)

theorem Logs.andThen {α β : Type} {logged : σ × List Event → Reply α × σ × List Event}
    {plain : σ → Reply α × σ} {next : α → σ × List Event → Reply β × σ × List Event}
    {next' : α → σ → Reply β × σ} (h : Logs logged plain) (hnext : ∀ a, Logs (next a) (next' a)) :
    Logs (fun state => Run.andThen (logged state) next) fun world => Run.andThen (plain world) next' := by
  intro world
  obtain ⟨calls, hcalls⟩ := h world
  simp only [hcalls]
  obtain ⟨reply, after⟩ := plain world
  cases reply with
  | done a =>
    obtain ⟨others, hothers⟩ := hnext a after
    exact ⟨calls ++ others, fun events => by simp [Run.andThen, hothers]⟩
  | raised fault => exact ⟨calls, fun _ => rfl⟩
  | expired => exact ⟨calls, fun _ => rfl⟩

theorem Logs.done {α : Type} (a : α) :
    Logs (fun state : σ × List Event => ((.done a : Reply α), state)) fun world => (.done a, world) :=
  fun _ => ⟨[], fun events => by simp⟩

theorem Logs.note {α : Type} (event : α → Event) (call : σ → α × σ) :
    Logs (fun state => Event.note event (call state.1) state.2) call :=
  fun world => ⟨[event (call world).1], fun _ => rfl⟩

theorem Logs.callIf {α : Type} {logged : α → σ × List Event → Reply Unit × σ × List Event}
    {plain : α → σ → Reply Unit × σ} (h : ∀ a, Logs (logged a) (plain a)) (a? : Option α) :
    Logs (Run.callIf logged a?) (Run.callIf plain a?) := by
  cases a? with
  | none => exact .done ()
  | some a => exact h a

theorem logs_performIf (backend : Backend σ) (action? : Option Action) :
    Logs (performIf backend.logged action?) (performIf backend action?) := by
  cases action? with
  | none => exact .done []
  | some action =>
    refine Logs.andThen (.note (.performed action) (backend.perform action)) fun result => ?_
    cases action.writes result with
    | ok writes => exact .done writes
    | error fault => exact fun _ => ⟨[], fun events => by simp⟩

theorem logs_realize (backend : Backend σ) (outcome : Outcome) :
    Logs (realize backend.logged outcome) (realize backend outcome) := by
  refine Logs.andThen (.callIf (fun output => .note (.emitted output) (backend.emit output)) _) fun _ => ?_
  refine Logs.andThen (logs_performIf backend _) fun writes => ?_
  exact Logs.andThen (.callIf (fun ms => .note (.paused ms) (backend.pause ms)) _) fun _ => .done _

/-! ## The calls of a visit -/

section
variable (backend : Backend σ) (graph : Graph) (context : Context)

theorem logs_visit (node : Node) (bindings : Variables) (generator : Generator) :
    Logs (fun state => (visit backend.logged graph context node bindings generator state).1)
      fun world => (visit backend graph context node bindings generator world).1 := by
  simp only [visit]
  obtain ⟨fault | outcome, after⟩ := node.outcome bindings context graph.declarations generator
  · exact fun _ => ⟨[], fun events => by simp⟩
  · exact Logs.andThen (logs_realize backend outcome) fun writes => .done (outcome, writes)

namespace Visit

def calls (v : Visit σ) : List Event :=
  (visit backend.logged graph context v.node v.bindings v.generator (v.world, [])).1.2.2

/-- The same visit where so much is written down. -/
def withLog (v : Visit σ) (events : List Event) : Visit (σ × List Event) :=
  ⟨v.node, v.bindings, v.generator, v.world, events⟩

theorem visit_withLog (v : Visit σ) (events : List Event) :
    (visit backend.logged graph context v.node v.bindings v.generator (v.world, events)).1 =
      (v.reply backend graph context, v.leaves backend graph context,
        events ++ v.calls backend graph context) := by
  obtain ⟨calls, hcalls⟩ := logs_visit backend graph context v.node v.bindings v.generator v.world
  dsimp only at hcalls
  rw [Visit.calls, hcalls [], hcalls events, List.nil_append]
  rfl

theorem reply_withLog (v : Visit σ) (events : List Event) :
    (v.withLog events).reply backend.logged graph context = v.reply backend graph context :=
  congrArg Prod.fst (visit_withLog backend graph context v events)

theorem leaves_withLog (v : Visit σ) (events : List Event) :
    (v.withLog events).leaves backend.logged graph context =
      (v.leaves backend graph context, events ++ v.calls backend graph context) :=
  congrArg Prod.snd (visit_withLog backend graph context v events)

theorem result_withLog (v : Visit σ) (events : List Event) (limit : Nat) :
    (v.withLog events).result backend.logged graph context limit = v.result backend graph context limit :=
  result_moved (reply_withLog backend graph context v events) limit

theorem next?_withLog (v : Visit σ) (events : List Event) :
    (v.withLog events).next? backend.logged graph context =
      (v.next? backend graph context).map
        (·.withLog (events ++ v.calls backend graph context)) := by
  have hgenerator := (visit_generator backend.logged graph context v.node v.bindings v.generator
    (v.world, events)).trans
      (visit_generator backend graph context v.node v.bindings v.generator v.world).symm
  simp only [Visit.next?, reply_withLog, leaves_withLog]
  split
  · split
    · rfl
    · rw [Option.map_map]
      simp only [Visit.withLog, hgenerator]
      rfl
  · rfl

end Visit

/-! ## The calls of a run -/

theorem walk_logged (limit : Nat) (v : Visit σ) (events : List Event) :
    walk backend.logged graph context limit v.node v.bindings v.generator (v.world, events) =
      ((walk backend graph context limit v.node v.bindings v.generator v.world).1,
        (walk backend graph context limit v.node v.bindings v.generator v.world).2,
        events ++ (visits backend graph context limit v).flatMap (·.calls backend graph context)) := by
  induction limit, v using walk_induction backend graph context generalizing events with
  | zero v => simp [walk, visits]
  | last limit v hnext =>
    have hlogged := Visit.next?_withLog backend graph context v events
    rw [hnext] at hlogged
    rw [show walk backend.logged graph context (limit + 1) v.node v.bindings v.generator
        (v.world, events) = _ from walk_of_next?_eq_none (v := v.withLog events) hlogged limit,
      Visit.result_withLog, Visit.leaves_withLog, walk_of_next?_eq_none hnext,
      visits_of_next?_eq_none hnext, List.flatMap_singleton]
  | next limit v w hnext ih =>
    have hlogged := Visit.next?_withLog backend graph context v events
    rw [hnext] at hlogged
    obtain ⟨step, hstep, hwalk⟩ := walk_of_next?_eq_some hnext limit
    have hstep' : (v.withLog events).step? backend.logged graph context = some step :=
      (Visit.step?_moved (Visit.reply_withLog backend graph context v events)).trans hstep
    have hwalk' := walk_of_step? hlogged hstep' limit
    have hrest := ih (events ++ v.calls backend graph context)
    rw [show walk backend.logged graph context (limit + 1) v.node v.bindings v.generator
        (v.world, events) = _ from hwalk', hwalk, visits_of_next?_eq_some hnext, List.flatMap_cons]
    simp only [Visit.withLog, hrest, List.append_assoc]

end

end CommandFlow.Run
