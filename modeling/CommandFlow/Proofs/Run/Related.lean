import CommandFlow.Proofs.Run.Outcome
import CommandFlow.Run.Walk

/-!
# Walks over related backends

What every call of a backend keeps a whole walk keeps, and backends whose calls are answered alike give the same
walk.

* `Backend.Keeps` : every call keeps a property of the world; `Run.walk_keeps`, `Run.run_keeps` : so does every
  walk and every run;
* `Run.Alike` : two answers are the same and leave related worlds, unless the first world is off the track;
* `Backend.Related` : the calls of two backends are answered alike; `Run.walk_alike`, `Run.run_alike` : so
  are their walks and their runs.
-/

namespace CommandFlow

variable {σ τ : Type}

/-- Every call of the backend keeps a property of the world. -/
structure Backend.Keeps (I : σ → Prop) (backend : Backend σ) : Prop where
  emit : ∀ output world, I world → I (backend.emit output world).2
  perform : ∀ action world, I world → I (backend.perform action world).2
  pause : ∀ milliseconds world, I world → I (backend.pause milliseconds world).2

/-- The two answers are the same and leave related worlds, unless the first world is off the track. -/
def Run.Alike {α : Type} (R : σ → τ → Prop) (Off : σ → Prop) (x : α × σ) (y : α × τ) : Prop :=
  Off x.2 ∨ x.1 = y.1 ∧ R x.2 y.2

/-- The calls of two backends are answered alike in related worlds, as far as nodes make them. Answers to an
action need only write alike. What is off the track stays so. -/
structure Backend.Related (R : σ → τ → Prop) (Off : σ → Prop) (backend : Backend σ)
    (other : Backend τ) : Prop where
  keeps : backend.Keeps Off
  emit : ∀ output world world', output.type ≠ .error → R world world' →
    Run.Alike R Off (backend.emit output world) (other.emit output world')
  perform : ∀ action world world', action.IsProper → R world world' →
    Run.Alike R Off (Run.performIf backend (some action) world)
      (Run.performIf other (some action) world')
  pause : ∀ milliseconds world world', R world world' →
    Run.Alike R Off (backend.pause milliseconds world) (other.pause milliseconds world')

namespace Run

/-! ## What a walk keeps -/

theorem andThen_keeps {α β : Type} {I : σ → Prop} {answer : Reply α × σ}
    {next : α → σ → Reply β × σ} (hanswer : I answer.2) (hnext : ∀ a world, I world → I (next a world).2) :
    I (andThen answer next).2 := by
  obtain ⟨reply, world⟩ := answer
  cases reply with
  | done a => exact hnext a world hanswer
  | raised fault => exact hanswer
  | expired => exact hanswer

theorem callIf_keeps {α : Type} {I : σ → Prop} {call : α → σ → Reply Unit × σ}
    (h : ∀ a world, I world → I (call a world).2) (a? : Option α) {world : σ} (hworld : I world) :
    I (callIf call a? world).2 := by
  cases a? with
  | none => exact hworld
  | some a => exact h a world hworld

def written (action : Action) : Reply ActionResult → Reply Variables
  | .done result =>
    match action.writes result with
    | .ok writes => .done writes
    | .error fault => .raised fault
  | .raised fault => .raised fault
  | .expired => .expired

theorem performIf_some_fst (backend : Backend σ) (action : Action) (world : σ) :
    (performIf backend (some action) world).1 = written action (backend.perform action world).1 := by
  rw [performIf]
  obtain ⟨reply, after⟩ := backend.perform action world
  cases reply with
  | done result =>
    dsimp only [andThen, written]
    cases action.writes result <;> rfl
  | raised fault => rfl
  | expired => rfl

/-- What an answer writes does not matter for the world that the action leaves. -/
theorem performIf_some_snd (backend : Backend σ) (action : Action) (world : σ) :
    (performIf backend (some action) world).2 = (backend.perform action world).2 := by
  rw [performIf]
  obtain ⟨reply, after⟩ := backend.perform action world
  cases reply with
  | done result =>
    dsimp only [andThen]
    split <;> rfl
  | raised fault => rfl
  | expired => rfl

/-- Performing an action is making its call and writing the answer down. -/
theorem performIf_some (backend : Backend σ) (action : Action) (world : σ) :
    performIf backend (some action) world = Prod.map (written action) id (backend.perform action world) :=
  Prod.ext (performIf_some_fst backend action world) (performIf_some_snd backend action world)

section
variable {I : σ → Prop} {backend : Backend σ}

theorem performIf_keeps (h : backend.Keeps I) (action? : Option Action) {world : σ} (hworld : I world) :
    I (performIf backend action? world).2 := by
  cases action? with
  | none => exact hworld
  | some action =>
    rw [performIf_some_snd]
    exact h.perform action world hworld

theorem realize_keeps (h : backend.Keeps I) (outcome : Outcome) {world : σ} (hworld : I world) :
    I (realize backend outcome world).2 := by
  refine andThen_keeps (callIf_keeps h.emit _ hworld) fun _ world hworld => ?_
  refine andThen_keeps (performIf_keeps h _ hworld) fun _ world hworld => ?_
  exact andThen_keeps (callIf_keeps h.pause _ hworld) fun _ _ hworld => hworld

theorem visit_keeps (h : backend.Keeps I) (graph : Graph) (context : Context) (node : Node)
    (bindings : Variables) (generator : Generator) {world : σ} (hworld : I world) :
    I (visit backend graph context node bindings generator world).1.2 := by
  rw [visit]
  obtain ⟨outcome | fault, after⟩ := node.outcome bindings context graph.declarations generator
  · exact hworld
  · exact andThen_keeps (realize_keeps h _ hworld) fun _ _ hworld => hworld

/-- The world that a walk leaves is that of its first visit, or that of the rest of the walk. -/
theorem walk_succ_snd (backend : Backend σ) (graph : Graph) (context : Context) (limit : Nat)
    (node : Node) (bindings : Variables) (generator : Generator) (world : σ) :
    (walk backend graph context (limit + 1) node bindings generator world).2 =
        (visit backend graph context node bindings generator world).1.2 ∨
      ∃ next bindings' generator',
        (walk backend graph context (limit + 1) node bindings generator world).2 =
          (walk backend graph context limit next bindings' generator'
            (visit backend graph context node bindings generator world).1.2).2 := by
  rw [walk]
  obtain ⟨⟨reply, world⟩, generator⟩ := visit backend graph context node bindings generator world
  cases reply with
  | expired => exact .inl rfl
  | raised fault => exact .inl rfl
  | done answer =>
    dsimp only
    split
    · exact .inl rfl
    · split
      · exact .inl rfl
      · exact .inr ⟨_, _, _, rfl⟩

theorem walk_keeps (h : backend.Keeps I) (graph : Graph) (context : Context) (limit : Nat)
    (node : Node) (bindings : Variables) (generator : Generator) {world : σ} (hworld : I world) :
    I (walk backend graph context limit node bindings generator world).2 := by
  induction limit generalizing node bindings generator world with
  | zero => exact hworld
  | succ limit ih =>
    have hvisit := visit_keeps h graph context node bindings generator hworld
    rcases walk_succ_snd backend graph context limit node bindings generator world with
      hafter | ⟨next, bindings', generator', hafter⟩
    · rw [hafter]
      exact hvisit
    · rw [hafter]
      exact ih next bindings' generator' hvisit

theorem run_keeps (h : backend.Keeps I) (graph : Graph) (context : Context) (limit : Int)
    (generator : Generator) {world : σ} (hworld : I world) :
    I (run backend graph context limit generator world).2 := by
  rw [run]
  split
  · exact hworld
  · split
    · exact hworld
    · exact walk_keeps h graph context _ _ _ _ hworld

end

/-! ## Walks that are alike -/

section
variable {R : σ → τ → Prop} {Off : σ → Prop} {backend : Backend σ} {other : Backend τ}

theorem andThen_alike {α β : Type} {answer : Reply α × σ} {answer' : Reply α × τ}
    {next : α → σ → Reply β × σ} {next' : α → τ → Reply β × τ} (h : Alike R Off answer answer')
    (hoff : ∀ a world, Off world → Off (next a world).2)
    (hnext : ∀ a world world', R world world' → Alike R Off (next a world) (next' a world')) :
    Alike R Off (andThen answer next) (andThen answer' next') := by
  rcases h with h | ⟨hreply, hworld⟩
  · exact .inl (andThen_keeps h hoff)
  · obtain ⟨reply, world⟩ := answer
    obtain ⟨reply', world'⟩ := answer'
    dsimp only at hreply hworld
    subst hreply
    cases reply with
    | done a => exact hnext a world world' hworld
    | raised fault => exact .inr ⟨rfl, hworld⟩
    | expired => exact .inr ⟨rfl, hworld⟩

theorem realize_alike (h : backend.Related R Off other) {node : Node} {outcome : Outcome}
    (hfits : outcome.Fits node) {world : σ} {world' : τ} (hworld : R world world') :
    Alike R Off (realize backend outcome world) (realize other outcome world') := by
  have hperform : ∀ world, Off world → Off (performIf backend outcome.action world).2 :=
    fun world => performIf_keeps h.keeps outcome.action
  have hpause : ∀ world, Off world → Off (callIf backend.pause outcome.delay world).2 :=
    fun world => callIf_keeps h.keeps.pause outcome.delay
  refine andThen_alike ?_ (fun _ world hoff => ?_) fun _ world world' hworld => ?_
  · cases houtput : outcome.output with
    | none => exact .inr ⟨rfl, hworld⟩
    | some output => exact h.emit output world world' (hfits.output output houtput) hworld
  · exact andThen_keeps (hperform world hoff) fun _ world hoff =>
      andThen_keeps (hpause world hoff) fun _ _ hoff => hoff
  refine andThen_alike ?_ (fun _ world hoff => ?_) fun writes world world' hworld => ?_
  · cases haction : outcome.action with
    | none => exact .inr ⟨rfl, hworld⟩
    | some action => exact h.perform action world world' (hfits.action action haction).2.2 hworld
  · exact andThen_keeps (hpause world hoff) fun _ _ hoff => hoff
  refine andThen_alike ?_ (fun _ _ hoff => hoff) fun _ _ _ hworld => .inr ⟨rfl, hworld⟩
  cases outcome.delay with
  | none => exact .inr ⟨rfl, hworld⟩
  | some milliseconds => exact h.pause milliseconds world world' hworld

theorem visit_alike (h : backend.Related R Off other) (graph : Graph) (context : Context)
    (node : Node) (bindings : Variables) (generator : Generator) {world : σ} {world' : τ}
    (hworld : R world world') :
    Alike R Off (visit backend graph context node bindings generator world).1
      (visit other graph context node bindings generator world').1 := by
  simp only [visit]
  cases houtcome : node.outcome bindings context graph.declarations generator with
  | mk answer after =>
    cases answer with
    | error fault => exact .inr ⟨rfl, hworld⟩
    | ok outcome =>
      exact andThen_alike (realize_alike h (Node.fits_of_outcome houtcome) hworld)
        (fun _ _ hoff => hoff) fun _ _ _ hworld => .inr ⟨rfl, hworld⟩

/-- The generator that a visit leaves depends on the node alone. -/
theorem visit_generator (backend : Backend σ) (graph : Graph) (context : Context) (node : Node)
    (bindings : Variables) (generator : Generator) (world : σ) :
    (visit backend graph context node bindings generator world).2 =
      (node.outcome bindings context graph.declarations generator).2 := by
  rw [visit]
  obtain ⟨outcome | fault, after⟩ := node.outcome bindings context graph.declarations generator <;> rfl

theorem walk_alike (h : backend.Related R Off other) (graph : Graph) (context : Context)
    (limit : Nat) (node : Node) (bindings : Variables) (generator : Generator) {world : σ}
    {world' : τ} (hworld : R world world') :
    Alike R Off (walk backend graph context limit node bindings generator world)
      (walk other graph context limit node bindings generator world') := by
  induction limit generalizing node bindings generator world world' with
  | zero => exact .inr ⟨rfl, hworld⟩
  | succ limit ih =>
    rcases visit_alike h graph context node bindings generator hworld with hoff | ⟨hreply, hafter⟩
    · left
      rcases walk_succ_snd backend graph context limit node bindings generator world with
        hafter | ⟨next, bindings', generator', hafter⟩
      · rw [hafter]
        exact hoff
      · rw [hafter]
        exact walk_keeps h.keeps graph context limit next bindings' generator' hoff
    · have hgenerator := (visit_generator backend graph context node bindings generator world).trans
        (visit_generator other graph context node bindings generator world').symm
      rw [walk, walk]
      revert hreply hafter hgenerator
      obtain ⟨⟨reply, world⟩, generator'⟩ := visit backend graph context node bindings generator world
      obtain ⟨⟨reply', world'⟩, generator''⟩ :=
        visit other graph context node bindings generator world'
      rintro hreply hafter hgenerator
      dsimp only at hreply hafter hgenerator
      subst hreply hgenerator
      cases reply with
      | expired => exact .inr ⟨rfl, hafter⟩
      | raised fault => exact .inr ⟨rfl, hafter⟩
      | done answer =>
        obtain ⟨outcome, writes⟩ := answer
        dsimp only
        split
        · exact .inr ⟨rfl, hafter⟩
        · split
          · exact .inr ⟨rfl, hafter⟩
          · rename_i next _
            rcases ih next (Entries.merge bindings writes) generator' hafter with hoff | ⟨hresult, hrest⟩
            · exact .inl hoff
            · refine .inr ⟨?_, hrest⟩
              dsimp only
              rw [hresult]

theorem run_alike (h : backend.Related R Off other) (graph : Graph) (context : Context)
    (limit : Int) (generator : Generator) {world : σ} {world' : τ} (hworld : R world world') :
    Alike R Off (run backend graph context limit generator world)
      (run other graph context limit generator world') := by
  rw [run, run]
  split
  · exact .inr ⟨rfl, hworld⟩
  · split
    · exact .inr ⟨rfl, hworld⟩
    · rename_i node _ _
      rcases walk_alike h graph context limit.toNat node context.initialVariables generator hworld with
        hoff | ⟨hresult, hrest⟩
      · exact .inl hoff
      · refine .inr ⟨?_, hrest⟩
        dsimp only
        rw [hresult]

end

end Run

end CommandFlow
