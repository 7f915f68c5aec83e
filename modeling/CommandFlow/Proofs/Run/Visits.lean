import CommandFlow.Proofs.Run.Related
import CommandFlow.Proofs.Run.Trail

/-!
# The visits of a run

A walk goes from visit to visit, and the visits tell everything about its result.

* `Run.Visit.reply` : how a visit ends; `Visit.step?`, `Visit.writes`, `Visit.failure?`, `Visit.status` : what
  is recorded of it, what it writes, its failure, and what becomes of a walk that ends with it;
* `Run.Visit.next?` : the visit that follows;
* `Run.visits`, `Run.course` : the visits of a walk and of a run;
* `Run.walk_of_next?_eq_none`, `Run.walk_of_next?_eq_some` : a walk ends with its last visit, or goes on;
  `Run.walk_induction` : induction along a walk;
* `Run.run_of_runIn`, `Run.context_of_runIn_ok` : a run in a context is a run, and leaves its variables there;
* `Run.steps_walk`, `Run.bindings_walk` : the steps and the variables of a walk are those of its visits;
* `Run.visits_take` : with a lower limit a walk makes the first of the same visits;
* `Run.run_solo_of_error` : the run of a command whose only node fails.
-/

namespace CommandFlow.Run

variable {σ : Type}

section
variable (backend : Backend σ) (graph : Graph) (context : Context)

/-! ## What a visit comes to -/

namespace Visit

/-- How the visit ends: with its outcome and what it writes, with a fault, or cut off. -/
def reply (v : Visit σ) : Reply (Outcome × Variables) :=
  (visit backend graph context v.node v.bindings v.generator v.world).1.1

/-- The step that is recorded, unless the visit is cut off. -/
def step? (v : Visit σ) : Option Step :=
  match v.reply backend graph context with
  | .done (outcome, _) => some ⟨v.node.id, v.node.type, .success outcome.detail⟩
  | .raised fault => some ⟨v.node.id, v.node.type, .error fault.message⟩
  | .expired => none

def writes (v : Visit σ) : Variables :=
  match v.reply backend graph context with
  | .done (_, writes) => writes
  | _ => []

def failure? (v : Visit σ) : Option Failure :=
  match v.reply backend graph context with
  | .raised fault => some ⟨v.node.id, v.node.type, fault⟩
  | _ => none

/-- What becomes of a walk that ends with the visit before it reaches its limit. -/
def status (v : Visit σ) : Status :=
  match v.reply backend graph context with
  | .done (outcome, _) => if outcome.terminal then .completed else .stopped
  | .raised _ => .failed
  | .expired => .expired

/-- The visit that follows: the visit succeeds at a node other than an end node, and the edge that is taken
leads to a node. -/
def next? (v : Visit σ) : Option (Visit σ) :=
  match v.reply backend graph context with
  | .done (outcome, writes) =>
    if outcome.terminal then none
    else (successor? graph v.node outcome.branch).map fun node =>
      { node
        bindings := Entries.merge v.bindings writes
        generator := (visit backend graph context v.node v.bindings v.generator v.world).2
        world := v.leaves backend graph context }
  | _ => none

/-- The result of a walk that ends with the visit, when it could make so many more. -/
def result (v : Visit σ) (limit : Nat) : Result where
  status :=
    if limit = 0 ∧ (v.step? backend graph context).isSome then .stepLimit
    else v.status backend graph context
  steps := (v.step? backend graph context).toList
  bindings := Entries.merge v.bindings (v.writes backend graph context)
  failure := v.failure? backend graph context

end Visit

/-- The visits of a walk from `v`, at most so many. -/
def visits : Nat → Visit σ → List (Visit σ)
  | 0, _ => []
  | limit + 1, v => v :: ((v.next? backend graph context).map (visits limit)).getD []

/-- The visit by the same node under the same variables, in another world. -/
def Visit.moved {τ : Type} (v : Visit σ) (world : τ) : Visit τ := ⟨v.node, v.bindings, v.generator, world⟩

/-- The visits of a run. -/
def course (limit : Int) (generator : Generator) (world : σ) : List (Visit σ) :=
  ((first? graph).map fun node =>
    visits backend graph context limit.toNat ⟨node, context.initialVariables, generator, world⟩).getD []

end

section
variable {backend : Backend σ} {graph : Graph} {context : Context}

variable (backend) in
theorem Visit.of_error {v : Visit σ} {fault : Fault} {after : Generator}
    (h : v.node.outcome v.bindings context graph.declarations v.generator = (.error fault, after)) :
    v.reply backend graph context = .raised fault ∧ v.leaves backend graph context = v.world := by
  simp only [Visit.reply, Visit.leaves, visit, h, and_self]

variable (backend) in
/-- A visit whose handler returns an outcome ends as the outcome is realized. -/
theorem Visit.of_outcome {v : Visit σ} {outcome : Outcome} {after : Generator}
    (h : v.node.outcome v.bindings context graph.declarations v.generator = (.ok outcome, after)) :
    (v.reply backend graph context =
      match (realize backend outcome v.world).1 with
      | .done writes => .done (outcome, writes)
      | .raised fault => .raised fault
      | .expired => .expired) ∧
    v.leaves backend graph context = (realize backend outcome v.world).2 := by
  simp only [Visit.reply, Visit.leaves, visit, h]
  obtain ⟨reply, world⟩ := realize backend outcome v.world
  cases reply <;> exact ⟨rfl, rfl⟩

/-! ## Walks -/

theorem visits_of_next?_eq_none {v : Visit σ} (h : v.next? backend graph context = none) (limit : Nat) :
    visits backend graph context (limit + 1) v = [v] := by
  rw [visits, h]
  rfl

theorem visits_of_next?_eq_some {v w : Visit σ} (h : v.next? backend graph context = some w)
    (limit : Nat) :
    visits backend graph context (limit + 1) v = v :: visits backend graph context limit w := by
  rw [visits, h]
  rfl

variable (backend graph context) in
/-- A walk has no visits left, ends with a visit that no other follows, or goes on with the next. -/
@[elab_as_elim]
theorem walk_induction {motive : Nat → Visit σ → Prop} (zero : ∀ v, motive 0 v)
    (last : ∀ limit v, v.next? backend graph context = none → motive (limit + 1) v)
    (next : ∀ limit v w, v.next? backend graph context = some w → motive limit w →
      motive (limit + 1) v)
    (limit : Nat) (v : Visit σ) : motive limit v := by
  induction limit generalizing v with
  | zero => exact zero v
  | succ limit ih =>
    cases hnext : v.next? backend graph context with
    | none => exact last limit v hnext
    | some w => exact next limit v w hnext (ih w)

theorem walk_of_next?_eq_none {v : Visit σ} (h : v.next? backend graph context = none) (limit : Nat) :
    walk backend graph context (limit + 1) v.node v.bindings v.generator v.world =
      (v.result backend graph context limit, v.leaves backend graph context) := by
  unfold Visit.next? Visit.reply at h
  unfold Visit.result Visit.step? Visit.status Visit.writes Visit.failure? Visit.reply Visit.leaves
  rw [walk]
  revert h
  obtain ⟨⟨reply, world⟩, generator⟩ := visit backend graph context v.node v.bindings v.generator v.world
  cases reply with
  | expired => simp [Entries.merge]
  | raised fault => simp [Entries.merge]
  | done answer =>
    obtain ⟨outcome, writes⟩ := answer
    intro h
    dsimp only at h ⊢
    split at h
    · rename_i hterminal
      simp [hterminal]
    · rename_i hterminal
      rw [Option.map_eq_none_iff] at h
      simp [hterminal, h]

theorem walk_of_raised {v : Visit σ} {fault : Fault} (h : v.reply backend graph context = .raised fault)
    (limit : Nat) :
    walk backend graph context (limit + 1) v.node v.bindings v.generator v.world =
      (⟨if limit = 0 then .stepLimit else .failed, [⟨v.node.id, v.node.type, .error fault.message⟩],
        v.bindings, some ⟨v.node.id, v.node.type, fault⟩⟩, v.leaves backend graph context) := by
  have hnext : v.next? backend graph context = none := by rw [Visit.next?, h]
  rw [walk_of_next?_eq_none hnext, Visit.result, Visit.step?, Visit.status, Visit.writes, Visit.failure?, h]
  simp [Entries.merge]

theorem walk_of_expired {v : Visit σ} (h : v.reply backend graph context = .expired) (limit : Nat) :
    walk backend graph context (limit + 1) v.node v.bindings v.generator v.world =
      (⟨.expired, [], v.bindings, none⟩, v.leaves backend graph context) := by
  have hnext : v.next? backend graph context = none := by rw [Visit.next?, h]
  rw [walk_of_next?_eq_none hnext, Visit.result, Visit.step?, Visit.status, Visit.writes, Visit.failure?, h]
  simp [Entries.merge]

theorem walk_of_next?_eq_some {v w : Visit σ} (h : v.next? backend graph context = some w) (limit : Nat) :
    ∃ step, v.step? backend graph context = some step ∧
      walk backend graph context (limit + 1) v.node v.bindings v.generator v.world =
        (((walk backend graph context limit w.node w.bindings w.generator w.world).1).after step,
          (walk backend graph context limit w.node w.bindings w.generator w.world).2) := by
  unfold Visit.next? Visit.reply Visit.leaves at h
  unfold Visit.step? Visit.reply
  rw [walk]
  revert h
  obtain ⟨⟨reply, world⟩, generator⟩ := visit backend graph context v.node v.bindings v.generator v.world
  cases reply with
  | expired => exact fun h => by cases h
  | raised fault => exact fun h => by cases h
  | done answer =>
    obtain ⟨outcome, writes⟩ := answer
    intro h
    dsimp only at h ⊢
    split at h
    · cases h
    · rename_i hterminal
      obtain ⟨node, hnode, rfl⟩ := Option.map_eq_some_iff.mp h
      refine ⟨_, rfl, ?_⟩
      rw [if_neg hterminal, hnode]

theorem walk_of_step? {v w : Visit σ} {step : Step} (h : v.next? backend graph context = some w)
    (hstep : v.step? backend graph context = some step) (limit : Nat) :
    walk backend graph context (limit + 1) v.node v.bindings v.generator v.world =
      (((walk backend graph context limit w.node w.bindings w.generator w.world).1).after step,
        (walk backend graph context limit w.node w.bindings w.generator w.world).2) := by
  obtain ⟨step', hstep', hwalk⟩ := walk_of_next?_eq_some h limit
  obtain rfl : step = step' := Option.some.inj (hstep.symm.trans hstep')
  exact hwalk

theorem of_next?_eq_some {v w : Visit σ} (h : v.next? backend graph context = some w) :
    ∃ outcome writes, v.reply backend graph context = .done (outcome, writes) ∧
      successor? graph v.node outcome.branch = some w.node ∧
      w.bindings = Entries.merge v.bindings writes := by
  unfold Visit.next? at h
  split at h
  · rename_i outcome writes hreply
    split at h
    · cases h
    · obtain ⟨node, hnode, rfl⟩ := Option.map_eq_some_iff.mp h
      exact ⟨outcome, writes, hreply, hnode, rfl⟩
  · cases h

/-- The node of a visit that follows is the one that its identifier means. -/
theorem find?_of_next?_eq_some {v w : Visit σ}
    (h : v.next? backend graph context = some w) : graph.find? w.node.id = some w.node := by
  obtain ⟨outcome, writes, -, hsuccessor, -⟩ := of_next?_eq_some h
  obtain ⟨edge, -, hdefines⟩ := (successor?_eq_some_iff _ _ _ _).mp hsuccessor
  rw [Graph.find?_eq_some_iff, hdefines.1]
  exact hdefines

theorem bindings_of_next?_eq_some {v w : Visit σ} (h : v.next? backend graph context = some w) :
    w.bindings = Entries.merge v.bindings (v.writes backend graph context) := by
  obtain ⟨outcome, writes, hreply, -, hbindings⟩ := of_next?_eq_some h
  rw [hbindings, Visit.writes, hreply]

theorem world_of_next?_eq_some {v w : Visit σ} (h : v.next? backend graph context = some w) :
    w.world = v.leaves backend graph context := by
  unfold Visit.next? at h
  split at h
  · split at h
    · cases h
    · obtain ⟨node, -, rfl⟩ := Option.map_eq_some_iff.mp h
      rfl
  · cases h

/-- The node that a run begins with is the one that its identifier means. -/
theorem find?_of_first? {node : Node} (h : first? graph = some node) : graph.find? node.id = some node := by
  obtain ⟨start, -, hfind⟩ := Option.bind_eq_some_iff.mp h
  have hdefines := (Graph.find?_eq_some_iff _ _ _).mp hfind
  rw [Graph.find?_eq_some_iff, hdefines.1]
  exact hdefines

theorem course_of_first? {node : Node} (hfirst : first? graph = some node) (limit : Int)
    (generator : Generator) (world : σ) :
    course backend graph context limit generator world =
      visits backend graph context limit.toNat ⟨node, context.initialVariables, generator, world⟩ := by
  rw [course, hfirst]
  rfl

/-- A run with a result walks from the first node, and makes the visits of its course. -/
theorem walk_of_run {limit : Int} {generator : Generator} {world after : σ} {result : Result}
    (h : run backend graph context limit generator world = (.ok result, after)) :
    ∃ node, first? graph = some node ∧ 1 ≤ limit ∧
      course backend graph context limit generator world =
        visits backend graph context limit.toNat ⟨node, context.initialVariables, generator, world⟩ ∧
      walk backend graph context limit.toNat node context.initialVariables generator world =
        (result, after) := by
  rw [run] at h
  cases hfirst : first? graph with
  | none =>
    rw [hfirst] at h
    cases h
  | some node =>
    rw [hfirst] at h
    dsimp only at h
    split at h
    · cases h
    · cases h
      exact ⟨node, rfl, by omega, course_of_first? hfirst limit generator world, rfl⟩

theorem Visit.nodeId_of_step? {v : Visit σ} {step : Step}
    (h : v.step? backend graph context = some step) : step.nodeId = v.node.id := by
  unfold Visit.step? at h
  split at h
  · cases h
    rfl
  · cases h
    rfl
  · cases h

/-! ## Visits in another world -/

section
variable {τ : Type} {other : Backend τ} {v : Visit σ} {world : τ}
  (h : (v.moved world).reply other graph context = v.reply backend graph context)

include h

theorem Visit.step?_moved :
    (v.moved world).step? other graph context = v.step? backend graph context := by
  rw [Visit.step?, Visit.step?, h]
  rfl

theorem Visit.result_moved (limit : Nat) :
    (v.moved world).result other graph context limit = v.result backend graph context limit := by
  simp only [Visit.result, Visit.step?, Visit.status, Visit.writes, Visit.failure?, h]
  rfl

theorem Visit.next?_moved :
    (v.moved world).next? other graph context =
      (v.next? backend graph context).map (·.moved ((v.moved world).leaves other graph context)) := by
  have hgenerator := (visit_generator other graph context v.node v.bindings v.generator world).trans
    (visit_generator backend graph context v.node v.bindings v.generator v.world).symm
  simp only [Visit.next?, h]
  split
  · split
    · rfl
    · rw [Option.map_map]
      simp only [Visit.moved, hgenerator]
      rfl
  · rfl

end

/-! ## The context that a run leaves -/

section
variable (state : State σ) (limit : Int) (generator : Generator)

theorem fst_runIn :
    (runIn backend graph limit generator state).1 =
      (run backend graph state.context limit generator state.world).1 := by
  unfold runIn
  obtain ⟨refusal | result, world⟩ := run backend graph state.context limit generator state.world
  · rfl
  · dsimp only
    split <;> rfl

theorem world_runIn :
    (runIn backend graph limit generator state).2.world =
      (run backend graph state.context limit generator state.world).2 := by
  unfold runIn
  obtain ⟨refusal | result, world⟩ := run backend graph state.context limit generator state.world
  · rfl
  · dsimp only
    split <;> rfl

variable {state limit generator}

theorem run_of_runIn {outcome : Except Refusal Result} {left : State σ}
    (h : runIn backend graph limit generator state = (outcome, left)) :
    run backend graph state.context limit generator state.world = (outcome, left.world) := by
  refine Prod.ext ?_ ?_
  · rw [← fst_runIn, h]
  · rw [← world_runIn, h]

/-- A run that comes to its end leaves its variables in the context. -/
theorem context_of_runIn_ok {result : Result} {left : State σ}
    (h : runIn backend graph limit generator state = (.ok result, left)) (hstatus : result.status ≠ .expired) :
    left.context = { state.context with bindings := result.bindings } := by
  have hrun := run_of_runIn h
  unfold runIn at h
  rw [hrun] at h
  dsimp only at h
  rw [if_neg hstatus] at h
  exact (congrArg (·.2.context) h).symm

/-- A run that cannot begin leaves the context as it is. -/
theorem context_of_runIn_error {refusal : Refusal} {left : State σ}
    (h : runIn backend graph limit generator state = (.error refusal, left)) : left.context = state.context := by
  have hrun := run_of_runIn h
  unfold runIn at h
  rw [hrun] at h
  exact (congrArg (·.2.context) h).symm

theorem context_of_runIn_expired {result : Result} {left : State σ}
    (h : runIn backend graph limit generator state = (.ok result, left)) (hstatus : result.status = .expired) :
    left.context = state.context := by
  have hrun := run_of_runIn h
  unfold runIn at h
  rw [hrun] at h
  dsimp only at h
  rw [if_pos hstatus] at h
  exact (congrArg (·.2.context) h).symm

end

/-! ## What the visits tell -/

variable (backend graph context) in
theorem steps_walk (limit : Nat) (v : Visit σ) :
    (walk backend graph context limit v.node v.bindings v.generator v.world).1.steps =
      (visits backend graph context limit v).filterMap (·.step? backend graph context) := by
  induction limit, v using walk_induction backend graph context with
  | zero v => rfl
  | last limit v hnext =>
    rw [walk_of_next?_eq_none hnext, visits_of_next?_eq_none hnext]
    simp only [Visit.result, List.filterMap_cons, List.filterMap_nil]
    cases v.step? backend graph context <;> rfl
  | next limit v w hnext ih =>
    obtain ⟨step, hstep, hwalk⟩ := walk_of_next?_eq_some hnext limit
    rw [hwalk, visits_of_next?_eq_some hnext, List.filterMap_cons_some hstep, ← ih]
    rfl

variable (backend graph context) in
theorem bindings_walk (limit : Nat) (v : Visit σ) :
    (walk backend graph context limit v.node v.bindings v.generator v.world).1.bindings =
      (visits backend graph context limit v).foldl
        (fun bindings w => Entries.merge bindings (w.writes backend graph context)) v.bindings := by
  induction limit, v using walk_induction backend graph context with
  | zero v => rfl
  | last limit v hnext =>
    rw [walk_of_next?_eq_none hnext, visits_of_next?_eq_none hnext]
    rfl
  | next limit v w hnext ih =>
    obtain ⟨step, -, hwalk⟩ := walk_of_next?_eq_some hnext limit
    rw [hwalk, visits_of_next?_eq_some hnext, List.foldl_cons, ← bindings_of_next?_eq_some hnext, ← ih]
    rfl

/-- What a visit of a walk leaves, and every call keeps, the walk leaves. -/
theorem walk_keeps_of_mem {I : σ → Prop} (h : backend.Keeps I) {limit : Nat} {v u : Visit σ}
    (hu : u ∈ visits backend graph context limit v) (hleaves : I (u.leaves backend graph context)) :
    I (walk backend graph context limit v.node v.bindings v.generator v.world).2 := by
  induction limit, v using walk_induction backend graph context with
  | zero v => cases hu
  | last limit v hnext =>
    rw [visits_of_next?_eq_none hnext, List.mem_singleton] at hu
    subst hu
    rw [walk_of_next?_eq_none hnext]
    exact hleaves
  | next limit v w hnext ih =>
    rw [visits_of_next?_eq_some hnext, List.mem_cons] at hu
    obtain ⟨step, -, hwalk⟩ := walk_of_next?_eq_some hnext limit
    rw [hwalk]
    rcases hu with rfl | hu
    · refine walk_keeps h graph context limit w.node w.bindings w.generator ?_
      rw [world_of_next?_eq_some hnext]
      exact hleaves
    · exact ih hu

variable (backend graph context) in
theorem visits_take {limit larger : Nat} (h : limit ≤ larger) (v : Visit σ) :
    visits backend graph context limit v = (visits backend graph context larger v).take limit := by
  induction limit, v using walk_induction backend graph context generalizing larger with
  | zero v => rfl
  | last limit v hnext =>
    obtain ⟨larger, rfl⟩ : ∃ n, larger = n + 1 := ⟨larger - 1, by omega⟩
    rw [visits_of_next?_eq_none hnext, visits_of_next?_eq_none hnext, List.take_succ_cons, List.take_nil]
  | next limit v w hnext ih =>
    obtain ⟨larger, rfl⟩ : ∃ n, larger = n + 1 := ⟨larger - 1, by omega⟩
    rw [visits_of_next?_eq_some hnext, visits_of_next?_eq_some hnext, List.take_succ_cons,
      ih (Nat.le_of_succ_le_succ h)]

variable (backend graph context) in
theorem length_visits_le (limit : Nat) (v : Visit σ) :
    (visits backend graph context limit v).length ≤ limit := by
  rw [visits_take backend graph context (Nat.le_refl limit) v]
  exact List.length_take_le ..

variable (backend context) in
/-- Every node that a walk visits is the one that its identifier means. -/
theorem find?_of_mem_visits (limit : Nat) {v : Visit σ} (hfind : graph.find? v.node.id = some v.node) :
    ∀ u ∈ visits backend graph context limit v, graph.find? u.node.id = some u.node := by
  induction limit, v using walk_induction backend graph context with
  | zero v =>
    intro u hu
    cases hu
  | last limit v hnext =>
    intro u hu
    rw [visits_of_next?_eq_none hnext, List.mem_singleton] at hu
    rw [hu]
    exact hfind
  | next limit v w hnext ih =>
    intro u hu
    rw [visits_of_next?_eq_some hnext, List.mem_cons] at hu
    rcases hu with rfl | hu
    · exact hfind
    · exact ih (find?_of_next?_eq_some hnext) u hu

variable (backend graph context) in
theorem isChain_visits (limit : Nat) (v : Visit σ) :
    (visits backend graph context limit v).IsChain fun v w => v.next? backend graph context = some w := by
  induction limit, v using walk_induction backend graph context with
  | zero v => exact .nil
  | last limit v hnext =>
    rw [visits_of_next?_eq_none hnext]
    exact .singleton v
  | next limit v w hnext ih =>
    rw [visits_of_next?_eq_some hnext]
    cases limit with
    | zero => exact .singleton v
    | succ limit =>
      rw [visits] at ih ⊢
      exact .cons_cons hnext ih

end

/-! ## Commands of one node -/

/-- A command that does one thing. -/
def solo (behavior : Behavior) : Graph where
  nodes := [⟨"begin", ⟨.zero, .zero⟩, .start ""⟩, ⟨"only", ⟨.zero, .zero⟩, behavior⟩]
  edges := [{ id := "1", source := "begin", target := "only" }]

theorem run_solo_of_error (backend : Backend σ) (context : Context) {behavior : Behavior} {generator after : Generator}
    {fault : Fault} {limit : Int} (hlimit : 3 ≤ limit) (world : σ)
    (h : (Node.mk "only" ⟨.zero, .zero⟩ behavior).outcome context.initialVariables context [] generator =
      (.error fault, after)) :
    run backend (solo behavior) context limit generator world =
      (.ok ⟨.failed,
        [⟨"begin", .start, .success (.text "Command execution started")⟩,
          ⟨"only", behavior.type, .error fault.message⟩],
        context.initialVariables, some ⟨"only", behavior.type, fault⟩⟩, world) := by
  obtain ⟨n, hn⟩ : ∃ n, limit.toNat = n + 3 := ⟨limit.toNat - 3, by omega⟩
  let begin : Visit σ := ⟨⟨"begin", ⟨.zero, .zero⟩, .start ""⟩, context.initialVariables, generator, world⟩
  let only : Visit σ := ⟨⟨"only", ⟨.zero, .zero⟩, behavior⟩, context.initialVariables, generator, world⟩
  have hfirst : first? (solo behavior) = some begin.node := rfl
  have hnext : begin.next? backend (solo behavior) context = some only := rfl
  have hstep : begin.step? backend (solo behavior) context =
      some ⟨"begin", .start, .success (.text "Command execution started")⟩ := rfl
  have hfails : only.node.outcome only.bindings context (solo behavior).declarations only.generator =
    (.error fault, after) := h
  obtain ⟨hreply, hleaves⟩ := Visit.of_error backend hfails
  rw [run_eq_walk backend context generator world hfirst (by omega), hn,
    walk_of_step? (v := begin) hnext hstep, walk_of_raised (v := only) hreply, hleaves]
  rfl

end CommandFlow.Run
