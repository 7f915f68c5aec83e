import CommandFlow.Proofs.Random
import CommandFlow.Proofs.Run.Bindings
import CommandFlow.Proofs.Run.Extension
import CommandFlow.Proofs.Run.Outcome
import CommandFlow.Proofs.Value.Length
import CommandFlow.Run.Simulation

/-!
# Random numbers in a run

A node that draws a random number takes its bounds in either order.

* `Graph.IsExchange` : the bounds of some draws of a graph are exchanged;
* `Draw.outcome_exchanged`, `Node.IsExchange.outcome_eq` : a node asks for the same, and leaves the same generator;
* `Graph.IsExchange.find?`, `Run.successor?_exchange` : and it leads to the same place;
* `Run.walk_exchange`, `Run.run_exchange` : so walks and runs are the same;
* `Draw.exists_value` : a number between the bounds is drawn; `Run.exists_value_of_visit` : and written by the visit;
* `simulate_draws` : both for every simulation.
-/

namespace CommandFlow

/-! ## Bounds in either order -/

/-- The draw with its bounds in the other order. -/
def Draw.exchanged (draw : Draw) : Draw := { draw with least := draw.most, most := draw.least }

/-- The node with the bounds of its draw in the other order, if it draws a random number. -/
def Node.exchanged (node : Node) : Node :=
  { node with behavior :=
    match node.behavior with
    | .random draw => .random draw.exchanged
    | behavior => behavior }

/-- The other node is the same, up to the order of the bounds of its draw. -/
def Node.IsExchange (node other : Node) : Prop := other = node ∨ other = node.exchanged

/-- The other graph is the same, up to the order of the bounds of some of its draws. -/
structure Graph.IsExchange (graph other : Graph) : Prop where
  nodes : List.Forall₂ Node.IsExchange graph.nodes other.nodes
  edges : other.edges = graph.edges
  declarations : other.declarations = graph.declarations

theorem Draw.outcome_exchanged (draw : Draw) (generator : Generator) :
    draw.exchanged.outcome generator = draw.outcome generator := by
  unfold Draw.outcome Draw.exchanged
  rw [Int.min_comm draw.most, Int.max_comm draw.most]

theorem Node.id_exchanged (node : Node) : node.exchanged.id = node.id := rfl

theorem Node.type_exchanged (node : Node) : node.exchanged.type = node.type := by
  unfold Node.exchanged Node.type
  cases node.behavior <;> rfl

/-- The order of the bounds matters neither for what a node asks for nor for the generator that it leaves. -/
theorem Node.outcome_exchanged (node : Node) (bindings : Variables) (context : Context)
    (declared : Entries Declaration) (generator : Generator) :
    node.exchanged.outcome bindings context declared generator =
      node.outcome bindings context declared generator := by
  cases node with
  | mk id position behavior =>
    cases behavior with
    | random draw =>
      show draw.exchanged.outcome generator = _
      rw [draw.outcome_exchanged]
      rfl
    | _ => rfl

section
variable {node other : Node} (h : node.IsExchange other)
include h

theorem Node.IsExchange.id_eq : other.id = node.id := by
  rcases h with rfl | rfl
  · rfl
  · exact node.id_exchanged

theorem Node.IsExchange.type_eq : other.type = node.type := by
  rcases h with rfl | rfl
  · rfl
  · exact node.type_exchanged

theorem Node.IsExchange.outcome_eq (bindings : Variables) (context : Context)
    (declared : Entries Declaration) (generator : Generator) :
    other.outcome bindings context declared generator = node.outcome bindings context declared generator := by
  rcases h with rfl | rfl
  · rfl
  · exact node.outcome_exchanged bindings context declared generator

end

/-! ## Graphs -/

/-- The first of the nodes with a property that does not depend on the order of bounds. -/
theorem find?_exchange {nodes others : List Node} (h : List.Forall₂ Node.IsExchange nodes others)
    {p : Node → Bool} (hp : ∀ {node other}, Node.IsExchange node other → p other = p node) :
    Option.Rel Node.IsExchange (nodes.find? p) (others.find? p) := by
  induction h with
  | nil => exact .none
  | @cons node other nodes others hnode hrest ih =>
    rw [List.find?_cons, List.find?_cons, hp hnode]
    cases p node with
    | true => exact .some hnode
    | false => exact ih

namespace Graph.IsExchange

variable {graph other : Graph} (h : graph.IsExchange other)
include h

theorem find? (id : String) : Option.Rel Node.IsExchange (graph.find? id) (other.find? id) :=
  find?_exchange h.nodes fun hnode => by rw [hnode.id_eq]

theorem outgoing_eq (id : String) : other.outgoing id = graph.outgoing id := by
  unfold Graph.outgoing
  rw [h.edges]

theorem head?_starts : Option.Rel Node.IsExchange graph.starts.head? other.starts.head? := by
  unfold Graph.starts
  rw [List.head?_filter, List.head?_filter]
  exact find?_exchange h.nodes fun hnode => by rw [hnode.type_eq]

end Graph.IsExchange

namespace Run

section
variable {graph other : Graph} (h : graph.IsExchange other)
include h

theorem first?_exchange : Option.Rel Node.IsExchange (first? graph) (first? other) := by
  have hstart := h.head?_starts
  unfold first?
  revert hstart
  cases graph.starts.head? <;> cases other.starts.head? <;> rintro ⟨⟩
  · exact .none
  · rename_i start start' hstart
    show Option.Rel _ (graph.find? start.id) (other.find? start'.id)
    rw [hstart.id_eq]
    exact h.find? start.id

theorem successor?_exchange {node node' : Node} (hnode : node.IsExchange node') (branch : Option String) :
    Option.Rel Node.IsExchange (successor? graph node branch) (successor? other node' branch) := by
  unfold successor?
  rw [hnode.type_eq, hnode.id_eq, h.outgoing_eq]
  cases route node.type (graph.outgoing node.id) branch with
  | none => exact .none
  | some edge => exact h.find? edge.target

variable {σ : Type} (backend : Backend σ) (context : Context)

theorem visit_exchange {node node' : Node} (hnode : node.IsExchange node') (bindings : Variables)
    (generator : Generator) (world : σ) :
    visit backend other context node' bindings generator world =
      visit backend graph context node bindings generator world := by
  unfold visit
  rw [h.declarations, hnode.outcome_eq]

/-- A walk does not depend on the order of bounds. -/
theorem walk_exchange (limit : Nat) {node node' : Node} (hnode : node.IsExchange node')
    (bindings : Variables) (generator : Generator) (world : σ) :
    walk backend other context limit node' bindings generator world =
      walk backend graph context limit node bindings generator world := by
  induction limit generalizing node node' bindings generator world with
  | zero => rfl
  | succ limit ih =>
    rw [walk, walk, visit_exchange h backend context hnode, hnode.id_eq, hnode.type_eq]
    obtain ⟨⟨reply, world⟩, generator⟩ := visit backend graph context node bindings generator world
    cases reply with
    | expired => rfl
    | raised fault => rfl
    | done answer =>
      obtain ⟨outcome, writes⟩ := answer
      dsimp only
      split
      · rfl
      · have hnext := successor?_exchange h hnode outcome.branch
        revert hnext
        cases successor? graph node outcome.branch <;> cases successor? other node' outcome.branch <;>
          rintro ⟨⟩
        · rfl
        · rename_i next next' hnext
          dsimp only
          rw [ih hnext]

theorem run_exchange (limit : Int) (generator : Generator) (world : σ) :
    run backend other context limit generator world = run backend graph context limit generator world := by
  have hfirst := first?_exchange h
  unfold run
  revert hfirst
  cases first? graph <;> cases first? other <;> rintro ⟨⟩
  · rfl
  · rename_i node node' hnode
    dsimp only
    rw [walk_exchange h backend context limit.toNat hnode]

end

end Run

/-! ## The number that is drawn -/

/-- Neither bound is too long for a text. -/
def Draw.IsShort (draw : Draw) : Prop := Value.IsShort draw.least ∧ Value.IsShort draw.most

instance (draw : Draw) : Decidable draw.IsShort := inferInstanceAs (Decidable (_ ∧ _))

def Draw.report (draw : Draw) (value : Int) : Value :=
  let form := Value.integerText
  .text s!"Generated random number: {form value} ({form (min draw.least draw.most)}-{form (max draw.least draw.most)})"

theorem drawOutcome_of_isShort {least most value : Int} (hvalue : Value.IsShort value) (hleast : Value.IsShort least)
    (hmost : Value.IsShort most) (target : String) :
    ∃ detail, drawOutcome target least most value = .ok { bindings := [(target, .int value)], detail } ∧
      detail = let form := Value.integerText
        .text s!"Generated random number: {form value} ({form least}-{form most})" := by
  rw [drawOutcome, Value.write_int hvalue, Value.write_int hleast, Value.write_int hmost]
  exact ⟨_, rfl, rfl⟩

theorem drawOutcome_of_not_isShort {least most : Int} (value : Int)
    (h : ¬ (Value.IsShort least ∧ Value.IsShort most)) (target : String) :
    drawOutcome target least most value = .error .integerTooLong := by
  have hlong {i : Int} (hi : ¬ Value.IsShort i) : inRange (Value.int i).write = .error .integerTooLong := by
    rw [Value.write_int_of_not_isShort hi]
    rfl
  have hshort {i : Int} (hi : Value.IsShort i) : inRange (Value.int i).write = .ok (Value.integerText i) := by
    rw [Value.write_int hi]
    rfl
  by_cases hvalue : Value.IsShort value
  swap
  · rw [drawOutcome, hlong hvalue]
    rfl
  by_cases hleast : Value.IsShort least
  · rw [drawOutcome, hshort hvalue, hshort hleast, hlong fun hmost => h ⟨hleast, hmost⟩]
    rfl
  · rw [drawOutcome, hshort hvalue, hlong hleast]
    rfl

theorem Draw.outcome_fst (draw : Draw) (generator : Generator) :
    (draw.outcome generator).1 = drawOutcome draw.target (min draw.least draw.most) (max draw.least draw.most)
      (generator.between (min draw.least draw.most) (max draw.least draw.most)).1 := by
  simp only [Draw.outcome]

/-- A draw whose bounds are not too long writes a number between them, in whichever order they are; any other fails. -/
theorem Draw.exists_value (draw : Draw) (generator : Generator) :
    (draw.IsShort → ∃ value : Int, min draw.least draw.most ≤ value ∧ value ≤ max draw.least draw.most ∧
      (draw.outcome generator).1 = .ok { bindings := [(draw.target, .int value)], detail := draw.report value }) ∧
    (¬ draw.IsShort → (draw.outcome generator).1 = .error .integerTooLong) := by
  have hle : min draw.least draw.most ≤ max draw.least draw.most := by omega
  have hbetween := Generator.between_mem hle generator
  have hsorted : draw.IsShort ↔
      Value.IsShort (min draw.least draw.most) ∧ Value.IsShort (max draw.least draw.most) := by
    rw [Draw.IsShort]
    rcases le_total draw.least draw.most with h | h
    · rw [min_eq_left h, max_eq_right h]
    · rw [min_eq_right h, max_eq_left h, and_comm]
  rw [draw.outcome_fst]
  constructor
  · intro hshort
    obtain ⟨hleast, hmost⟩ := hsorted.mp hshort
    obtain ⟨detail, houtcome, rfl⟩ :=
      drawOutcome_of_isShort (hleast.of_mem hmost hbetween) hleast hmost draw.target
    exact ⟨_, hbetween.1, hbetween.2, houtcome⟩
  · exact fun hlong => drawOutcome_of_not_isShort _ (hsorted.not.mp hlong) draw.target

namespace Run

variable {σ : Type}

/-- A visit of a node that draws a number writes it, whatever the outside world does, unless a bound is too long. -/
theorem exists_value_of_visit (backend : Backend σ) (graph : Graph) (context : Context) {v : Visit σ}
    {draw : Draw} (h : v.node.behavior = .random draw) :
    (draw.IsShort → ∃ value : Int, min draw.least draw.most ≤ value ∧ value ≤ max draw.least draw.most ∧
      v.writes backend graph context = [(draw.target, .int value)] ∧
      v.step? backend graph context = some ⟨v.node.id, .random, .success (draw.report value)⟩) ∧
    (¬ draw.IsShort → v.writes backend graph context = [] ∧
      v.step? backend graph context = some ⟨v.node.id, .random, .error (Fault.message .integerTooLong)⟩) := by
  have hnode : v.node.outcome v.bindings context graph.declarations v.generator = draw.outcome v.generator := by
    rw [Node.outcome, h]
  have htype : v.node.type = .random := by rw [Node.type, h]; rfl
  obtain ⟨hshort, hlong⟩ := draw.exists_value v.generator
  constructor
  · intro hdraw
    obtain ⟨value, hleast, hmost, houtcome⟩ := hshort hdraw
    have hreply := (Visit.of_outcome backend (hnode.trans (Prod.ext houtcome rfl))).1
    refine ⟨value, hleast, hmost, ?_, ?_⟩
    · rw [Visit.writes, hreply]
      rfl
    · rw [Visit.step?, hreply, htype]
      rfl
  · intro hdraw
    have hreply := (Visit.of_error backend (hnode.trans (Prod.ext (hlong hdraw) rfl))).1
    refine ⟨?_, ?_⟩
    · rw [Visit.writes, hreply]
    · rw [Visit.step?, hreply, htype]

end Run

/-! ## Simulations -/

theorem simulate_exchange (settings : Simulation.Settings) {graph other : Graph} (h : graph.IsExchange other)
    (context : Context) (generator : Generator) :
    simulate settings other context generator = simulate settings graph context generator := by
  unfold simulate
  rw [Run.run_exchange h]

/-- A simulation is the same in whichever order the bounds of draws stand. At every visit of a draw whose bounds are not
too long for a text it writes an integer between them; a visit of any other draw fails and writes nothing. The steps and
the variables of the simulation are those of its visits. -/
theorem simulate_draws (settings : Simulation.Settings) {graph : Graph} (context : Context)
    (generator : Generator) (hstarts : graph.starts ≠ []) :
    (∀ other, graph.IsExchange other →
      simulate settings other context generator = simulate settings graph context generator) ∧
    (settings.limit < 1 → simulate settings graph context generator = .error .limitTooLow) ∧
    (1 ≤ settings.limit → ∃ simulated, simulate settings graph context generator = .ok simulated ∧
      let backend := Simulation.backend settings
      let visits := Run.course backend graph context settings.limit generator {}
      simulated.result.steps = visits.filterMap (·.step? backend graph context) ∧
      simulated.result.bindings = visits.foldl
        (fun bindings v => Entries.merge bindings (v.writes backend graph context)) context.initialVariables ∧
      ∀ v ∈ visits, graph.find? v.node.id = some v.node ∧ ∀ draw, v.node.behavior = .random draw →
        (draw.IsShort → ∃ value : Int, min draw.least draw.most ≤ value ∧ value ≤ max draw.least draw.most ∧
          v.writes backend graph context = [(draw.target, .int value)] ∧
          v.step? backend graph context = some ⟨v.node.id, .random, .success (draw.report value)⟩) ∧
        (¬ draw.IsShort → v.writes backend graph context = [] ∧
          v.step? backend graph context = some ⟨v.node.id, .random, .error (Fault.message .integerTooLong)⟩)) := by
  refine ⟨fun other h => simulate_exchange settings h context generator, fun hlimit => ?_, fun hlimit => ?_⟩
  · exact simulate_eq_error
      (Run.run_eq_limitTooLow (Simulation.backend settings) context generator {} hstarts hlimit)
  obtain ⟨-, node, -, hfirst, -⟩ := Run.exists_first?_eq_some hstarts
  have hrun := Run.run_eq_walk (Simulation.backend settings) context generator {} hfirst hlimit
  refine ⟨_, simulate_eq_ofRun hrun, ?_⟩
  intro backend visits
  let first : Run.Visit Simulation.World := ⟨node, context.initialVariables, generator, {}⟩
  have hvisits : visits = Run.visits backend graph context settings.limit.toNat first :=
    Run.course_of_first? hfirst settings.limit generator ({} : Simulation.World)
  rw [hvisits]
  refine ⟨?_, ?_, fun v hv => ⟨?_, fun draw hdraw => ?_⟩⟩
  · exact Run.steps_walk backend graph context settings.limit.toNat first
  · exact Run.bindings_walk backend graph context settings.limit.toNat first
  · exact Run.find?_of_mem_visits backend context _ (Run.find?_of_first? hfirst) v hv
  · exact Run.exists_value_of_visit backend graph context hdraw

namespace Run

/-- Two draws in turn, the first one with its greater bound in front, and bounds that take several words. -/
def lottery : Graph where
  nodes := [⟨"begin", ⟨.zero, .zero⟩, .start ""⟩,
    ⟨"draw", ⟨.zero, .zero⟩, .random ⟨100000000000000000000, -100000000000000000000, "prize"⟩⟩,
    ⟨"again", ⟨.zero, .zero⟩, .random ⟨1, 6, "die"⟩⟩]
  edges := [{ id := "1", source := "begin", target := "draw" },
    { id := "2", source := "draw", target := "again" },
    { id := "3", source := "again", target := "draw" }]

/-- The same with the bounds of the first draw in the other order. -/
def exchangedLottery : Graph :=
  { lottery with nodes := lottery.nodes.map fun node => if node.id = "draw" then node.exchanged else node }

end Run

theorem simulate_draws_lottery :
    Run.lottery.starts ≠ [] ∧ Run.lottery.IsExchange Run.exchangedLottery ∧ (1 : Int) ≤ 4 ∧
    simulate { limit := 4 } Run.exchangedLottery .standIn (.ofSeed 7) =
      simulate { limit := 4 } Run.lottery .standIn (.ofSeed 7) ∧
    ∃ simulated, simulate { limit := 4 } Run.lottery .standIn (.ofSeed 7) = .ok simulated ∧
      let backend := Simulation.backend { limit := 4 }
      let visits := Run.course backend Run.lottery .standIn 4 (.ofSeed 7) {}
      simulated.result.steps = visits.filterMap (·.step? backend Run.lottery .standIn) ∧
      simulated.result.bindings = visits.foldl
        (fun bindings v => Entries.merge bindings (v.writes backend Run.lottery .standIn))
        Context.standIn.initialVariables ∧
      ∀ v ∈ visits, Run.lottery.find? v.node.id = some v.node ∧ ∀ draw, v.node.behavior = .random draw →
        ∃ value : Int, min draw.least draw.most ≤ value ∧ value ≤ max draw.least draw.most ∧
          v.writes backend Run.lottery .standIn = [(draw.target, .int value)] ∧
          v.step? backend Run.lottery .standIn = some ⟨v.node.id, .random, .success (draw.report value)⟩ := by
  have hstarts : Run.lottery.starts ≠ [] := by decide
  have hexchange : Run.lottery.IsExchange Run.exchangedLottery :=
    ⟨.cons (.inl rfl) (.cons (.inr rfl) (.cons (.inl rfl) .nil)), rfl, rfl⟩
  have hshort : ∀ node ∈ Run.lottery.nodes, ∀ draw, node.behavior = .random draw → draw.IsShort := by
    simp only [Run.lottery, List.forall_mem_cons, Behavior.random.injEq, forall_eq', reduceCtorEq, false_implies,
      implies_true, true_and]
    exact ⟨by decide, by decide, by simp⟩
  obtain ⟨hsame, -, hdraws⟩ := simulate_draws { limit := 4 } .standIn (.ofSeed 7) hstarts
  obtain ⟨simulated, hsimulated, hsteps, hbindings, hvisits⟩ := hdraws (by decide)
  refine ⟨hstarts, hexchange, by decide, hsame Run.exchangedLottery hexchange, simulated, hsimulated, hsteps, hbindings,
    fun v hv => ⟨(hvisits v hv).1, fun draw hdraw => ?_⟩⟩
  have hnode : v.node ∈ Run.lottery.nodes := List.mem_of_find?_eq_some (hvisits v hv).1
  exact ((hvisits v hv).2 draw hdraw).1 (hshort v.node hnode draw hdraw)

/-- A command that only draws a number fails if a bound is too long for a text. -/
theorem simulate_solo_draw {draw : Draw} (h : ¬ draw.IsShort) (generator : Generator) :
    ∃ simulated, simulate {} (Run.solo (.random draw)) .standIn generator = .ok simulated ∧
      simulated.result.path = ["begin", "only"] ∧ simulated.result.status = .failed ∧
      simulated.result.bindings = [] := by
  have hnode : (Node.mk "only" ⟨.zero, .zero⟩ (.random draw)).outcome Context.standIn.initialVariables .standIn []
      generator = draw.outcome generator := rfl
  have hrun := Run.run_solo_of_error (Simulation.backend {}) .standIn (show (3 : Int) ≤ 1000 by decide) {}
    (hnode.trans (Prod.ext ((draw.exists_value generator).2 h) rfl))
  exact ⟨_, simulate_eq_ofRun hrun, rfl, rfl, rfl⟩

/-- A draw between a number of 4301 digits and itself: the node is visited, and no number is written. -/
theorem simulate_draw_unwritten :
    ∃ simulated,
      simulate {} (Run.solo (.random ⟨Value.leastLong, Value.leastLong, "prize"⟩)) .standIn (.ofSeed 0) =
        .ok simulated ∧
      simulated.result.path = ["begin", "only"] ∧ simulated.result.status = .failed ∧
      simulated.result.bindings = [] :=
  simulate_solo_draw (fun h => Value.not_isShort_leastLong h.1) (.ofSeed 0)

end CommandFlow
