import CommandFlow.Proofs.Run.Calls

/-!
# The limit of a run

A run with a lower limit is the beginning of the run with a larger one.

* `Run.steps_take` : with a lower limit a walk makes the first of the same steps; `Run.walk_of_le` : and the same
  walk if it does not reach its limit;
* `Run.status_walk` : a walk reaches its limit just if it makes as many steps;
* `Run.Gives` : what a run gives, with its visits and its calls; `Run.exists_gives_of_le` : what runs with two
  limits give.
-/

namespace CommandFlow.Run

variable {σ : Type}

/-! ## Walks with two limits -/

section
variable {backend : Backend σ} {graph : Graph} {context : Context}

variable (backend graph context) in
theorem Visit.status_ne_stepLimit (v : Visit σ) : v.status backend graph context ≠ .stepLimit := by
  rw [Visit.status]
  split
  · split <;> simp
  · simp
  · simp

theorem Visit.step?_eq_none_iff (v : Visit σ) :
    v.step? backend graph context = none ↔ v.status backend graph context = .expired := by
  rw [Visit.step?, Visit.status]
  split
  · split <;> simp
  · simp
  · simp

variable (backend graph context) in
theorem Visit.length_step?_le (v : Visit σ) : (v.step? backend graph context).toList.length ≤ 1 := by
  cases v.step? backend graph context <;> simp

variable (backend graph context) in
/-- With a lower limit a walk makes the first of the same steps. -/
theorem steps_take {limit larger : Nat} (h : limit ≤ larger) (v : Visit σ) :
    (walk backend graph context limit v.node v.bindings v.generator v.world).1.steps =
      (walk backend graph context larger v.node v.bindings v.generator v.world).1.steps.take limit := by
  induction limit, v using walk_induction backend graph context generalizing larger with
  | zero v => rfl
  | last limit v hnext =>
    obtain ⟨larger, rfl⟩ : ∃ n, larger = n + 1 := ⟨larger - 1, by omega⟩
    have hlength := v.length_step?_le backend graph context
    have htake : (v.step? backend graph context).toList.length ≤ limit + 1 := by omega
    rw [walk_of_next?_eq_none hnext, walk_of_next?_eq_none hnext]
    exact (List.take_of_length_le htake).symm
  | next limit v w hnext ih =>
    obtain ⟨larger, rfl⟩ : ∃ n, larger = n + 1 := ⟨larger - 1, by omega⟩
    obtain ⟨step, hstep, hwalk⟩ := walk_of_next?_eq_some hnext limit
    have hlarger := walk_of_step? hnext hstep larger
    have hrest := ih (Nat.le_of_succ_le_succ h)
    rw [hwalk, hlarger]
    simp only [Result.after, List.take_succ_cons, hrest]

variable (backend graph context) in
/-- A walk reaches its limit just if it makes as many steps. -/
theorem status_walk (limit : Nat) (v : Visit σ) :
    (walk backend graph context limit v.node v.bindings v.generator v.world).1.status = .stepLimit ↔
      (walk backend graph context limit v.node v.bindings v.generator v.world).1.steps.length = limit := by
  induction limit, v using walk_induction backend graph context with
  | zero v => simp [walk]
  | last limit v hnext =>
    have hstatus := v.status_ne_stepLimit backend graph context
    rw [walk_of_next?_eq_none hnext]
    simp only [Visit.result]
    cases v.step? backend graph context with
    | none => simp [hstatus]
    | some step => by_cases hlimit : limit = 0 <;> simp [hlimit, hstatus]
  | next limit v w hnext ih =>
    obtain ⟨step, -, hwalk⟩ := walk_of_next?_eq_some hnext limit
    rw [hwalk]
    simp only [Result.after, List.length_cons, Nat.add_right_cancel_iff]
    exact ih

/-- A walk that does not reach its limit is the same with a larger one. -/
theorem walk_of_le {limit larger : Nat} {v : Visit σ} (h : limit ≤ larger)
    (hstatus : (walk backend graph context limit v.node v.bindings v.generator v.world).1.status ≠
      .stepLimit) :
    walk backend graph context larger v.node v.bindings v.generator v.world =
        walk backend graph context limit v.node v.bindings v.generator v.world ∧
      visits backend graph context larger v = visits backend graph context limit v := by
  induction limit, v using walk_induction backend graph context generalizing larger with
  | zero v => exact absurd rfl hstatus
  | last limit v hnext =>
    obtain ⟨larger, rfl⟩ : ∃ n, larger = n + 1 := ⟨larger - 1, by omega⟩
    rw [walk_of_next?_eq_none hnext] at hstatus
    have hshort : ¬ (limit = 0 ∧ (v.step? backend graph context).isSome) := by
      intro hlast
      exact hstatus (by rw [Visit.result, if_pos hlast])
    have hlong : ¬ (larger = 0 ∧ (v.step? backend graph context).isSome) := by
      rintro ⟨hzero, hstep⟩
      exact hshort ⟨by omega, hstep⟩
    rw [walk_of_next?_eq_none hnext, walk_of_next?_eq_none hnext, visits_of_next?_eq_none hnext,
      visits_of_next?_eq_none hnext, Visit.result, Visit.result, if_neg hshort, if_neg hlong]
    exact ⟨rfl, rfl⟩
  | next limit v w hnext ih =>
    obtain ⟨larger, rfl⟩ : ∃ n, larger = n + 1 := ⟨larger - 1, by omega⟩
    obtain ⟨step, hstep, hwalk⟩ := walk_of_next?_eq_some hnext limit
    have hlarger := walk_of_step? hnext hstep larger
    rw [hwalk] at hstatus
    obtain ⟨hrest, hvisits⟩ := ih (Nat.le_of_succ_le_succ h) hstatus
    rw [hwalk, hlarger, visits_of_next?_eq_some hnext, visits_of_next?_eq_some hnext, hrest, hvisits]
    exact ⟨rfl, rfl⟩

variable (backend graph context) in
/-- Every visit leaves a step, unless the time is up in the last one. -/
theorem length_steps_walk (limit : Nat) (v : Visit σ)
    (h : (walk backend graph context limit v.node v.bindings v.generator v.world).1.status ≠ .expired) :
    (walk backend graph context limit v.node v.bindings v.generator v.world).1.steps.length =
      (visits backend graph context limit v).length := by
  induction limit, v using walk_induction backend graph context with
  | zero v => rfl
  | last limit v hnext =>
    rw [walk_of_next?_eq_none hnext, Visit.result] at h
    rw [walk_of_next?_eq_none hnext, visits_of_next?_eq_none hnext, Visit.result]
    cases hstep : v.step? backend graph context with
    | none =>
      have hexpired := v.step?_eq_none_iff.mp hstep
      simp [hstep, hexpired] at h
    | some step => rfl
  | next limit v w hnext ih =>
    obtain ⟨step, -, hwalk⟩ := walk_of_next?_eq_some hnext limit
    rw [hwalk] at h
    have hrest := ih h
    rw [hwalk, visits_of_next?_eq_some hnext]
    simp only [Result.after, List.length_cons, hrest]

/-- The first visits of a walk make its first steps, as many. -/
theorem filterMap_step?_of_visits {limit : Nat} {v : Visit σ} {before rest : List (Visit σ)}
    (h : (walk backend graph context limit v.node v.bindings v.generator v.world).1.status ≠ .expired)
    (hvisits : visits backend graph context limit v = before ++ rest) :
    before.filterMap (·.step? backend graph context) =
      (walk backend graph context limit v.node v.bindings v.generator v.world).1.steps.take
        before.length := by
  have hlength := length_steps_walk backend graph context limit v h
  rw [steps_walk] at hlength ⊢
  have hstep := List.filterMap_length_eq_length.mp hlength
  have hbefore : (before.filterMap (·.step? backend graph context)).length = before.length :=
    List.filterMap_length_eq_length.mpr fun u hu => hstep u (hvisits ▸ List.mem_append_left rest hu)
  rw [hvisits, List.filterMap_append, ← hbefore, List.take_left]

end

/-! ## Runs with two limits -/

section
variable (backend : Backend σ) (graph : Graph) (context : Context) (generator : Generator) (world : σ)

/-- The run with the limit has the result, makes the calls and leaves the world. It makes at most as many
visits as the limit allows; its steps and its calls are those of its visits, in order, and every visit leaves a
step, unless the time is up in the last one. -/
structure Gives (limit : Int) (result : Result) (calls : List Event) (after : σ) : Prop where
  plain : run backend graph context limit generator world = (.ok result, after)
  logged : run backend.logged graph context limit generator (world, []) = (.ok result, after, calls)
  length : ((course backend graph context limit generator world).length : Int) ≤ limit
  steps : result.steps =
    (course backend graph context limit generator world).filterMap (·.step? backend graph context)
  executed : result.status ≠ .expired →
    result.steps.length = (course backend graph context limit generator world).length
  calls : calls =
    (course backend graph context limit generator world).flatMap (·.calls backend graph context)

theorem gives_walk {node : Node} (hfirst : first? graph = some node) {limit : Int} (hlimit : 1 ≤ limit) :
    let v : Visit σ := ⟨node, context.initialVariables, generator, world⟩
    Gives backend graph context generator world limit
      (walk backend graph context limit.toNat v.node v.bindings v.generator v.world).1
      ((visits backend graph context limit.toNat v).flatMap (·.calls backend graph context))
      (walk backend graph context limit.toNat v.node v.bindings v.generator v.world).2 := by
  intro v
  have hcourse : course backend graph context limit generator world =
      visits backend graph context limit.toNat v := course_of_first? hfirst limit generator world
  have hlength := length_visits_le backend graph context limit.toNat v
  have hlogged := walk_logged backend graph context limit.toNat v []
  rw [List.nil_append] at hlogged
  refine ⟨run_eq_walk backend context generator world hfirst hlimit, ?_, ?_, ?_, ?_, ?_⟩
  · rw [run_eq_walk backend.logged context generator (world, []) hfirst hlimit]
    rw [show walk backend.logged graph context limit.toNat node context.initialVariables generator
      (world, []) = _ from hlogged]
  · rw [hcourse]
    omega
  · rw [hcourse]
    exact steps_walk backend graph context limit.toNat v
  · rw [hcourse]
    exact length_steps_walk backend graph context limit.toNat v
  · rw [hcourse]

/-- Of two runs of a graph with a start node, the one with the lower limit makes the first of the visits of the
other: as many steps as the limit allows, and the same calls for them. If it does not reach its limit the other
is the same in everything, and it reaches its limit just if it makes as many steps. -/
theorem exists_gives_of_le (hstarts : graph.starts ≠ []) {limit larger : Int} (hlimit : 1 ≤ limit)
    (hle : limit ≤ larger) :
    ∃ short long calls calls' after after',
      Gives backend graph context generator world limit short calls after ∧
      Gives backend graph context generator world larger long calls' after' ∧
      course backend graph context limit generator world =
        (course backend graph context larger generator world).take limit.toNat ∧
      short.steps = long.steps.take (min limit.toNat long.steps.length) ∧
      (short.status ≠ .stepLimit → long = short ∧ calls' = calls ∧ after' = after) ∧
      (short.status = .stepLimit ↔ (short.steps.length : Int) = limit) := by
  obtain ⟨-, node, -, hfirst, -⟩ := exists_first?_eq_some hstarts
  have hshort := gives_walk backend graph context generator world hfirst hlimit
  have hlong := gives_walk backend graph context generator world hfirst (Int.le_trans hlimit hle)
  have hnat : limit.toNat ≤ larger.toNat := by omega
  let v : Visit σ := ⟨node, context.initialVariables, generator, world⟩
  have hsteps := steps_take backend graph context hnat v
  have hstatus := status_walk backend graph context limit.toNat v
  refine ⟨_, _, _, _, _, _, hshort, hlong, ?_, ?_, ?_, ?_⟩
  · rw [course_of_first? hfirst, course_of_first? hfirst]
    exact visits_take backend graph context hnat v
  · rw [← List.take_eq_take_min]
    exact hsteps
  · intro hne
    obtain ⟨hwalk, hvisits⟩ := walk_of_le (v := v) hnat hne
    exact ⟨congrArg Prod.fst hwalk, by rw [hvisits], congrArg Prod.snd hwalk⟩
  · have hcast (n : Nat) : n = limit.toNat ↔ (n : Int) = limit := by omega
    exact hstatus.trans (hcast _)

theorem exists_gives_of_le_detour :
    detour.starts ≠ [] ∧ (1 : Int) ≤ 2 ∧ (2 : Int) ≤ 5 ∧
    ∃ short long calls calls' after after',
      Gives (Simulation.backend {}) detour .standIn (.ofSeed 0) {} 2 short calls after ∧
      Gives (Simulation.backend {}) detour .standIn (.ofSeed 0) {} 5 long calls' after' ∧
      course (Simulation.backend {}) detour .standIn 2 (.ofSeed 0) {} =
        (course (Simulation.backend {}) detour .standIn 5 (.ofSeed 0) {}).take (2 : Int).toNat ∧
      short.steps = long.steps.take (min (2 : Int).toNat long.steps.length) ∧
      (short.status ≠ .stepLimit → long = short ∧ calls' = calls ∧ after' = after) ∧
      (short.status = .stepLimit ↔ (short.steps.length : Int) = 2) :=
  ⟨List.cons_ne_nil _ _, by decide, by decide,
    exists_gives_of_le _ detour _ _ _ (List.cons_ne_nil _ _) (by decide) (by decide)⟩

end

end CommandFlow.Run
