import CommandFlow.Proofs.Run.Path

/-!
# The trail of a walk

The visits of a walk, the one in progress when its time is up included.

* `Run.Visit.leaves` : the world that a visit leaves;
* `Run.IsTrail` : the visits of a walk, each leading to the next, up to the world that the walk leaves;
* `Run.exists_isTrail_walk` : every walk has a trail.
-/

namespace CommandFlow.Run

variable {σ : Type}

section
variable (backend : Backend σ) (graph : Graph) (context : Context)

def Visit.leaves (v : Visit σ) : σ :=
  (visit backend graph context v.node v.bindings v.generator v.world).1.2

/-- The visits are those of a walk from `v`: each leads to the next, and the walk leaves the world that the
last one leaves. They are the path of its result, to which a last visit that is cut off adds nothing. -/
structure IsTrail (limit : Nat) (v : Visit σ) (visits : List (Visit σ)) (result : Result)
    (world : σ) : Prop where
  first : ∀ w ∈ visits.head?, w = v
  nonempty : visits = [] → limit = 0 ∧ world = v.world
  leads : visits.IsChain (Leads backend graph context)
  last : ∀ w ∈ visits.getLast?, w.leaves backend graph context = world
  path : result.status ≠ .expired → visits.map (·.node.id) = result.path
  cut : result.status = .expired → visits.dropLast.map (·.node.id) = result.path ∧
    ∃ w ∈ visits.getLast?, IsCut backend graph context w

end

section
variable {backend : Backend σ} {graph : Graph} {context : Context}

/-- A walk of a single visit that is not cut off. -/
theorem isTrail_singleton {limit : Nat} {v : Visit σ} {result : Result} {world : σ}
    (hleaves : v.leaves backend graph context = world) (hstatus : result.status ≠ .expired)
    (hpath : result.path = [v.node.id]) :
    IsTrail backend graph context limit v [v] result world where
  first := by simp
  nonempty := by simp
  leads := List.isChain_singleton v
  last := by simpa using hleaves
  path := fun _ => hpath.symm
  cut := fun h => absurd h hstatus

theorem IsTrail.cons {limit : Nat} {v w : Visit σ} {visits : List (Visit σ)} {step : Step}
    {result : Result} {world : σ} (h : IsTrail backend graph context limit w visits result world)
    (hleaves : v.leaves backend graph context = w.world)
    (hleads : Leads backend graph context v w) (hstep : step.nodeId = v.node.id) :
    IsTrail backend graph context (limit + 1) v (v :: visits) (result.after step) world := by
  cases visits with
  | nil =>
    have hworld : world = w.world := (h.nonempty rfl).2
    have hstatus : result.status ≠ .expired := by
      intro hexpired
      obtain ⟨-, u, hu, -⟩ := h.cut hexpired
      cases hu
    have hpath : result.path = [] := (h.path hstatus).symm
    refine isTrail_singleton (hleaves.trans hworld.symm) hstatus ?_
    show step.nodeId :: result.path = _
    rw [hpath, hstep]
  | cons u rest =>
    obtain rfl : u = w := h.first u rfl
    refine ⟨by simp, by simp, List.isChain_cons_cons.mpr ⟨hleads, h.leads⟩, ?_, ?_, ?_⟩
    · rw [List.getLast?_cons_cons]
      exact h.last
    · intro hstatus
      show v.node.id :: _ = step.nodeId :: result.path
      rw [hstep, ← h.path hstatus]
    · intro hstatus
      obtain ⟨hpath, hcut⟩ := h.cut hstatus
      rw [List.getLast?_cons_cons]
      refine ⟨?_, hcut⟩
      show v.node.id :: _ = step.nodeId :: result.path
      rw [hstep, ← hpath]

variable (backend graph context) in
/-- Every walk has a trail. -/
theorem exists_isTrail_walk (limit : Nat) (v : Visit σ) :
    ∃ visits, IsTrail backend graph context limit v visits
      (walk backend graph context limit v.node v.bindings v.generator v.world).1
      (walk backend graph context limit v.node v.bindings v.generator v.world).2 := by
  induction limit generalizing v with
  | zero => exact ⟨[], by simp, fun _ => ⟨rfl, rfl⟩, .nil, by simp, fun _ => rfl, by simp [walk]⟩
  | succ limit ih =>
    rw [walk]
    rcases visit_cases backend graph context v with
      ⟨outcome, writes, generator, world, h⟩ | ⟨fault, generator, world, h, hvisit⟩ |
      ⟨generator, world, h, hvisit⟩
    · have hvisit := visit_of_passes h
      have hleaves : v.leaves backend graph context = world := by rw [Visit.leaves, hvisit]
      simp only [hvisit]
      split
      · refine ⟨[v], isTrail_singleton hleaves ?_ rfl⟩
        dsimp only
        split <;> simp
      · rename_i hterminal
        cases hnext : successor? graph v.node outcome.branch with
        | none =>
          refine ⟨[v], isTrail_singleton hleaves ?_ rfl⟩
          dsimp only
          split <;> simp
        | some next =>
          have htype : v.node.type ≠ .finish := fun hfinish => hterminal (h.terminal_iff.mpr hfinish)
          obtain ⟨edge, hedge, hdefines⟩ := (successor?_eq_some_iff _ _ _ _).mp hnext
          obtain ⟨visits, htrail⟩ := ih ⟨next, Entries.merge v.bindings writes, generator, world⟩
          exact ⟨v :: visits, htrail.cons hleaves
            ⟨htype, outcome, writes, h, rfl, edge, hedge, hdefines⟩ rfl⟩
    · have hleaves : v.leaves backend graph context = world := by rw [Visit.leaves, hvisit]
      simp only [hvisit]
      refine ⟨[v], isTrail_singleton hleaves ?_ rfl⟩
      dsimp only
      split <;> simp
    · have hleaves : v.leaves backend graph context = world := by rw [Visit.leaves, hvisit]
      simp only [hvisit]
      refine ⟨[v], by simp, by simp, List.isChain_singleton v, by simpa using hleaves, by simp, ?_⟩
      exact fun _ => ⟨rfl, v, rfl, h⟩

end

end CommandFlow.Run
