/-!
# Results and faults

* `map_eq_ok`, `map_eq_error`, `bind_eq_ok`, `bind_eq_error`, `toOption_eq_some` : where a result or a fault comes from;
* `exists_mapM_eq_ok_iff`, `exists_of_mapM_eq_error` : every item has a result, or some item has none;
  `exists_eq_error` : there is no result;
* `foldlM_cons_eq_ok`, `exists_of_foldlM_eq_error` : the steps of a fold that can fail.
-/

namespace CommandFlow

variable {α β ε : Type}

theorem map_eq_ok {f : α → β} {x : Except ε α} {b : β} : x.map f = .ok b ↔ ∃ a, x = .ok a ∧ f a = b := by
  cases x with
  | error fault => exact ⟨fun h => (by cases h), fun ⟨_, h, _⟩ => (by cases h)⟩
  | ok a =>
    refine ⟨fun h => ⟨a, rfl, Except.ok.inj h⟩, ?_⟩
    rintro ⟨_, ⟨⟩, rfl⟩
    rfl

theorem map_eq_error {f : α → β} {x : Except ε α} {e : ε} : x.map f = .error e ↔ x = .error e := by
  cases x with
  | error fault => exact ⟨fun h => congrArg Except.error (Except.error.inj h), congrArg (Except.map f)⟩
  | ok a => exact ⟨fun h => (by cases h), fun h => (by cases h)⟩

theorem exists_eq_error {x : Except ε α} (h : x.isOk = false) : ∃ fault, x = .error fault := by
  cases x with
  | error fault => exact ⟨fault, rfl⟩
  | ok a => cases h

theorem bind_eq_ok {x : Except ε α} {f : α → Except ε β} {b : β} :
    (x >>= f) = .ok b ↔ ∃ a, x = .ok a ∧ f a = .ok b := by
  cases x with
  | error fault =>
    refine ⟨fun h => (by cases h), ?_⟩
    rintro ⟨_, h, -⟩
    cases h
  | ok a =>
    refine ⟨fun h => ⟨a, rfl, h⟩, ?_⟩
    rintro ⟨_, ⟨⟩, h⟩
    exact h

theorem bind_eq_error {x : Except ε α} {f : α → Except ε β} {e : ε} :
    (x >>= f) = .error e ↔ x = .error e ∨ ∃ a, x = .ok a ∧ f a = .error e := by
  cases x with
  | error fault =>
    constructor
    · exact fun h => .inl (congrArg Except.error (Except.error.inj h))
    · rintro (h | ⟨_, h, -⟩)
      · exact congrArg Except.error (Except.error.inj h)
      · cases h
  | ok a =>
    constructor
    · exact fun h => .inr ⟨a, rfl, h⟩
    · rintro (h | ⟨_, ⟨⟩, h⟩)
      · cases h
      · exact h

theorem exists_mapM_eq_ok_iff {f : α → Except ε β} {items : List α} :
    (∃ results, items.mapM f = .ok results) ↔ ∀ a ∈ items, ∃ b, f a = .ok b := by
  induction items with
  | nil => exact ⟨fun _ => by simp, fun _ => ⟨[], rfl⟩⟩
  | cons a rest ih =>
    rw [List.forall_mem_cons, ← ih, List.mapM_cons]
    constructor
    · rintro ⟨results, h⟩
      obtain ⟨b, hb, hrest⟩ := bind_eq_ok.mp h
      obtain ⟨others, hothers, -⟩ := bind_eq_ok.mp hrest
      exact ⟨⟨b, hb⟩, others, hothers⟩
    · rintro ⟨⟨b, hb⟩, others, hothers⟩
      exact ⟨b :: others, bind_eq_ok.mpr ⟨b, hb, bind_eq_ok.mpr ⟨others, hothers, rfl⟩⟩⟩

theorem exists_of_mapM_eq_error {f : α → Except ε β} {items : List α} {e : ε} (h : items.mapM f = .error e) :
    ∃ a ∈ items, f a = .error e := by
  induction items with
  | nil => cases h
  | cons a rest ih =>
    rw [List.mapM_cons] at h
    obtain hfirst | ⟨b, -, hrest⟩ := bind_eq_error.mp h
    · exact ⟨a, List.mem_cons_self, hfirst⟩
    · obtain hothers | ⟨others, -, hdone⟩ := bind_eq_error.mp hrest
      · obtain ⟨other, hother, hfault⟩ := ih hothers
        exact ⟨other, List.mem_cons_of_mem a hother, hfault⟩
      · cases hdone

theorem toOption_eq_some {x : Except ε α} {a : α} : x.toOption = some a ↔ x = .ok a := by
  cases x with
  | error fault => exact ⟨fun h => (by cases h), fun h => (by cases h)⟩
  | ok b => exact ⟨fun h => congrArg Except.ok (Option.some.inj h), congrArg Except.toOption⟩

theorem foldlM_cons_eq_ok {f : β → α → Except ε β} {a : α} {rest : List α} {b c : β} :
    (a :: rest).foldlM f b = .ok c ↔ ∃ next, f b a = .ok next ∧ rest.foldlM f next = .ok c := by
  rw [List.foldlM_cons]
  cases f b a with
  | error fault =>
    refine ⟨fun h => (by cases h), ?_⟩
    rintro ⟨_, h, -⟩
    cases h
  | ok next =>
    refine ⟨fun h => ⟨next, rfl, h⟩, ?_⟩
    rintro ⟨_, ⟨⟩, hrest⟩
    exact hrest

theorem exists_of_foldlM_eq_error {f : β → α → Except ε β} {items : List α} {b : β} {e : ε}
    (h : items.foldlM f b = .error e) : ∃ a ∈ items, ∃ b, f b a = .error e := by
  induction items generalizing b with
  | nil => cases h
  | cons a rest ih =>
    rw [List.foldlM_cons] at h
    cases hfirst : f b a with
    | error fault =>
      rw [hfirst] at h
      cases h
      exact ⟨a, List.mem_cons_self, b, hfirst⟩
    | ok next =>
      rw [hfirst] at h
      obtain ⟨other, hother, hfault⟩ := ih h
      exact ⟨other, List.mem_cons_of_mem _ hother, hfault⟩

end CommandFlow
