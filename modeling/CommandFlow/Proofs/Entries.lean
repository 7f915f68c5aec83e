import CommandFlow.Entries

/-!
# Facts about entries

* `Entries.get?_erase_of_ne`, `Entries.get?_erase_self` : what a look-up finds after a name was removed;
  `Entries.get?_merge` : and after a map was written over another; `Entries.get?_append`,
  `Entries.get?_filter_of_pos` : in two lists of entries, and among the entries with a property;
* `Entries.mem_names_insert`, `Entries.nodup_names_insert` : the names after a value was written;
  `Entries.ofPairs_eq_self` : pairs of different names are a map as they stand;
* `Entries.filter_insert_self`, `Entries.filter_erase_self` : the entries of one name change by themselves.
-/

namespace CommandFlow.Entries

variable {α : Type}

/-! ## Look-up -/

theorem get?_eq_none_iff (entries : Entries α) (name : String) :
    get? entries name = none ↔ name ∉ names entries := by
  induction entries with
  | nil => simp [names]
  | cons pair rest ih =>
    by_cases h : pair.1 = name
    · simp [get?, names, h]
    · rw [names] at ih
      simp [get?, names, h, ih, Ne.symm h]

theorem eq_nil_of_get? {entries : Entries α} (h : ∀ name, get? entries name = none) : entries = [] := by
  cases entries with
  | nil => rfl
  | cons pair rest =>
    have hfirst := h pair.1
    rw [get?, if_pos rfl] at hfirst
    cases hfirst

theorem mem_of_get?_eq_some {entries : Entries α} {name : String} {value : α}
    (h : get? entries name = some value) : (name, value) ∈ entries := by
  induction entries with
  | nil => cases h
  | cons pair rest ih =>
    unfold get? at h
    split at h
    · rename_i hname
      rw [← hname, ← Option.some.inj h]
      exact List.mem_cons_self
    · exact List.mem_cons_of_mem _ (ih h)

theorem get?_of_mem {entries : Entries α} (hnames : (names entries).Nodup) {name : String} {value : α}
    (h : (name, value) ∈ entries) : get? entries name = some value := by
  induction entries with
  | nil => cases h
  | cons pair rest ih =>
    obtain ⟨hpair, hrest⟩ := List.nodup_cons.mp hnames
    rcases List.mem_cons.mp h with rfl | hmem
    · exact if_pos rfl
    · have hname : pair.1 ≠ name := by
        rintro rfl
        exact hpair (List.mem_map.mpr ⟨_, hmem, rfl⟩)
      exact (if_neg hname).trans (ih hrest hmem)

theorem exists_get?_of_mem_names {entries : Entries α} {name : String} (h : name ∈ names entries) :
    ∃ value, get? entries name = some value := by
  apply Option.ne_none_iff_exists'.mp
  intro hnone
  exact (get?_eq_none_iff entries name).mp hnone h

theorem get?_append (left right : Entries α) (name : String) :
    get? (left ++ right) name = (get? left name).or (get? right name) := by
  induction left with
  | nil => rfl
  | cons pair rest ih =>
    rw [List.cons_append, get?, get?, ih]
    split <;> rfl

/-- A value is found among the entries with a property that it has. -/
theorem get?_filter_of_pos {entries : Entries α} {name : String} {value : α} {p : String × α → Bool}
    (h : get? entries name = some value) (hp : p (name, value) = true) :
    get? (entries.filter p) name = some value := by
  induction entries with
  | nil => cases h
  | cons pair rest ih =>
    obtain ⟨key, first⟩ := pair
    rw [get?] at h
    split at h
    · rename_i hkey
      cases h
      subst hkey
      rw [List.filter_cons_of_pos hp, get?, if_pos rfl]
    · rename_i hkey
      have hrest := ih h
      rw [List.filter_cons]
      split
      · rw [get?, if_neg hkey, hrest]
      · exact hrest

theorem get?_erase_of_ne (entries : Entries α) {name other : String} (h : name ≠ other) :
    get? (erase entries name) other = get? entries other := by
  induction entries with
  | nil => rfl
  | cons pair rest ih =>
    by_cases hpair : pair.1 = name
    · simp [erase, get?, hpair, h]
    · simp only [erase, hpair, if_false, get?, ih]

theorem get?_erase_self {entries : Entries α} (h : (names entries).Nodup) (name : String) :
    get? (erase entries name) name = none := by
  induction entries with
  | nil => rfl
  | cons pair rest ih =>
    rw [names, List.map_cons, List.nodup_cons] at h
    by_cases hpair : pair.1 = name
    · simp only [erase, hpair, if_true]
      rw [get?_eq_none_iff, names, ← hpair]
      exact h.1
    · simp only [erase, hpair, if_false, get?]
      exact ih h.2

theorem get?_merge (left right : Entries α) (name : String) :
    get? (merge left right) name = (get? (ofPairs right) name).or (get? left name) := by
  induction right generalizing left with
  | nil => rfl
  | cons pair rest ih =>
    have hrest := ih (insert left pair.1 pair.2)
    have hpairs := ih (insert [] pair.1 pair.2)
    rw [show merge left (pair :: rest) = merge (insert left pair.1 pair.2) rest from rfl, hrest,
      show ofPairs (pair :: rest) = merge (insert [] pair.1 pair.2) rest from rfl, hpairs, get?_insert,
      get?_insert, Option.or_assoc]
    by_cases hname : pair.1 = name <;> simp [hname]

theorem get?_merge_self {entries : Entries String} (names : List String) {name : String}
    (h : name ∈ names ∨ get? entries name = some name) :
    get? (merge entries (names.map fun name => (name, name))) name = some name := by
  induction names generalizing entries with
  | nil => exact h.resolve_left List.not_mem_nil
  | cons first rest ih =>
    refine @ih (insert entries first first) ?_
    by_cases hfirst : first = name
    · exact .inr (hfirst ▸ get?_insert_self entries first first)
    · rw [get?_insert, if_neg hfirst]
      exact h.imp_left fun hmem => (List.mem_cons.mp hmem).resolve_left (Ne.symm hfirst)

/-! ## Names -/

theorem insert_of_not_mem {entries : Entries α} {name : String} (h : name ∉ names entries) (value : α) :
    insert entries name value = entries ++ [(name, value)] := by
  induction entries with
  | nil => rfl
  | cons pair rest ih =>
    rw [names, List.map_cons, List.mem_cons, not_or] at h
    simp only [insert, Ne.symm h.1, if_false, List.cons_append]
    rw [ih h.2]

theorem merge_eq_append {left right : Entries α} (h : (names (left ++ right)).Nodup) :
    merge left right = left ++ right := by
  induction right generalizing left with
  | nil => exact (List.append_nil left).symm
  | cons pair rest ih =>
    have hname : pair.1 ∉ names left := by
      rw [names, List.map_append, List.nodup_append] at h
      exact fun hmem => h.2.2 _ hmem pair.1 (by simp) rfl
    have hsplit : left ++ pair :: rest = (left ++ [pair]) ++ rest := by simp
    rw [hsplit] at h ⊢
    rw [← ih h]
    exact congrArg (merge · rest) (insert_of_not_mem hname pair.2)

theorem ofPairs_eq_self {pairs : List (String × α)} (h : (names pairs).Nodup) : ofPairs pairs = pairs := by
  have hnames : (names ([] ++ pairs)).Nodup := h
  exact merge_eq_append hnames

theorem mem_insert {entries : Entries α} {name : String} {value : α} {pair : String × α}
    (h : pair ∈ insert entries name value) : pair = (name, value) ∨ pair ∈ entries := by
  induction entries with
  | nil => exact .inl (List.mem_singleton.mp h)
  | cons first rest ih =>
    obtain ⟨key, old⟩ := first
    unfold insert at h
    split at h
    · rename_i hkey
      subst hkey
      rcases List.mem_cons.mp h with hfirst | hrest
      · exact .inl hfirst
      · exact .inr (List.mem_cons_of_mem _ hrest)
    · rcases List.mem_cons.mp h with hfirst | hrest
      · exact .inr (hfirst ▸ List.mem_cons_self)
      · exact (ih hrest).imp_right (List.mem_cons_of_mem _)

theorem mem_merge {left right : Entries α} {pair : String × α} (h : pair ∈ merge left right) :
    pair ∈ left ∨ pair ∈ right := by
  induction right generalizing left with
  | nil => exact .inl h
  | cons first rest ih =>
    have hrest : pair ∈ merge (insert left first.1 first.2) rest := h
    rcases ih hrest with hleft | hright
    · rcases mem_insert hleft with rfl | hmem
      · exact .inr List.mem_cons_self
      · exact .inl hmem
    · exact .inr (List.mem_cons_of_mem _ hright)

theorem mem_names_insert (entries : Entries α) (name other : String) (value : α) :
    other ∈ names (insert entries name value) ↔ other = name ∨ other ∈ names entries := by
  have h := get?_insert entries name other value
  rw [← Decidable.not_iff_not, ← get?_eq_none_iff, h, not_or, ← get?_eq_none_iff]
  by_cases hname : name = other
  · simp [hname]
  · simp [hname, Ne.symm hname]

theorem nodup_names_insert {entries : Entries α} (h : (names entries).Nodup) (name : String) (value : α) :
    (names (insert entries name value)).Nodup := by
  induction entries with
  | nil => simp [insert, names]
  | cons pair rest ih =>
    rw [names, List.map_cons, List.nodup_cons] at h
    by_cases hpair : pair.1 = name
    · simpa [insert, names, hpair] using h
    · simp only [insert, hpair, if_false, names, List.map_cons, List.nodup_cons]
      refine ⟨fun hmem => ?_, ih h.2⟩
      rcases (mem_names_insert rest name pair.1 value).mp hmem with heq | hrest
      · exact hpair heq
      · exact h.1 hrest

theorem nodup_names_merge {left : Entries α} (h : (names left).Nodup) (right : Entries α) :
    (names (merge left right)).Nodup := by
  induction right generalizing left with
  | nil => exact h
  | cons first rest ih => exact ih (nodup_names_insert h first.1 first.2)

theorem nodup_names_ofPairs (pairs : List (String × α)) : (names (ofPairs pairs)).Nodup := by
  have hnone : (names ([] : Entries α)).Nodup := List.nodup_nil
  exact nodup_names_merge hnone pairs

theorem erase_sublist (entries : Entries α) (name : String) :
    List.Sublist (erase entries name) entries := by
  induction entries with
  | nil => exact .slnil
  | cons pair rest ih =>
    by_cases hpair : pair.1 = name
    · simp only [erase, hpair, if_true]
      exact List.sublist_cons_self _ _
    · simp only [erase, hpair, if_false]
      exact ih.cons_cons _

theorem nodup_names_erase {entries : Entries α} (h : (names entries).Nodup) (name : String) :
    (names (erase entries name)).Nodup :=
  ((erase_sublist entries name).map _).nodup h

/-! ## The entries of one name -/

theorem get?_filter_self (entries : Entries α) (name : String) :
    get? (entries.filter (·.1 = name)) name = get? entries name := by
  induction entries with
  | nil => rfl
  | cons pair rest ih =>
    by_cases h : pair.1 = name
    · rw [List.filter_cons_of_pos (by simpa using h)]
      simp [get?, h]
    · rw [List.filter_cons_of_neg (by simpa using h), ih]
      simp [get?, h]

theorem get?_filter_of_ne (entries : Entries α) {name other : String} (h : other ≠ name) :
    get? (entries.filter (·.1 ≠ name)) other = get? entries other := by
  induction entries with
  | nil => rfl
  | cons pair rest ih =>
    by_cases hpair : pair.1 = name
    · rw [List.filter_cons_of_neg (by simpa using hpair), ih, get?, if_neg (hpair ▸ Ne.symm h)]
    · rw [List.filter_cons_of_pos (by simpa using hpair), get?, get?, ih]

theorem filter_insert_self (entries : Entries α) (name : String) (value : α) :
    (insert entries name value).filter (·.1 = name) =
      insert (entries.filter (·.1 = name)) name value := by
  induction entries with
  | nil => simp [insert]
  | cons pair rest ih =>
    by_cases h : pair.1 = name
    · simp [insert, h]
    · simp [insert, h, ih]

theorem filter_insert_of_ne (entries : Entries α) {name other : String} (value : α) (h : name ≠ other) :
    (insert entries name value).filter (·.1 = other) = entries.filter (·.1 = other) := by
  induction entries with
  | nil => simp [insert, h]
  | cons pair rest ih =>
    by_cases hpair : pair.1 = name
    · simp [insert, hpair, h]
    · simp only [insert, hpair, if_false, List.filter_cons, ih]

theorem filter_erase_self (entries : Entries α) (name : String) :
    (erase entries name).filter (·.1 = name) =
      erase (entries.filter (·.1 = name)) name := by
  induction entries with
  | nil => rfl
  | cons pair rest ih =>
    by_cases h : pair.1 = name
    · simp [erase, h]
    · simp [erase, h, ih]

theorem filter_erase_of_ne (entries : Entries α) {name other : String} (h : name ≠ other) :
    (erase entries name).filter (·.1 = other) = entries.filter (·.1 = other) := by
  induction entries with
  | nil => rfl
  | cons pair rest ih =>
    by_cases hpair : pair.1 = name
    · simp [erase, hpair, h]
    · simp only [erase, hpair, if_false, List.filter_cons, ih]

end CommandFlow.Entries
