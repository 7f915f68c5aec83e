import CommandFlow.Proofs.Entries
import CommandFlow.Service.LockTable

/-!
# The lock of a guild

* `LockTable.lockOf` : the lock of a guild, if it has one;
* `LockTable.IsFor` : the table has a lock for the guilds that some task uses, with these tasks in line;
* `LockTable.isFor_request`, `LockTable.isFor_leave` : it stays so when a task asks for the lock of a guild and
  when it gives it back;
* `LockTable.holds_request`, `LockTable.holds_take`, `LockTable.holds_leave` : who holds a lock keeps it meanwhile.
-/

namespace CommandFlow.Service

namespace Lock

/-- Who holds the lock keeps it when another task asks for it. -/
theorem holder?_request {lock : Lock} {holder : Nat} (h : lock.holder? = some holder) (task : Nat) :
    (lock.request task).holder? = some holder := by
  unfold holder? at h
  split at h
  · rename_i hheld
    simp [holder?, request, hheld, List.head?_append, h]
  · cases h

/-- A task that waits gets the lock only if no other task holds it. -/
theorem holder?_take {lock : Lock} {holder : Nat} (h : lock.holder? = some holder) (task : Nat) :
    (lock.take task).holder? = some holder := by
  unfold holder? at h
  split at h
  · rename_i hheld
    have hnext : lock.isNext task = false := by simp [isNext, hheld]
    simp [take, hnext, holder?, hheld, h]
  · cases h

theorem line_take (lock : Lock) (task : Nat) : (lock.take task).line = lock.line := by
  unfold take
  split <;> rfl

theorem nodup_request {lock : Lock} (h : lock.line.Nodup) {task : Nat} (hnew : task ∉ lock.line) :
    (lock.request task).line.Nodup := by
  rw [request, List.nodup_append]
  refine ⟨h, List.pairwise_singleton _ _, fun n hn m hm heq => ?_⟩
  rw [List.mem_singleton.mp hm] at heq
  exact hnew (heq ▸ hn)

theorem mem_leave (lock : Lock) (task n : Nat) : n ∈ (lock.leave task).line ↔ n ∈ lock.line ∧ n ≠ task := by
  simp [leave]

theorem length_leave {lock : Lock} (h : lock.line.Nodup) {task : Nat} (htask : task ∈ lock.line) :
    (lock.leave task).line.length = lock.line.length - 1 := by
  have herase : (lock.leave task).line = lock.line.erase task := by
    rw [h.erase_eq_filter, leave]
    exact List.filter_congr fun n _ => by by_cases hn : n = task <;> simp [hn]
  rw [herase, List.length_erase_of_mem htask]

/-- Who holds the lock keeps it when another task leaves the line. -/
theorem holder?_leave {lock : Lock} {holder task : Nat} (h : lock.holder? = some holder)
    (hne : holder ≠ task) : (lock.leave task).holder? = some holder := by
  have hkeep : lock.holder? ≠ some task := by
    rw [h]
    exact fun heq => hne (Option.some.inj heq)
  unfold holder? at h
  split at h
  · rename_i hheld
    cases hline : lock.line with
    | nil =>
      rw [hline] at h
      cases h
    | cons first rest =>
      rw [hline, List.head?_cons, Option.some.injEq] at h
      subst h
      have hhead : (List.filter (· ≠ task) (first :: rest)).head? = some first := by
        rw [List.filter_cons_of_pos (by simpa using hne)]
        rfl
      simp only [leave, hline, holder?] at hkeep ⊢
      rw [if_pos (by simpa [hheld, hline] using hkeep)]
      exact hhead
  · cases h

end Lock

namespace LockTable

def lockOf (table : LockTable) (guild : String) : Option Lock :=
  (Entries.get? table.locks guild).map table.lock

/-- The table has a lock for each guild whose lock some task uses. These tasks are in its line and are
counted. -/
structure IsFor (table : LockTable) (uses : String → Nat → Prop) : Prop where
  uniqueLocks : (Entries.names table.locks).Nodup
  uniqueUsers : (Entries.names table.users).Nodup
  made : ∀ guild number, Entries.get? table.locks guild = some number → number < table.made.length
  apart : ∀ guild other number, Entries.get? table.locks guild = some number →
    Entries.get? table.locks other = some number → guild = other
  idle : ∀ guild, table.lockOf guild = none → table.usersOf guild = 0 ∧ ∀ task, ¬ uses guild task
  line : ∀ guild lock, table.lockOf guild = some lock → table.usersOf guild = lock.line.length ∧
    lock.line.Nodup ∧ ∀ task, task ∈ lock.line ↔ uses guild task

theorem IsFor.congr {table : LockTable} {uses uses' : String → Nat → Prop} (h : table.IsFor uses)
    (huses : ∀ guild task, uses guild task ↔ uses' guild task) : table.IsFor uses' := by
  have heq : uses = uses' := by
    funext guild task
    exact propext (huses guild task)
  rwa [← heq]

theorem isFor_empty : IsFor {} fun _ _ => False where
  uniqueLocks := List.nodup_nil
  uniqueUsers := List.nodup_nil
  made _ _ h := by cases h
  apart _ _ _ h _ := by cases h
  idle _ _ := ⟨rfl, fun _ h => h⟩
  line _ _ h := by cases h

variable {table : LockTable} {uses : String → Nat → Prop} {guild other : String} {number : Nat}

theorem lockOf_of_get? (hnumber : Entries.get? table.locks guild = some number) :
    table.lockOf guild = some (table.lock number) := by
  rw [lockOf, hnumber, Option.map_some]

/-! ## Changing a lock -/

theorem lock_change_self (h : number < table.made.length) (f : Lock → Lock) :
    (table.change number f).lock number = f (table.lock number) := by
  simp [lock, change, List.getD_eq_getElem?_getD, h]

theorem lock_change_of_ne {k : Nat} (h : number ≠ k) (f : Lock → Lock) :
    (table.change number f).lock k = table.lock k := by
  simp [lock, change, List.getD_eq_getElem?_getD, h]

theorem lockOf_change_self (hmade : number < table.made.length)
    (h : Entries.get? table.locks guild = some number) (f : Lock → Lock) :
    (table.change number f).lockOf guild = some (f (table.lock number)) := by
  have hsame : Entries.get? (table.change number f).locks guild = some number := h
  rw [lockOf, hsame, Option.map_some, lock_change_self hmade]

theorem lockOf_change_of_ne (happart : Entries.get? table.locks other ≠ some number) (f : Lock → Lock) :
    (table.change number f).lockOf other = table.lockOf other := by
  have hsame : Entries.get? (table.change number f).locks other = Entries.get? table.locks other := rfl
  rw [lockOf, lockOf, hsame]
  cases hfound : Entries.get? table.locks other with
  | none => rfl
  | some k =>
    have hne : number ≠ k := by
      rintro rfl
      exact happart hfound
    rw [Option.map_some, Option.map_some, lock_change_of_ne hne]

/-! ## Asking for the lock -/

theorem get?_provide (h : table.IsFor uses) (guild : String) :
    Entries.get? (table.provide guild).locks guild = some (table.numberFor guild) ∧
      table.numberFor guild < (table.provide guild).made.length ∧
      (table.provide guild).lock (table.numberFor guild) = (table.lockOf guild).getD {} := by
  unfold provide numberFor lockOf
  cases hfound : Entries.get? table.locks guild with
  | some number =>
    have hmade := h.made guild number hfound
    simp only [Entries.contains, hfound, Option.isSome_some, if_true, Option.getD_some, Option.map_some]
    exact ⟨trivial, hmade, trivial⟩
  | none =>
    simp [Entries.contains, hfound, lock]

theorem get?_provide_of_ne (h : guild ≠ other) :
    Entries.get? (table.provide guild).locks other = Entries.get? table.locks other := by
  unfold provide
  split
  · rfl
  · exact (Entries.get?_insert _ _ _ _).trans (if_neg h)

theorem lock_provide (h : number < table.made.length) (guild : String) :
    (table.provide guild).lock number = table.lock number := by
  unfold provide
  split
  · rfl
  · simp [lock, List.getD_eq_getElem?_getD, List.getElem?_append_left h]

theorem made_provide (table : LockTable) (guild : String) :
    table.made.length ≤ (table.provide guild).made.length := by
  unfold provide
  split
  · exact Nat.le_refl _
  · simp

theorem lockOf_provide_of_ne (h : table.IsFor uses) (hne : guild ≠ other) :
    (table.provide guild).lockOf other = table.lockOf other := by
  rw [lockOf, lockOf, get?_provide_of_ne hne]
  cases hfound : Entries.get? table.locks other with
  | none => rfl
  | some number =>
    rw [Option.map_some, Option.map_some, lock_provide (h.made other number hfound)]

/-- No other guild has the lock that a guild has or is given. -/
theorem get?_ne_numberFor (h : table.IsFor uses) (hne : guild ≠ other) :
    Entries.get? table.locks other ≠ some (table.numberFor guild) := by
  intro hother
  unfold numberFor at hother
  cases hfound : Entries.get? table.locks guild with
  | some number =>
    rw [hfound] at hother
    exact hne (h.apart guild other number hfound hother)
  | none =>
    rw [hfound] at hother
    exact absurd (h.made other _ hother) (Nat.lt_irrefl _)

theorem get?_request (h : table.IsFor uses) (guild : String) (task : Nat) :
    Entries.get? (table.request guild task).locks guild = some (table.numberFor guild) :=
  (get?_provide h guild).1

theorem get?_request_of_ne (hne : guild ≠ other) (task : Nat) :
    Entries.get? (table.request guild task).locks other = Entries.get? table.locks other :=
  get?_provide_of_ne hne

theorem lockOf_request_self (h : table.IsFor uses) (guild : String) (task : Nat) :
    (table.request guild task).lockOf guild = some (((table.lockOf guild).getD {}).request task) := by
  obtain ⟨hnumber, hmade, hlock⟩ := get?_provide h guild
  rw [← hlock]
  exact lockOf_change_self hmade hnumber _

theorem lockOf_request_of_ne (h : table.IsFor uses) (hne : guild ≠ other) (task : Nat) :
    (table.request guild task).lockOf other = table.lockOf other := by
  rw [← lockOf_provide_of_ne h hne]
  refine lockOf_change_of_ne ?_ _
  rw [get?_provide_of_ne hne]
  exact get?_ne_numberFor h hne

theorem users_request (table : LockTable) (guild : String) (task : Nat) :
    (table.request guild task).users = Entries.insert table.users guild (table.usersOf guild + 1) := by
  unfold request provide
  split <;> rfl

theorem usersOf_request_self (table : LockTable) (guild : String) (task : Nat) :
    (table.request guild task).usersOf guild = table.usersOf guild + 1 := by
  rw [usersOf, users_request, Entries.get?_insert_self, Option.getD_some]

theorem usersOf_request_of_ne (hne : guild ≠ other) (task : Nat) :
    (table.request guild task).usersOf other = table.usersOf other := by
  rw [usersOf, users_request, Entries.get?_insert, if_neg hne, usersOf]

/-- The line of a guild whose lock a task asks for. -/
theorem line_request (h : table.IsFor uses) {task : Nat} (hnew : ¬ uses guild task) {lock : Lock}
    (hlock : lock = ((table.lockOf guild).getD {}).request task) :
    table.usersOf guild + 1 = lock.line.length ∧ lock.line.Nodup ∧
      ∀ n, n ∈ lock.line ↔ uses guild n ∨ n = task := by
  subst hlock
  cases hold : table.lockOf guild with
  | none =>
    obtain ⟨husers, hnone⟩ := h.idle guild hold
    simp [Lock.request, husers, hnone]
  | some old =>
    obtain ⟨husers, hnodup, hmem⟩ := h.line guild old hold
    have hfresh : task ∉ old.line := fun hin => hnew ((hmem task).mp hin)
    refine ⟨by simp [Lock.request, husers], old.nodup_request hnodup hfresh, fun n => ?_⟩
    simp [Lock.request, hmem n]

/-- The table stays right when a task asks for a lock. -/
theorem isFor_request (h : table.IsFor uses) {task : Nat} (hnew : ¬ uses guild task) :
    (table.request guild task).IsFor fun g n => uses g n ∨ (g = guild ∧ n = task) where
  uniqueLocks := by
    show (Entries.names (table.provide guild).locks).Nodup
    unfold provide
    split
    · exact h.uniqueLocks
    · exact Entries.nodup_names_insert h.uniqueLocks _ _
  uniqueUsers := by
    rw [users_request]
    exact Entries.nodup_names_insert h.uniqueUsers _ _
  made := by
    intro g number hg
    have hlength : (table.request guild task).made.length = (table.provide guild).made.length := by
      simp [request, change]
    rw [hlength]
    by_cases hguild : guild = g
    · subst hguild
      rw [get?_request h] at hg
      rw [← Option.some.inj hg]
      exact (get?_provide h guild).2.1
    · rw [get?_request_of_ne hguild] at hg
      exact Nat.lt_of_lt_of_le (h.made g number hg) (made_provide table guild)
  apart := by
    intro g k number hg hk
    by_cases hguild : guild = g
    · subst hguild
      by_cases hother : guild = k
      · exact hother
      · rw [get?_request h] at hg
        rw [get?_request_of_ne hother, ← hg] at hk
        exact absurd hk (get?_ne_numberFor h hother)
    · by_cases hother : guild = k
      · subst hother
        rw [get?_request h] at hk
        rw [get?_request_of_ne hguild, ← hk] at hg
        exact absurd hg (get?_ne_numberFor h hguild)
      · rw [get?_request_of_ne hguild] at hg
        rw [get?_request_of_ne hother] at hk
        exact h.apart g k number hg hk
  idle := by
    intro g hg
    by_cases hguild : guild = g
    · subst hguild
      rw [lockOf_request_self h] at hg
      cases hg
    · rw [lockOf_request_of_ne h hguild] at hg
      rw [usersOf_request_of_ne hguild]
      refine ⟨(h.idle g hg).1, fun n => ?_⟩
      rintro (hn | ⟨heq, -⟩)
      · exact (h.idle g hg).2 n hn
      · exact hguild heq.symm
  line := by
    intro g lock hg
    by_cases hguild : guild = g
    · subst hguild
      rw [lockOf_request_self h] at hg
      obtain ⟨husers, hnodup, hmem⟩ := line_request h hnew (Option.some.inj hg).symm
      refine ⟨(usersOf_request_self table guild task).trans husers, hnodup, fun n => (hmem n).trans ?_⟩
      simp
    · rw [lockOf_request_of_ne h hguild] at hg
      rw [usersOf_request_of_ne hguild]
      obtain ⟨husers, hnodup, hmem⟩ := h.line g lock hg
      refine ⟨husers, hnodup, fun n => ?_⟩
      rw [hmem]
      refine ⟨Or.inl, ?_⟩
      rintro (hn | ⟨heq, -⟩)
      · exact hn
      · exact absurd heq.symm hguild

/-- Who holds a lock keeps it when a task asks for one. -/
theorem holds_request {holder : Nat} (hmade : number < table.made.length)
    (hholds : table.holds number holder = true) (guild : String) (task : Nat) :
    (table.request guild task).holds number holder = true := by
  have hold : (table.lock number).holder? = some holder := of_decide_eq_true hholds
  have hlock : (table.request guild task).lock number =
      ((table.provide guild).change (table.numberFor guild) (·.request task)).lock number := rfl
  refine decide_eq_true ?_
  rw [hlock]
  by_cases hsame : table.numberFor guild = number
  · rw [hsame, lock_change_self (Nat.lt_of_lt_of_le hmade (made_provide table guild)), lock_provide hmade]
    exact Lock.holder?_request hold task
  · rw [lock_change_of_ne hsame, lock_provide hmade]
    exact hold

/-! ## Getting it -/

/-- The table stays right when a lock changes, but not which tasks are in its line. -/
theorem isFor_change (h : table.IsFor uses) (number : Nat) (f : Lock → Lock)
    (hf : ∀ lock, (f lock).line.Perm lock.line) : (table.change number f).IsFor uses := by
  have hlockOf : ∀ guild, (table.change number f).lockOf guild = table.lockOf guild ∨
      ∃ lock, table.lockOf guild = some lock ∧ (table.change number f).lockOf guild = some (f lock) := by
    intro guild
    by_cases hnumber : Entries.get? table.locks guild = some number
    · refine .inr ⟨table.lock number, lockOf_of_get? hnumber, ?_⟩
      exact lockOf_change_self (h.made guild number hnumber) hnumber f
    · exact .inl (lockOf_change_of_ne hnumber f)
  refine ⟨h.uniqueLocks, h.uniqueUsers, ?_, h.apart, ?_, ?_⟩
  · intro guild k hk
    have hlength : (table.change number f).made.length = table.made.length := by simp [change]
    rw [hlength]
    exact h.made guild k hk
  · intro guild hnone
    rcases hlockOf guild with hsame | ⟨lock, -, hchanged⟩
    · exact h.idle guild (hsame ▸ hnone)
    · rw [hchanged] at hnone
      cases hnone
  · intro guild lock hlock
    rcases hlockOf guild with hsame | ⟨old, hold, hchanged⟩
    · exact h.line guild lock (hsame ▸ hlock)
    · rw [hchanged, Option.some.injEq] at hlock
      obtain ⟨husers, hnodup, hmem⟩ := h.line guild old hold
      rw [← hlock]
      exact ⟨husers.trans (hf old).length_eq.symm, (hf old).nodup_iff.mpr hnodup,
        fun task => (hf old).mem_iff.trans (hmem task)⟩

theorem lockOf_take_self (h : table.IsFor uses) (hnumber : Entries.get? table.locks guild = some number)
    (task : Nat) : (table.take number task).lockOf guild = (table.lockOf guild).map (·.take task) := by
  rw [lockOf_of_get? hnumber]
  exact lockOf_change_self (h.made guild number hnumber) hnumber (·.take task)

theorem isFor_take (h : table.IsFor uses) (number task : Nat) : (table.take number task).IsFor uses :=
  isFor_change h number _ fun lock => by rw [lock.line_take task]

/-- Who holds a lock keeps it when another task tries to get one. -/
theorem holds_take {holder k : Nat} (hmade : k < table.made.length)
    (hholds : table.holds k holder = true) (number task : Nat) :
    (table.take number task).holds k holder = true := by
  have hold : (table.lock k).holder? = some holder := of_decide_eq_true hholds
  refine decide_eq_true ?_
  unfold take
  by_cases hsame : number = k
  · rw [hsame, lock_change_self hmade]
    exact Lock.holder?_take hold task
  · rw [lock_change_of_ne hsame]
    exact hold

/-! ## Giving it back -/

theorem get?_leave_of_ne (hne : guild ≠ other) (number task : Nat) :
    Entries.get? (table.leave guild number task).locks other = Entries.get? table.locks other := by
  unfold leave discount
  split
  · exact Entries.get?_erase_of_ne _ hne
  · rfl

theorem lock_leave (table : LockTable) (guild : String) (number task k : Nat) :
    (table.leave guild number task).lock k = (table.change number (·.leave task)).lock k := by
  unfold leave discount
  split <;> rfl

theorem lockOf_leave_of_ne (h : table.IsFor uses) (hne : guild ≠ other)
    (hnumber : Entries.get? table.locks guild = some number) (task : Nat) :
    (table.leave guild number task).lockOf other = table.lockOf other := by
  have happart : Entries.get? table.locks other ≠ some number := fun hother =>
    hne (h.apart guild other number hnumber hother)
  rw [← lockOf_change_of_ne happart (·.leave task), lockOf, get?_leave_of_ne hne]
  exact congrArg (Option.map · _) (funext fun k => lock_leave table guild number task k)

theorem get?_leave_self (h : table.IsFor uses) (guild : String) (number task : Nat) :
    Entries.get? (table.leave guild number task).locks guild =
      if table.usersOf guild ≤ 1 then none else Entries.get? table.locks guild := by
  have husers : (table.change number (·.leave task)).usersOf guild = table.usersOf guild := rfl
  unfold leave discount
  rw [husers]
  split
  · exact Entries.get?_erase_self h.uniqueLocks guild
  · rfl

/-- A guild keeps its lock as long as other tasks use it. -/
theorem lockOf_leave_self (h : table.IsFor uses) (hnumber : Entries.get? table.locks guild = some number)
    (task : Nat) :
    (table.leave guild number task).lockOf guild =
      if table.usersOf guild ≤ 1 then none else some ((table.lock number).leave task) := by
  rw [lockOf, get?_leave_self h]
  split
  · rfl
  · rw [hnumber, Option.map_some, lock_leave, lock_change_self (h.made guild number hnumber)]

theorem lockOf_leave_of_get? (h : table.IsFor uses) (hnumber : Entries.get? table.locks guild = some number)
    (task : Nat) :
    (table.leave guild number task).lockOf guild = (table.lockOf guild).bind fun lock =>
      if lock.line.length ≤ 1 then none else some (lock.leave task) := by
  have hlock := lockOf_of_get? hnumber
  rw [lockOf_leave_self h hnumber, hlock, Option.bind_some, (h.line guild _ hlock).1]

theorem users_leave (table : LockTable) (guild : String) (number task : Nat) :
    (table.leave guild number task).users =
      if table.usersOf guild ≤ 1 then Entries.erase table.users guild
      else Entries.insert table.users guild (table.usersOf guild - 1) := by
  have husers : (table.change number (·.leave task)).usersOf guild = table.usersOf guild := rfl
  unfold leave discount
  rw [husers]
  split <;> rfl

theorem usersOf_leave_of_ne (hne : guild ≠ other) (number task : Nat) :
    (table.leave guild number task).usersOf other = table.usersOf other := by
  rw [usersOf, users_leave]
  split
  · rw [Entries.get?_erase_of_ne _ hne, usersOf]
  · rw [Entries.get?_insert, if_neg hne, usersOf]

theorem usersOf_leave_self (h : table.IsFor uses) (guild : String) (number task : Nat) :
    (table.leave guild number task).usersOf guild = table.usersOf guild - 1 := by
  rw [usersOf, users_leave]
  split
  · rename_i hone
    rw [Entries.get?_erase_self h.uniqueUsers, Option.getD_none]
    omega
  · rw [Entries.get?_insert_self, Option.getD_some]

theorem get?_of_get?_leave (h : table.IsFor uses) {task k : Nat}
    (hk : Entries.get? (table.leave guild number task).locks other = some k) :
    Entries.get? table.locks other = some k := by
  by_cases hguild : guild = other
  · subst hguild
    rw [get?_leave_self h] at hk
    split at hk
    · cases hk
    · exact hk
  · rwa [get?_leave_of_ne hguild] at hk

/-- The table stays right when a task leaves the line of its guild. -/
theorem isFor_leave (h : table.IsFor uses) {task : Nat} (huses : uses guild task)
    (hnumber : Entries.get? table.locks guild = some number) :
    (table.leave guild number task).IsFor fun g n => uses g n ∧ ¬ (g = guild ∧ n = task) := by
  have hlock := lockOf_of_get? hnumber
  obtain ⟨husers, hnodup, hmem⟩ := h.line guild _ hlock
  have htask : task ∈ (table.lock number).line := (hmem task).mpr huses
  have hlength := (table.lock number).length_leave hnodup htask
  have hrest : ∀ n, n ∈ ((table.lock number).leave task).line ↔ uses guild n ∧ n ≠ task := by
    intro n
    rw [Lock.mem_leave, hmem]
  have hother : ∀ {g}, guild ≠ g → ∀ n, (uses g n ∧ ¬ (g = guild ∧ n = task)) ↔ uses g n :=
    fun hg n => ⟨And.left, fun hn => ⟨hn, fun heq => hg heq.1.symm⟩⟩
  have hlocks : List.Sublist (table.leave guild number task).locks table.locks := by
    unfold leave discount
    split
    · exact Entries.erase_sublist _ _
    · exact List.Sublist.refl _
  refine ⟨(hlocks.map _).nodup h.uniqueLocks, ?_, ?_, ?_, ?_, ?_⟩
  · rw [users_leave]
    split
    · exact Entries.nodup_names_erase h.uniqueUsers _
    · exact Entries.nodup_names_insert h.uniqueUsers _ _
  · intro g k hg
    have hmade : (table.leave guild number task).made.length = table.made.length := by
      unfold leave discount
      split <;> simp [change]
    rw [hmade]
    exact h.made g k (get?_of_get?_leave h hg)
  · exact fun g g' k hg hg' => h.apart g g' k (get?_of_get?_leave h hg) (get?_of_get?_leave h hg')
  · intro g hg
    by_cases hguild : guild = g
    · subst hguild
      rw [lockOf_leave_self h hnumber] at hg
      have hone : table.usersOf guild ≤ 1 := by
        refine Decidable.byContradiction fun hnot => ?_
        rw [if_neg hnot] at hg
        cases hg
      rw [usersOf_leave_self h]
      refine ⟨by omega, fun n hn => ?_⟩
      have hin := (hrest n).mpr ⟨hn.1, fun heq => hn.2 ⟨rfl, heq⟩⟩
      have hpos := List.length_pos_of_mem hin
      omega
    · rw [lockOf_leave_of_ne h hguild hnumber] at hg
      rw [usersOf_leave_of_ne hguild]
      exact ⟨(h.idle g hg).1, fun n hn => (h.idle g hg).2 n hn.1⟩
  · intro g lock hg
    by_cases hguild : guild = g
    · subst hguild
      rw [lockOf_leave_self h hnumber] at hg
      split at hg
      · cases hg
      · rw [Option.some.injEq] at hg
        subst hg
        rw [usersOf_leave_self h]
        refine ⟨by omega, hnodup.filter _, fun n => (hrest n).trans ?_⟩
        simp
    · rw [lockOf_leave_of_ne h hguild hnumber] at hg
      rw [usersOf_leave_of_ne hguild]
      obtain ⟨husers', hnodup', hmem'⟩ := h.line g lock hg
      exact ⟨husers', hnodup', fun n => (hmem' n).trans (hother hguild n).symm⟩

/-- Who holds a lock keeps it when another task leaves its line, or the line of another lock. -/
theorem holds_leave {holder task k : Nat} (hmade : k < table.made.length) (hne : number = k → holder ≠ task)
    (hholds : table.holds k holder = true) (guild : String) :
    (table.leave guild number task).holds k holder = true := by
  have hold : (table.lock k).holder? = some holder := of_decide_eq_true hholds
  refine decide_eq_true ?_
  rw [lock_leave]
  by_cases hsame : number = k
  · rw [hsame, lock_change_self hmade]
    exact Lock.holder?_leave hold (hne hsame)
  · rw [lock_change_of_ne hsame]
    exact hold

end LockTable

end CommandFlow.Service
