import CommandFlow.Service.App
import Mathlib.Data.List.Nodup

/-!
# Stopping

Invocations begin, make calls and end while a stop waits.

* `Tasks.Event` : what may happen, one after the other; `Tasks.canHappen`, `Tasks.happen` : when, and what becomes of
  the invocations; `Tasks.follow?` : events in turn;
* `Tasks.keeps_follow?` : what every event keeps is kept;
* `Tasks.Orderly` : the invocations that run are kept; `Tasks.orderly_happen`, `Tasks.orderly_follow?` : they stay so;
* `Tasks.mem_running_follow?` : what runs after events; `Tasks.mem_running_of_stop` : what runs after a stop;
* `Tasks.IsQuiet` : nothing that began before runs or makes calls;
* `Tasks.leftover_of_stop` : what a stop leaves running; `Tasks.not_isQuiet_of_stop` : it may leave something;
* `Tasks.exists_follow?_stop`, `App.follow?_dispatch` : a stop and an invocation with nothing between.
-/

namespace CommandFlow.Service

namespace Tasks

inductive Event where
  | start
  | dispatch
  /-- An invocation makes a call to the outside. -/
  | call (task : Nat)
  /-- An invocation ends: it completes, fails or is cancelled. -/
  | finish (task : Nat)
  | forget (task : Nat)
  | beginStop
  | endStop
  deriving DecidableEq

/-- Only what runs makes calls and ends, what has ended is forgotten, and there is one stop at a time. An invocation
may begin at any moment. -/
def canHappen (tasks : Tasks) : Event → Bool
  | .start => true
  | .dispatch => true
  | .call task => tasks.running.contains task
  | .finish task => tasks.running.contains task
  | .forget task => tasks.kept.contains task && !tasks.running.contains task
  | .beginStop => tasks.awaited.isNone
  | .endStop => tasks.canEndStop

def happen (tasks : Tasks) : Event → Tasks
  | .start => tasks.start
  | .dispatch => tasks.dispatch.2
  | .call _ => tasks
  | .finish task => tasks.finish task
  | .forget task => tasks.forget task
  | .beginStop => tasks.beginStop
  | .endStop => tasks.endStop

/-- What becomes of the invocations if the events happen in turn, when they can. -/
def follow? : Tasks → List Event → Option Tasks
  | tasks, [] => some tasks
  | tasks, event :: rest => if tasks.canHappen event then (tasks.happen event).follow? rest else none

variable {tasks next : Tasks} {event : Event} {events rest : List Event} {task : Nat}

/-! ## Following events -/

theorem follow?_cons_eq_some_iff :
    tasks.follow? (event :: rest) = some next ↔
      tasks.canHappen event = true ∧ (tasks.happen event).follow? rest = some next := by
  rw [follow?]
  split
  · rename_i h
    simp [h]
  · rename_i h
    simp [h]

theorem follow?_append_eq_some_iff :
    tasks.follow? (events ++ rest) = some next ↔
      ∃ between, tasks.follow? events = some between ∧ between.follow? rest = some next := by
  induction events generalizing tasks with
  | nil => simp [follow?]
  | cons event events ih =>
    simp only [List.cons_append, follow?_cons_eq_some_iff, ih, and_assoc, exists_and_left]

theorem follow?_singleton_eq_some_iff :
    tasks.follow? [event] = some next ↔ tasks.canHappen event = true ∧ tasks.happen event = next := by
  rw [follow?_cons_eq_some_iff, follow?, Option.some_inj]

theorem keeps_follow? {P : Tasks → Prop}
    (hstep : ∀ {tasks event}, event ∈ events → tasks.canHappen event = true → P tasks → P (tasks.happen event))
    (hfollow : tasks.follow? events = some next) (h : P tasks) : P next := by
  induction events generalizing tasks with
  | nil =>
    cases hfollow
    exact h
  | cons event rest ih =>
    obtain ⟨hcan, hrest⟩ := follow?_cons_eq_some_iff.mp hfollow
    exact ih (fun hmem => hstep (List.mem_cons_of_mem _ hmem)) hrest (hstep List.mem_cons_self hcan h)

/-! ## What is kept -/

theorem endStop_of_canEndStop (h : tasks.canEndStop = true) :
    tasks.endStop = { tasks with isStarted := false, awaited := none } :=
  if_pos h

/-- Invocations that run are kept, and those that are kept have numbers of their own that were given. -/
structure Orderly (tasks : Tasks) : Prop where
  kept : ∀ task ∈ tasks.running, task ∈ tasks.kept
  dispatched : ∀ task ∈ tasks.kept, task < tasks.dispatched
  distinct : tasks.kept.Nodup

theorem orderly_empty : Orderly {} where
  kept := by simp
  dispatched := by simp
  distinct := List.nodup_nil

theorem Orderly.lt (h : tasks.Orderly) (hmem : task ∈ tasks.running) : task < tasks.dispatched :=
  h.dispatched task (h.kept task hmem)

theorem orderly_dispatch (h : tasks.Orderly) : tasks.dispatch.2.Orderly where
  kept := by
    simp only [dispatch, List.mem_append]
    exact fun task => Or.imp_left (h.kept task)
  dispatched := by
    simp only [dispatch, List.mem_append, List.mem_singleton]
    rintro task (hmem | rfl)
    · exact Nat.lt_succ_of_lt (h.dispatched task hmem)
    · exact Nat.lt_succ_self _
  distinct := by
    have hnew : tasks.dispatched ∉ tasks.kept := fun hmem => Nat.lt_irrefl _ (h.dispatched _ hmem)
    exact List.nodup_append.mpr ⟨h.distinct, List.nodup_singleton _, by
      rintro task hmem _ hlast rfl
      exact hnew (List.mem_singleton.mp hlast ▸ hmem)⟩

theorem orderly_finish (h : tasks.Orderly) (task : Nat) : (tasks.finish task).Orderly where
  kept := fun _ hmem => h.kept _ (List.mem_of_mem_filter hmem)
  dispatched := h.dispatched
  distinct := h.distinct

theorem orderly_forget (h : tasks.Orderly) (hended : task ∉ tasks.running) : (tasks.forget task).Orderly where
  kept := by
    intro other hmem
    refine List.mem_filter.mpr ⟨h.kept other hmem, ?_⟩
    have hne : other ≠ task := fun heq => hended (heq ▸ hmem)
    simpa using hne
  dispatched := fun other hmem => h.dispatched other (List.mem_of_mem_filter hmem)
  distinct := h.distinct.filter _

theorem orderly_happen (h : tasks.Orderly) (hcan : tasks.canHappen event = true) : (tasks.happen event).Orderly := by
  cases event with
  | start => exact ⟨h.kept, h.dispatched, h.distinct⟩
  | dispatch => exact orderly_dispatch h
  | call task => exact h
  | finish task => exact orderly_finish h task
  | forget task =>
    have hended : task ∉ tasks.running := by
      simp only [canHappen, Bool.and_eq_true, Bool.not_eq_true', List.contains_eq_mem, decide_eq_false_iff_not] at hcan
      exact hcan.2
    exact orderly_forget h hended
  | beginStop => exact ⟨h.kept, h.dispatched, h.distinct⟩
  | endStop =>
    rw [happen, endStop_of_canEndStop hcan]
    exact ⟨h.kept, h.dispatched, h.distinct⟩

theorem orderly_follow? (h : tasks.Orderly) (hfollow : tasks.follow? events = some next) : next.Orderly :=
  keeps_follow? (fun _ hcan hbefore => orderly_happen hbefore hcan) hfollow h

/-! ## What runs -/

theorem endStop_dispatched (tasks : Tasks) : tasks.endStop.dispatched = tasks.dispatched := by
  unfold endStop
  split <;> rfl

theorem endStop_running (tasks : Tasks) : tasks.endStop.running = tasks.running := by
  unfold endStop
  split <;> rfl

theorem dispatched_happen (tasks : Tasks) (event : Event) :
    (tasks.happen event).dispatched = tasks.dispatched + if event == .dispatch then 1 else 0 := by
  cases event with
  | endStop => exact tasks.endStop_dispatched
  | _ => rfl

theorem dispatched_follow? (hfollow : tasks.follow? events = some next) :
    next.dispatched = tasks.dispatched + events.count .dispatch := by
  induction events generalizing tasks with
  | nil =>
    cases hfollow
    rfl
  | cons event rest ih =>
    obtain ⟨-, hrest⟩ := follow?_cons_eq_some_iff.mp hfollow
    rw [ih hrest, dispatched_happen, List.count_cons]
    omega

theorem mem_running_happen :
    task ∈ (tasks.happen event).running ↔
      (task ∈ tasks.running ∨ event = .dispatch ∧ task = tasks.dispatched) ∧ event ≠ .finish task := by
  cases event with
  | dispatch => simp [happen, dispatch]
  | finish ended =>
    simp only [happen, finish, List.mem_filter, decide_eq_true_eq, reduceCtorEq, false_and, or_false, ne_eq,
      Event.finish.injEq, @eq_comm Nat ended]
  | endStop => simp [happen, endStop_running]
  | start => simp [happen, start]
  | call _ => simp [happen]
  | forget _ => simp [happen, forget]
  | beginStop => simp [happen, beginStop]

/-- What ran before or began since runs, unless it has ended. -/
theorem mem_running_follow? (h : tasks.Orderly) (hfollow : tasks.follow? events = some next) :
    task ∈ next.running ↔
      (task ∈ tasks.running ∨ tasks.dispatched ≤ task ∧ task < next.dispatched) ∧ .finish task ∉ events := by
  induction events generalizing tasks with
  | nil =>
    obtain rfl : tasks = next := Option.some.inj hfollow
    have hnone : ¬ (tasks.dispatched ≤ task ∧ task < tasks.dispatched) := by omega
    simp only [hnone, or_false, List.not_mem_nil, not_false_eq_true, and_true]
  | cons event rest ih =>
    obtain ⟨hcan, hrest⟩ := follow?_cons_eq_some_iff.mp hfollow
    have hlater := dispatched_follow? hrest
    have hnumber := dispatched_happen tasks event
    rw [ih (orderly_happen h hcan) hrest, mem_running_happen, List.mem_cons, not_or]
    by_cases hended : event = .finish task
    · -- it ran, so that its number is not given again
      subst hended
      have hrunning : task ∈ tasks.running := by simpa [canHappen] using hcan
      have hlt := h.lt hrunning
      have hnot : ¬ (tasks.dispatched ≤ task ∧ task < next.dispatched) := by omega
      simp [hnumber, hnot]
    · have hbegan : event = .dispatch ∧ task = tasks.dispatched ∨
            (tasks.happen event).dispatched ≤ task ∧ task < next.dispatched ↔
          tasks.dispatched ≤ task ∧ task < next.dispatched := by
        by_cases hdispatch : event = .dispatch
        · simp only [hdispatch, beq_self_eq_true, reduceIte, true_and] at hnumber hlater ⊢
          omega
        · simp [hnumber, hdispatch]
      rw [← hbegan]
      simp only [hended, Ne.symm hended, ne_eq, not_false_eq_true, and_true, true_and, or_assoc]

theorem of_call_mem (h : tasks.Orderly) (hfollow : tasks.follow? events = some next) (hcall : .call task ∈ events) :
    task ∈ tasks.running ∨ tasks.dispatched ≤ task := by
  -- who makes a call runs at that moment
  obtain ⟨front, back, rfl⟩ := List.append_of_mem hcall
  obtain ⟨between, hfront, hback⟩ := follow?_append_eq_some_iff.mp hfollow
  have hrunning : task ∈ between.running := by
    simpa [canHappen] using (follow?_cons_eq_some_iff.mp hback).1
  exact ((mem_running_follow? h hfront).mp hrunning).1.imp_right And.left

/-! ## Stops -/

theorem canEndStop_iff {awaited : List Nat} (hawaited : tasks.awaited = some awaited) :
    tasks.canEndStop = true ↔ ∀ task ∈ awaited, task ∉ tasks.running := by
  simp [canEndStop, hawaited]

/-- While a stop waits, it awaits the same invocations, as no other stop begins. -/
theorem awaited_follow? (hfollow : tasks.follow? events = some next) {awaited : List Nat}
    (hawaited : tasks.awaited = some awaited) (hwaits : .endStop ∉ events) : next.awaited = some awaited := by
  refine keeps_follow? (P := fun tasks => tasks.awaited = some awaited) (fun {before event} hmem hcan hbefore => ?_)
    hfollow hawaited
  cases event with
  | beginStop => simp [canHappen, hbefore] at hcan
  | endStop => exact absurd hmem hwaits
  | _ => exact hbefore

/-- No invocation that began before runs, or makes a call from here on. -/
def IsQuiet (tasks : Tasks) : Prop :=
  tasks.running = [] ∧
    ∀ events next, tasks.follow? events = some next → ∀ task, .call task ∈ events → tasks.dispatched ≤ task

theorem isQuiet_of_running_eq_nil (h : tasks.Orderly) (hrunning : tasks.running = []) : tasks.IsQuiet := by
  refine ⟨hrunning, fun events next hfollow task hcall => ?_⟩
  refine (of_call_mem h hfollow hcall).resolve_left ?_
  simp [hrunning]

section
variable {begun returned : Tasks} {during : List Event} (h : begun.Orderly)
  (hfollow : begun.follow? (.beginStop :: during ++ [.endStop]) = some returned) (hwaits : .endStop ∉ during)

include hfollow in
theorem isStarted_of_stop : returned.isStarted = false := by
  obtain ⟨last, -, hend⟩ := follow?_append_eq_some_iff.mp hfollow
  obtain ⟨hcan, rfl⟩ := follow?_singleton_eq_some_iff.mp hend
  rw [happen, endStop_of_canEndStop hcan]

include hfollow in
theorem dispatched_of_stop : returned.dispatched = begun.dispatched + during.count .dispatch := by
  rw [dispatched_follow? hfollow]
  simp

include h hfollow hwaits

/-- What began before the stop is awaited, as it is kept; what begins later is not. -/
theorem mem_running_of_stop :
    task ∈ returned.running ↔
      begun.dispatched ≤ task ∧ task < begun.dispatched + during.count .dispatch ∧ .finish task ∉ during := by
  have hrunning : task ∈ returned.running ↔
      (task ∈ begun.running ∨ begun.dispatched ≤ task ∧ task < returned.dispatched) ∧ .finish task ∉ during := by
    rw [mem_running_follow? h hfollow]
    simp
  have hbefore : task ∈ returned.running → task ∉ begun.running := by
    -- what ran when the stop began was kept then, so that the stop has awaited it
    intro hmem hbegun
    obtain ⟨hbegin, hrest⟩ := follow?_cons_eq_some_iff.mp hfollow
    obtain ⟨last, hduring, hend⟩ := follow?_append_eq_some_iff.mp hrest
    obtain ⟨hcan, rfl⟩ := follow?_singleton_eq_some_iff.mp hend
    have hawaited := awaited_follow? hduring (show begun.beginStop.awaited = some begun.kept from rfl) hwaits
    rw [happen, endStop_running] at hmem
    exact (canEndStop_iff hawaited).mp hcan task (h.kept task hbegun) hmem
  rw [dispatched_of_stop hfollow] at hrunning
  constructor
  · intro hmem
    obtain ⟨hbegan, hfinish⟩ := hrunning.mp hmem
    obtain ⟨hle, hlt⟩ := hbegan.resolve_left (hbefore hmem)
    exact ⟨hle, hlt, hfinish⟩
  · rintro ⟨hle, hlt, hfinish⟩
    exact hrunning.mpr ⟨.inr ⟨hle, hlt⟩, hfinish⟩

theorem isQuiet_of_stop (hnone : .dispatch ∉ during) : returned.IsQuiet := by
  have horderly := orderly_follow? h hfollow
  refine isQuiet_of_running_eq_nil horderly (List.eq_nil_iff_forall_not_mem.mpr fun task hmem => ?_)
  obtain ⟨hle, hlt, -⟩ := (mem_running_of_stop h hfollow hwaits).mp hmem
  rw [List.count_eq_zero_of_not_mem hnone] at hlt
  omega

end

/-- When a stop returns, the bot is not started, and what runs are the invocations that have begun while the stop
waited and have not ended. They are the only ones from before the return that may still make calls. So nothing is left
of what began before if no invocation has begun while the stop waited. -/
theorem leftover_of_stop {before during : List Event} {begun returned : Tasks}
    (hbefore : follow? {} before = some begun)
    (hstop : begun.follow? (.beginStop :: during ++ [.endStop]) = some returned) (hwaits : .endStop ∉ during) :
    returned.isStarted = false ∧
    (∀ task, task ∈ returned.running ↔
      begun.dispatched ≤ task ∧ task < begun.dispatched + during.count .dispatch ∧ .finish task ∉ during) ∧
    (∀ after last, returned.follow? after = some last → ∀ task, .call task ∈ after →
      task ∈ returned.running ∨ returned.dispatched ≤ task) ∧
    (.dispatch ∉ during → returned.IsQuiet) := by
  have h := orderly_follow? orderly_empty hbefore
  exact ⟨isStarted_of_stop hstop, fun task => mem_running_of_stop h hstop hwaits,
    fun after last hafter task => of_call_mem (orderly_follow? h hstop) hafter, isQuiet_of_stop h hstop hwaits⟩

def busy : Tasks where
  isStarted := true
  dispatched := 1
  running := [0]
  kept := [0]

/-- Another invocation has begun while the first was cut short. -/
def late : Tasks where
  dispatched := 2
  running := [1]
  kept := [0, 1]

theorem leftover_of_stop_late :
    follow? {} [.start, .dispatch] = some busy ∧
    busy.follow? (.beginStop :: [.dispatch, .finish 0] ++ [.endStop]) = some late ∧
    .endStop ∉ [Event.dispatch, .finish 0] ∧
    (∀ task, task ∈ late.running ↔ 1 ≤ task ∧ task < 2 ∧ .finish task ∉ [Event.dispatch, .finish 0]) ∧
    late.follow? [.call 1] = some late ∧ (1 ∈ late.running ∨ 2 ≤ 1) := by
  have hbefore : follow? {} [.start, .dispatch] = some busy := by decide
  have hstop : busy.follow? (.beginStop :: [.dispatch, .finish 0] ++ [.endStop]) = some late := by decide
  have hwaits : .endStop ∉ [Event.dispatch, .finish 0] := by decide
  have hlate := leftover_of_stop hbefore hstop hwaits
  have hcall : late.follow? [.call 1] = some late := by decide
  exact ⟨hbefore, hstop, hwaits, hlate.2.1, hcall, hlate.2.2.1 _ _ hcall 1 (List.mem_singleton.mpr rfl)⟩

/-- An invocation that has begun while a stop waited runs when it has returned. -/
theorem not_isQuiet_of_stop :
    ¬ ∀ (before during : List Event) (begun returned : Tasks), follow? {} before = some begun →
      begun.follow? (.beginStop :: during ++ [.endStop]) = some returned → .endStop ∉ during → returned.IsQuiet := by
  intro hclaim
  have hquiet := hclaim [.start, .dispatch] [.dispatch, .finish 0] busy late (by decide) (by decide) (by decide)
  exact absurd hquiet.1 (by decide)

/-! ## Nothing between -/

theorem running_foldl_conclude_subset (ending : List Nat) (tasks : Tasks) :
    (ending.foldl conclude tasks).running ⊆ tasks.running := by
  induction ending generalizing tasks with
  | nil => exact List.Subset.refl _
  | cons task rest ih => exact List.Subset.trans (ih (tasks.conclude task)) (List.filter_subset_self _)

theorem foldl_conclude (ending : List Nat) (tasks : Tasks) :
    (ending.foldl conclude tasks).awaited = tasks.awaited ∧
      ∀ task ∈ ending, task ∉ (ending.foldl conclude tasks).running := by
  induction ending generalizing tasks with
  | nil => simp
  | cons first rest ih =>
    obtain ⟨hawaited, hended⟩ := ih (tasks.conclude first)
    refine ⟨hawaited, List.forall_mem_cons.mpr ⟨fun hmem => ?_, hended⟩⟩
    simpa [conclude, forget, finish] using running_foldl_conclude_subset rest _ hmem

theorem exists_follow?_conclude (hkept : task ∈ tasks.kept) :
    ∃ events, (∀ event ∈ events, event = .finish task ∨ event = .forget task) ∧
      tasks.follow? events = some (tasks.conclude task) := by
  have hforget : (tasks.finish task).follow? [.forget task] = some (tasks.conclude task) := by
    refine follow?_singleton_eq_some_iff.mpr ⟨?_, rfl⟩
    simpa [canHappen, finish] using hkept
  by_cases hrunning : task ∈ tasks.running
  · refine ⟨[.finish task, .forget task], by simp, follow?_cons_eq_some_iff.mpr ⟨?_, hforget⟩⟩
    simpa [canHappen] using hrunning
  · have hended : tasks.finish task = tasks := by
      have hfilter : tasks.running.filter (· ≠ task) = tasks.running := by
        refine List.filter_eq_self.mpr fun other hmem => ?_
        have hne : other ≠ task := fun heq => hrunning (heq ▸ hmem)
        simpa using hne
      rw [finish, hfilter]
    rw [hended] at hforget
    exact ⟨[.forget task], by simp, hforget⟩

theorem exists_follow?_foldl {ending : List Nat} (hdistinct : ending.Nodup)
    (hkept : ∀ task ∈ ending, task ∈ tasks.kept) :
    ∃ events, (∀ event ∈ events, ∃ task, event = .finish task ∨ event = .forget task) ∧
      tasks.follow? events = some (ending.foldl conclude tasks) := by
  induction ending generalizing tasks with
  | nil => exact ⟨[], by simp, rfl⟩
  | cons first rest ih =>
    obtain ⟨hfirst, hrest⟩ := List.nodup_cons.mp hdistinct
    obtain ⟨front, hfront, hconclude⟩ := exists_follow?_conclude (hkept first List.mem_cons_self)
    have hstill : ∀ task ∈ rest, task ∈ (tasks.conclude first).kept := by
      intro task hmem
      have hne : task ≠ first := fun heq => hfirst (heq ▸ hmem)
      exact List.mem_filter.mpr ⟨hkept task (List.mem_cons_of_mem _ hmem), by simpa using hne⟩
    obtain ⟨back, hback, hothers⟩ := ih hrest hstill
    refine ⟨front ++ back, ?_, follow?_append_eq_some_iff.mpr ⟨_, hconclude, hothers⟩⟩
    simp only [List.mem_append]
    rintro event (hmem | hmem)
    · exact ⟨first, hfront event hmem⟩
    · exact hback event hmem

/-- A stop with nothing between is one while which no invocation begins. -/
theorem exists_follow?_stop (h : tasks.Orderly) (hrests : tasks.awaited = none) :
    ∃ during, .dispatch ∉ during ∧ .endStop ∉ during ∧
      tasks.follow? (.beginStop :: during ++ [.endStop]) = some tasks.stop := by
  have hkept : ∀ task ∈ tasks.kept, task ∈ tasks.beginStop.kept := fun _ => id
  obtain ⟨during, hends, hfollow⟩ := exists_follow?_foldl h.distinct hkept
  obtain ⟨hawaited, hended⟩ := foldl_conclude tasks.kept tasks.beginStop
  have hcan : (tasks.kept.foldl conclude tasks.beginStop).canEndStop = true :=
    (canEndStop_iff hawaited).mpr hended
  refine ⟨during, ?_, ?_, ?_⟩
  · intro hmem
    obtain ⟨_, hevent | hevent⟩ := hends _ hmem <;> cases hevent
  · intro hmem
    obtain ⟨_, hevent | hevent⟩ := hends _ hmem <;> cases hevent
  · exact follow?_cons_eq_some_iff.mpr ⟨by simp [canHappen, hrests],
      follow?_append_eq_some_iff.mpr ⟨_, hfollow, follow?_singleton_eq_some_iff.mpr ⟨hcan, rfl⟩⟩⟩

end Tasks

namespace App

variable {σ : Type}

theorem follow?_dispatch (app : App σ) (invocation : Chat.Invocation) :
    app.tasks.follow? [.dispatch, .finish app.tasks.dispatched, .forget app.tasks.dispatched] =
      some (app.dispatch invocation).2.tasks := by
  have hfinish : app.tasks.dispatch.2.canHappen (.finish app.tasks.dispatched) = true := by
    simp [Tasks.canHappen, Tasks.dispatch]
  have hforget :
      (app.tasks.dispatch.2.finish app.tasks.dispatched).canHappen (.forget app.tasks.dispatched) = true := by
    simp [Tasks.canHappen, Tasks.dispatch, Tasks.finish]
  exact Tasks.follow?_cons_eq_some_iff.mpr ⟨rfl, Tasks.follow?_cons_eq_some_iff.mpr ⟨hfinish,
    Tasks.follow?_singleton_eq_some_iff.mpr ⟨hforget, rfl⟩⟩⟩

end App

end CommandFlow.Service
