import CommandFlow.Proofs.Run.Comparison

/-!
# Limits of time

A shorter limit of time only cuts a run short.

* `Binary64.le` : the order of limits; `Clock.Sooner` : a clock of the same time whose deadline comes no later;
* `Scenario.hurried` : two runs go together, the second one with less time, until the time of that one is up;
* `Scenario.walk_hurried` : with less time a walk is the same, or it is cut off after some of the same calls;
* `Live.execute_of_le` : the same of whole runs. One whose time is up ends with the visit that was in progress.
-/

namespace CommandFlow

/-! ## Clocks -/

/-- The one number is at most the other; never for not-a-number. -/
def Binary64.le (x y : Binary64) : Bool := !x.isNaN && !y.isNaN && !y.lt x

/-- A limit that leaves some time, and one that is no shorter. -/
theorem Live.limits_of_le {limit longer : Binary64} (htime : isTimeless limit = false)
    (hle : limit.le longer = true) :
    longer = .infinite false ∨
      ∃ m n, limit = .finite false m ∧ longer = .finite false n ∧ 0 < m ∧ m ≤ n := by
  cases limit with
  | nan => cases hle
  | infinite negative =>
    cases negative with
    | true => cases htime
    | false =>
      cases longer with
      | nan => cases hle
      | finite negative n => cases hle
      | infinite negative =>
        cases negative with
        | true => cases hle
        | false => exact .inl rfl
  | finite negative m =>
    have hm : 0 < Binary64.signed negative m := by
      simpa [isTimeless, Binary64.lt, Binary64.zero, Binary64.isNaN, Binary64.signed] using htime
    cases longer with
    | nan => cases hle
    | infinite negative =>
      cases negative with
      | true => cases hle
      | false => exact .inl rfl
    | finite negative' n =>
      have hmn : Binary64.signed negative m ≤ Binary64.signed negative' n := by
        simpa [Binary64.le, Binary64.lt, Binary64.isNaN] using hle
      -- A positive number of steps has no sign.
      cases negative <;> cases negative' <;> simp only [Binary64.signed, reduceIte, Bool.false_eq_true] at hm hmn
      case false.false => exact .inr ⟨m, n, rfl, rfl, by omega, by omega⟩
      all_goals omega

theorem Live.isTimeless_of_le {limit longer : Binary64} (htime : isTimeless limit = false)
    (hle : limit.le longer = true) : isTimeless longer = false := by
  rcases limits_of_le htime hle with rfl | ⟨m, n, rfl, rfl, hm, hmn⟩
  · rfl
  · have hn : 0 < n := by omega
    simp [isTimeless, Binary64.lt, Binary64.zero, Binary64.isNaN, Binary64.signed, hn]

namespace Clock

/-- The clocks show the same time, and the first deadline comes no later than the second. -/
structure Sooner (short long : Clock) : Prop where
  now : short.now = long.now
  deadline : ∀ later, long.deadline = some later → ∃ sooner, short.deadline = some sooner ∧ sooner ≤ later

theorem sooner_allow (clock : Clock) {limit longer : Binary64} (htime : Live.isTimeless limit = false)
    (hle : limit.le longer = true) : (clock.allow limit).Sooner (clock.allow longer) := by
  refine ⟨rfl, fun later hlater => ?_⟩
  rcases Live.limits_of_le htime hle with rfl | ⟨m, n, rfl, rfl, -, hmn⟩
  · cases hlater
  · cases hlater
    exact ⟨clock.now + m, rfl, Nat.add_le_add_left hmn clock.now⟩

variable {short long : Clock} (h : short.Sooner long)

include h

theorem Sooner.isUp (hup : long.isUp = true) : short.isUp = true := by
  cases hlong : long.deadline with
  | none => simp [Clock.isUp, hlong] at hup
  | some later =>
    obtain ⟨sooner, hshort, hle⟩ := h.deadline later hlong
    have hnow := h.now
    simp only [Clock.isUp, hlong, hshort, decide_eq_true_eq] at hup ⊢
    omega

/-- A wait that the sooner deadline does not cut off is not cut off by the other. -/
theorem Sooner.wait (ticks : Nat) :
    (short.wait ticks).1 = .expired ∧ (short.wait ticks).2.isUp = true ∨
      (short.wait ticks).1 = .done () ∧ (long.wait ticks).1 = .done () ∧
        (short.wait ticks).2.Sooner (long.wait ticks).2 := by
  obtain ⟨now, deadline⟩ := short
  obtain ⟨now', deadline'⟩ := long
  obtain rfl : now = now' := h.now
  have hdeadline : ∀ later, deadline' = some later → ∃ sooner, deadline = some sooner ∧ sooner ≤ later :=
    h.deadline
  cases deadline with
  | none =>
    cases deadline' with
    | none => exact .inr ⟨rfl, rfl, rfl, hdeadline⟩
    | some later =>
      obtain ⟨sooner, hsooner, -⟩ := hdeadline later rfl
      cases hsooner
  | some sooner =>
    simp only [Clock.wait, Bool.and_eq_true, decide_eq_true_eq]
    by_cases hcut : 0 < ticks ∧ sooner ≤ now + ticks
    · rw [if_pos hcut]
      exact .inl ⟨rfl, decide_eq_true (Nat.le_max_right now sooner)⟩
    · rw [if_neg hcut]
      cases deadline' with
      | none => exact .inr ⟨rfl, rfl, rfl, hdeadline⟩
      | some later =>
        obtain ⟨sooner', hsooner, hle⟩ := hdeadline later rfl
        obtain rfl : sooner = sooner' := Option.some.inj hsooner
        dsimp only
        rw [if_neg (by omega)]
        exact .inr ⟨rfl, rfl, rfl, hdeadline⟩

theorem Sooner.free_eq : short.free = long.free := by
  obtain ⟨now, deadline⟩ := short
  obtain ⟨now', deadline'⟩ := long
  obtain rfl : now = now' := h.now
  rfl

end Clock

/-! ## Walks with less time -/

namespace Scenario

/-- The second run has less time. They part when its time is up, after some of the same calls. -/
def hurried : Comparison where
  together world world' :=
    world'.hasReplied = world.hasReplied ∧ world'.calls = world.calls ∧
      world'.outside.clock.Sooner world.outside.clock
  parted _ calls fate calls' := fate = .expired ∧ calls' <+: calls
  mark := fun ⟨_, hcalls, hclock⟩ => ⟨rfl, hcalls, hclock⟩
  mono := fun ⟨hfate, hcalls⟩ hmore => ⟨hfate, hcalls.trans hmore⟩
  final := fun ⟨hfate, _⟩ => by cases hfate

theorem exists_of_hurried {world world' : Live.World World} (h : hurried.together world world') :
    ∃ replied calls clock clock', world = ⟨replied, calls, clock⟩ ∧ world' = ⟨replied, calls, clock'⟩ ∧
      clock'.Sooner clock := by
  obtain ⟨replied, calls, clock⟩ := world
  obtain ⟨replied', calls', clock'⟩ := world'
  obtain ⟨hreplied, hcalls, hclock⟩ := h
  obtain rfl : replied' = replied := hreplied
  obtain rfl : calls' = calls := hcalls
  exact ⟨replied', calls', clock, clock', rfl, rfl, hclock⟩

section
variable (scenario : Scenario) {world world' : Live.World World} (h : hurried.together world world')

include h

theorem make_hurried (node : Node) {α : Type} (call : Rehearsal.Call) (value : Answer → α) :
    hurried.Tracks node (Live.call (scenario.make call value) world)
      (Live.call (scenario.make call value) world') := by
  obtain ⟨replied, calls, clock, clock', rfl, rfl, hclock⟩ := exists_of_hurried h
  unfold Live.call
  dsimp only
  rcases hclock.wait (scenario.answer (calls ++ [call])).ticks with
    ⟨hcut, -⟩ | ⟨hshort, hlong, hafter⟩
  · right
    refine ⟨congrArg Reply.fate (scenario.make_of_expired call value hcut), ?_⟩
    have hcalls := scenario.calls_make call value ⟨calls, clock⟩
    have hcalls' := scenario.calls_make call value ⟨calls, clock'⟩
    exact ⟨[], (List.append_nil _).trans (hcalls'.trans hcalls.symm)⟩
  · left
    rw [scenario.make_of_done call value hshort, scenario.make_of_done call value hlong]
    exact ⟨rfl, rfl, rfl, hafter⟩

theorem request_hurried (node : Node) (request : Http.Request) :
    hurried.Tracks node (Live.call (scenario.request request) world)
      (Live.call (scenario.request request) world') := by
  obtain ⟨replied, calls, clock, clock', rfl, rfl, hclock⟩ := exists_of_hurried h
  unfold Live.call
  dsimp only
  rw [request_eq, request_eq]
  dsimp only
  rcases hclock.wait (scenario.answer (calls ++ [.http request])).ticks with
    ⟨-, hup⟩ | ⟨hshort, hlong, hafter⟩
  · rw [if_pos hup]
    exact .inr ⟨rfl, List.prefix_rfl⟩
  · by_cases hup : (clock'.wait (scenario.answer (calls ++ [.http request])).ticks).2.isUp = true
    · rw [if_pos hup]
      exact .inr ⟨rfl, List.prefix_rfl⟩
    · rw [if_neg hup, if_neg fun hlater => hup (hafter.isUp hlater)]
      exact .inl ⟨rfl, rfl, rfl, hafter⟩

theorem sleep_hurried (node : Node) (ticks : Nat) :
    hurried.Tracks node (Live.call (scenario.platform.sleep ticks) world)
      (Live.call (scenario.platform.sleep ticks) world') := by
  obtain ⟨replied, calls, clock, clock', rfl, rfl, hclock⟩ := exists_of_hurried h
  rcases hclock.wait ticks with ⟨hcut, -⟩ | ⟨hshort, hlong, hafter⟩
  · exact .inr ⟨congrArg Reply.fate hcut, List.prefix_rfl⟩
  · exact .inl ⟨hshort.trans hlong.symm, rfl, rfl, hafter⟩

end

/-- With less time the outside world answers the same, until the time is up. -/
theorem hurried_holds (scenario : Scenario) : hurried.Holds scenario scenario where
  library := rfl
  responded := fun ⟨hreplied, hcalls, _⟩ => by rw [hreplied, hcalls]
  made := fun node _ call value _ _ _ h => scenario.make_hurried h node call value
  requested := fun node action request _ _ _ h => (scenario.request_hurried h node request).written action
  slept := fun node ticks _ _ h => scenario.sleep_hurried h node ticks

/-- With less time a walk is the same, or it is cut off after some of the same calls. -/
theorem walk_hurried (scenario : Scenario) (poll : Binary64) (graph : Graph) (context : Context)
    (limit : Nat) (v : Run.Visit (Live.World World)) {world' : Live.World World}
    (hworld : hurried.together v.world world') :
    let backend := Live.backend scenario.platform poll
    let long := Run.walk backend graph context limit v.node v.bindings v.generator v.world
    let short := Run.walk backend graph context limit v.node v.bindings v.generator world'
    short.1 = long.1 ∧ hurried.together long.2 short.2 ∨
      short.1.status = .expired ∧ short.2.calls <+: long.2.calls := by
  intro backend long short
  rcases Comparison.walk_tracks scenario.hurried_holds poll graph context limit v hworld with
    hsame | ⟨before, u, rest, after, left, hvisits, hlimit, -, ⟨hfate, hcalls⟩, hshort⟩
  · exact .inl hsame
  right
  have hcut := Run.walk_of_expired (v := u.moved after) (Reply.eq_expired_of_fate hfate) left
  have hmem : u ∈ Run.visits backend graph context limit v := by
    rw [hvisits]
    exact List.mem_append_right before List.mem_cons_self
  have hkeeps := scenario.keeps_calls poll ((u.moved after).leaves backend graph context).calls
  refine ⟨?_, ?_⟩
  · rw [show short = _ from hshort]
    exact congrArg (fun answer => answer.1.status) hcut
  · have hgrown := Run.walk_keeps_of_mem hkeeps hmem hcalls
    rw [show short = _ from hshort]
    exact (congrArg (fun answer => answer.2.calls <+: long.2.calls) hcut).mpr hgrown

/-- With less time a run is the same, or it is cut off after some of the same calls. -/
theorem run_hurried (scenario : Scenario) (poll : Binary64) (graph : Graph) (context : Context)
    (limit : Int) (generator : Generator) {world world' : Live.World World}
    (hworld : hurried.together world world') :
    let backend := Live.backend scenario.platform poll
    let long := Run.run backend graph context limit generator world
    let short := Run.run backend graph context limit generator world'
    short.1 = long.1 ∧ hurried.together long.2 short.2 ∨
      (∃ result, short.1 = .ok result ∧ result.status = .expired) ∧ short.2.calls <+: long.2.calls := by
  unfold Run.run
  cases Run.first? graph with
  | none => exact .inl ⟨rfl, hworld⟩
  | some node =>
    dsimp only
    by_cases hlimit : limit < 1
    · rw [if_pos hlimit, if_pos hlimit]
      exact .inl ⟨rfl, hworld⟩
    · rw [if_neg hlimit, if_neg hlimit]
      rcases scenario.walk_hurried poll graph context limit.toNat
        ⟨node, context.initialVariables, generator, world⟩ hworld with ⟨hresult, hafter⟩ | ⟨hstatus, hcalls⟩
      · exact .inl ⟨congrArg Except.ok hresult, hafter⟩
      · exact .inr ⟨⟨_, rfl, hstatus⟩, hcalls⟩

theorem adjust_free_eq_of_hurried (scenario : Scenario) {world world' : Live.World World}
    (h : hurried.together world world') :
    Live.adjust scenario.platform Clock.free world = Live.adjust scenario.platform Clock.free world' := by
  obtain ⟨replied, calls, clock, clock', rfl, rfl, hclock⟩ := exists_of_hurried h
  exact congrArg (fun clock => (⟨replied, calls, clock⟩ : Live.World World)) hclock.free_eq.symm

end Scenario

/-! ## Executions with less time -/

namespace Live

/-- With less time the calls are the first of the same calls, and a result is the same in a world that is left
the same. -/
theorem execute_hurried (scenario : Scenario) (settings : Settings) {longer : Binary64}
    (hle : settings.timeLimit.le longer = true) (graph : Graph) (context : Context) (generator : Generator)
    (world : World Scenario.World) :
    let short := execute scenario.platform settings graph context generator world
    let long := execute scenario.platform { settings with timeLimit := longer } graph context generator world
    short.2.calls <+: long.2.calls ∧ ∀ result, short.1 = .ok result → long = short := by
  intro short long
  cases htime : isTimeless settings.timeLimit with
  | true =>
    have hshort : short = _ := execute_of_isTimeless scenario.platform htime graph context generator world
    rw [hshort]
    refine ⟨scenario.prefix_execute _ graph context generator world, ?_⟩
    rintro result ⟨⟩
  | false =>
    have hshort : short = _ :=
      execute_of_isTimeless_eq_false scenario.platform htime graph context generator world
    have hlong : long = _ := execute_of_isTimeless_eq_false scenario.platform
      (isTimeless_of_le htime hle) graph context generator world
    have htogether : Scenario.hurried.together (adjust scenario.platform (·.allow longer) world)
        (adjust scenario.platform (·.allow settings.timeLimit) world) :=
      ⟨rfl, rfl, Clock.sooner_allow _ htime hle⟩
    rw [hshort, hlong]
    rcases scenario.run_hurried settings.pollInterval graph context settings.visitLimit generator htogether with
      ⟨hsame, hafter⟩ | ⟨⟨result', houtcome', hexpired⟩, hcalls⟩
    · refine ⟨⟨[], (List.append_nil _).trans hafter.2.1⟩, fun result hresult => ?_⟩
      obtain ⟨houtcome, hstatus⟩ := ended_eq_ok_iff.mp hresult
      refine Prod.ext ?_ (Scenario.adjust_free_eq_of_hurried scenario hafter)
      exact (ended_eq_ok_iff.mpr ⟨hsame.symm.trans houtcome, hstatus⟩).trans hresult.symm
    · refine ⟨hcalls, fun result hresult => ?_⟩
      obtain ⟨houtcome, hstatus⟩ := ended_eq_ok_iff.mp hresult
      cases houtcome.symm.trans houtcome'
      exact absurd hexpired hstatus

/-- A shorter limit of time only cuts an execution short. With the shorter one the calls are the first of those
that are made with the longer one, and a result is the same in a context and a world that are left the same.
Without a result the context is left as it was; and if the time was up, nothing was begun, or the last visit of the
run was cut off and the world is as that one leaves it. -/
theorem execute_of_le (scenario : Scenario) (settings : Settings) {longer : Binary64}
    (hle : settings.timeLimit.le longer = true) (graph : Graph) (generator : Generator)
    (state : Run.State (World Scenario.World)) :
    let short := executeIn scenario.platform settings graph generator state
    let long := executeIn scenario.platform { settings with timeLimit := longer } graph generator state
    let backend := backend scenario.platform settings.pollInterval
    let begun := adjust scenario.platform (·.allow settings.timeLimit) state.world
    short.2.world.calls <+: long.2.world.calls ∧
    (∀ result, short.1 = .ok result → long = short) ∧
    (∀ stop, short.1 = .error stop → short.2.context = state.context) ∧
    ∀ seconds, short.1 = .error (.timeout seconds) →
      isTimeless settings.timeLimit = true ∧ short.2.world = state.world ∨
      ∃ before v, Run.course backend graph state.context settings.visitLimit generator begun = before ++ [v] ∧
        Run.IsCut backend graph state.context v ∧
        short.2.world = adjust scenario.platform Clock.free (v.leaves backend graph state.context) := by
  intro short long backend begun
  obtain ⟨hcalls, hresult⟩ :=
    execute_hurried scenario settings hle graph state.context generator state.world
  refine ⟨hcalls, fun result hshort => ?_, fun stop hstop => ?_, fun seconds hstop => exists_cut_of_execute hstop⟩
  · have hsame : ((long.1, long.2.world) : Except Stop Result × World Scenario.World) =
      (short.1, short.2.world) := hresult result hshort
    obtain ⟨houtcome, hworld⟩ := Prod.mk.inj hsame
    have hcontext := context_of_executeIn_ok (Prod.ext (houtcome.trans hshort) rfl : long = (.ok result, long.2))
    have hcontext' := context_of_executeIn_ok (Prod.ext hshort rfl : short = (.ok result, short.2))
    refine Prod.ext houtcome ?_
    calc long.2 = ⟨long.2.context, long.2.world⟩ := rfl
      _ = ⟨short.2.context, short.2.world⟩ := by rw [hcontext.trans hcontext'.symm, hworld]
  · exact context_of_executeIn_error (Prod.ext hstop rfl : short = (.error stop, short.2))

/-- A second is too short for the reply in two seconds. -/
def hasty : Settings := { Settings.usual with timeLimit := .ofInt 1 }

theorem execute_of_le_question :
    hasty.timeLimit.le (.ofInt 5) = true ∧
    let short := executeIn Scenario.attentive.platform hasty Scenario.question (.ofSeed 0) ⟨.standIn, ⟨false, {}⟩⟩
    let long := executeIn Scenario.attentive.platform { hasty with timeLimit := .ofInt 5 } Scenario.question
      (.ofSeed 0) ⟨.standIn, ⟨false, {}⟩⟩
    let backend := backend Scenario.attentive.platform hasty.pollInterval
    let begun := adjust Scenario.attentive.platform (·.allow hasty.timeLimit) ⟨false, {}⟩
    short.2.world.calls <+: long.2.world.calls ∧
    (∀ result, short.1 = .ok result → long = short) ∧
    (∀ stop, short.1 = .error stop → short.2.context = .standIn) ∧
    ∀ seconds, short.1 = .error (.timeout seconds) →
      isTimeless hasty.timeLimit = true ∧ short.2.world = ⟨false, {}⟩ ∨
      ∃ before v, Run.course backend Scenario.question .standIn hasty.visitLimit (.ofSeed 0) begun =
          before ++ [v] ∧
        Run.IsCut backend Scenario.question .standIn v ∧
        short.2.world = adjust Scenario.attentive.platform Clock.free
          (v.leaves backend Scenario.question .standIn) := by
  have hle : hasty.timeLimit.le (.ofInt 5) = true := by decide +kernel
  have hcut := execute_of_le Scenario.attentive hasty hle Scenario.question (.ofSeed 0) ⟨.standIn, ⟨false, {}⟩⟩
  dsimp only at hcut ⊢
  exact ⟨hle, hcut⟩

example :
    let execution (seconds : Int) := execute Scenario.attentive.platform
      { hasty with timeLimit := .ofInt seconds } Scenario.question .standIn (.ofSeed 0) ⟨false, {}⟩
    (execution 1).2.calls.length = 2 ∧ (execution 1).1.toOption.isNone = true ∧
      (execution 5).2.calls.length = 3 ∧ (execution 5).1.toOption.isSome = true := by
  decide +kernel

end Live

end CommandFlow
