import CommandFlow.Proofs.Run.Erasure
import CommandFlow.Proofs.Run.Trail

/-!
# Transcripts of live runs

What a live run says to its interaction, in order: the replies that it attempts and its waits for replies.

* `Saying`, `Utterance` : a payload or a wait, and the call that delivers or makes it with its answer;
* `Platform.transcribed` : a platform that writes down the utterances;
* `Outcome.sayings` : what an outcome of a node asks to be said: its output, then its wait;
* `Voices` : utterances say something in order, as far as they go through;
* `Live.IsCourse` : the visits of an execution; `Live.exists_isCourse_execute` : every execution voices what
  its visits ask for.
-/

namespace CommandFlow

variable {σ : Type}

/-! ## Sayings -/

/-- Something to say to an interaction: a payload to deliver, or a reply to wait for. -/
inductive Saying where
  | reply (payload : Value)
  | wait (wait : MessageWait)

/-- The wait that an action asks for; a wait of a length out of range is none. -/
def Action.wait? (poll : Binary64) (action : Action) : Option MessageWait :=
  match action.task with
  | .awaitReply timeout userId channelId =>
    (Live.seconds? timeout).map fun timeout => { channelId, userId, timeout, poll }
  | _ => none

/-- What an outcome asks to be said: its output, then its wait. -/
def Outcome.sayings (poll : Binary64) (outcome : Outcome) : List Saying :=
  (outcome.output.map fun output => Saying.reply output.payload).toList ++
    ((outcome.action.bind (·.wait? poll)).map Saying.wait).toList

/-- What a visit asks to be said; nothing if its node fails. -/
def Run.Visit.sayings (poll : Binary64) (graph : Graph) (context : Context) (v : Run.Visit σ) :
    List Saying :=
  match (v.node.outcome v.bindings context graph.declarations v.generator).1 with
  | .ok outcome => outcome.sayings poll
  | .error _ => []

/-! ## Utterances -/

def Reply.isDone {α : Type} : Reply α → Bool
  | .done _ => true
  | _ => false

/-- A call that says something, with its answer: a primary response, a follow-up, or a wait. -/
inductive Utterance where
  | responded (payload : Value) (answer : Reply Unit)
  | followedUp (payload : Value) (answer : Reply Unit)
  | awaited (wait : MessageWait) (answer : Reply Value)

namespace Utterance

def saying : Utterance → Saying
  | responded payload _ => .reply payload
  | followedUp payload _ => .reply payload
  | awaited wait _ => .wait wait

def isDone : Utterance → Bool
  | responded _ answer => answer.isDone
  | followedUp _ answer => answer.isDone
  | awaited _ answer => answer.isDone

end Utterance

/-- The utterances say this in order: all of it, or as far as the first that does not go through. -/
structure Voices (said : List Utterance) (sayings : List Saying) : Prop where
  order : said.map (·.saying) <+: sayings
  complete : (∀ u ∈ said.getLast?, u.isDone = true) → said.map (·.saying) = sayings

theorem voices_of_eq {said : List Utterance} {sayings : List Saying}
    (h : said.map (·.saying) = sayings) : Voices said sayings :=
  ⟨h ▸ List.prefix_rfl, fun _ => h⟩

/-- Once all of the first is said, the utterances go on with the second. -/
theorem Voices.append {said said' : List Utterance} {sayings sayings' : List Saying}
    (h : said.map (·.saying) = sayings) (h' : Voices said' sayings') :
    Voices (said ++ said') (sayings ++ sayings') where
  order := by
    rw [List.map_append, h, List.prefix_append_right_inj]
    exact h'.order
  complete := by
    intro hlast
    rw [List.map_append, h, h'.complete]
    intro u hu
    refine hlast u ?_
    rw [List.getLast?_append, hu]
    rfl

namespace Platform

/-- A call that is not written down. -/
def silent {α : Type} (make : σ → α × σ) (state : σ × List Utterance) : α × σ × List Utterance :=
  ((make state.1).1, (make state.1).2, state.2)

/-- A call that is written down with its answer. -/
def uttered {α : Type} (utterance : α → Utterance) (make : σ → α × σ)
    (state : σ × List Utterance) : α × σ × List Utterance :=
  ((make state.1).1, (make state.1).2, state.2 ++ [utterance (make state.1).1])

def transcribed (platform : Platform σ) : Platform (σ × List Utterance) where
  library := platform.library
  send request := silent (platform.send request)
  clock state := platform.clock state.1
  setClock clock state := (platform.setClock clock state.1, state.2)
  hasResponded state := platform.hasResponded state.1
  respond payload := uttered (.responded payload) (platform.respond payload)
  followUp payload := uttered (.followedUp payload) (platform.followUp payload)
  addRole guildId userId roleId := silent (platform.addRole guildId userId roleId)
  removeRole guildId userId roleId := silent (platform.removeRole guildId userId roleId)
  awaitMessage wait := uttered (.awaited wait) (platform.awaitMessage wait)

theorem transcribed_erases (platform : Platform σ) : platform.transcribed.Erases Prod.fst platform :=
  ⟨rfl, fun _ _ => rfl, fun _ => rfl, fun _ _ => rfl, fun _ => rfl, fun _ _ => rfl, fun _ _ => rfl,
    fun _ _ _ _ => rfl, fun _ _ _ _ => rfl, fun _ _ => rfl⟩

end Platform

namespace Live

/-! ## What a visit says -/

def World.transcript (world : World (σ × List Utterance)) : List Utterance := world.outside.2

section
variable (platform : Platform σ)

theorem exists_transcript_emit (output : Output) (world : World (σ × List Utterance)) :
    ∃ u : Utterance,
      (emit platform.transcribed output world).2.transcript = world.transcript ++ [u] ∧
      u.saying = .reply output.payload ∧
      u.isDone = (emit platform.transcribed output world).1.isDone := by
  unfold emit
  split
  · exact ⟨_, rfl, rfl, rfl⟩
  · refine ⟨.responded output.payload (platform.respond output.payload world.outside.1).1, ?_, rfl, ?_⟩
    all_goals
      unfold noteReply call
      simp only [Platform.transcribed, Platform.uttered]
      cases (platform.respond output.payload world.outside.1).1 <;> rfl

theorem timely_silent {α : Type} (answer : Reply α × σ × List Utterance) :
    (platform.transcribed.timely answer).2.2 = answer.2.2 := by
  unfold Web.timely
  split <;> rfl

theorem settled_snd (answer : Reply Unit × σ) : (settled answer).2 = answer.2 := by
  unfold settled Run.andThen
  split <;> rfl

theorem transcript_perform (poll : Binary64) (action : Action)
    (world : World (σ × List Utterance)) :
    ∃ said, ((backend platform.transcribed poll).perform action world).2.transcript =
        world.transcript ++ said ∧
      said.map (·.saying) = ((action.wait? poll).map Saying.wait).toList := by
  have hperform : ((backend platform.transcribed poll).perform action world).2.transcript =
      (perform platform.transcribed poll action.task world.outside).2.2 := rfl
  rw [hperform]
  unfold Action.wait?
  cases action.task with
  | addRole guildId userId roleId =>
    refine ⟨[], ?_, rfl⟩
    rw [List.append_nil, perform, settled_snd]
    rfl
  | removeRole guildId userId roleId =>
    refine ⟨[], ?_, rfl⟩
    rw [List.append_nil, perform, settled_snd]
    rfl
  | call url method headers body =>
    refine ⟨[], ?_, rfl⟩
    simp only [List.append_nil, perform, fetch]
    split
    · rfl
    · rw [timely_silent]
      rfl
  | awaitReply timeout userId channelId =>
    simp only [perform, withSeconds]
    cases seconds? timeout with
    | none => exact ⟨[], (List.append_nil _).symm, rfl⟩
    | some seconds =>
      let wait : MessageWait := { channelId, userId, timeout := seconds, poll }
      refine ⟨[.awaited wait (platform.awaitMessage wait world.outside.1).1], ?_, rfl⟩
      show (Run.andThen (platform.transcribed.awaitMessage wait world.outside) _).2.2 = _
      exact Run.andThen_keeps (I := fun after : σ × List Utterance => after.2 = _) rfl
        fun _ _ h => h

theorem transcript_pause (poll : Binary64) (milliseconds : Nat)
    (world : World (σ × List Utterance)) :
    ((backend platform.transcribed poll).pause milliseconds world).2.transcript =
      world.transcript := by
  simp only [backend, withSeconds]
  cases seconds? milliseconds <;> rfl

/-- After the output the action of an outcome is all that says anything. -/
theorem exists_transcript_rest (poll : Binary64) (outcome : Outcome)
    (world : World (σ × List Utterance)) :
    ∃ said, (Run.andThen
        (Run.performIf (backend platform.transcribed poll) outcome.action world)
        fun writes world => Run.andThen
          (Run.callIf (backend platform.transcribed poll).pause outcome.delay world)
          fun _ world => (.done (Entries.merge outcome.bindings writes), world)).2.transcript =
        world.transcript ++ said ∧
      said.map (·.saying) = ((outcome.action.bind (·.wait? poll)).map Saying.wait).toList := by
  have hpause : ∀ transcript world, World.transcript world = transcript →
      World.transcript
        (Run.callIf (backend platform.transcribed poll).pause outcome.delay world).2 = transcript := by
    intro transcript world hworld
    refine Run.callIf_keeps (I := fun world => World.transcript world = transcript) ?_ _ hworld
    intro milliseconds world hworld
    rw [transcript_pause, hworld]
  have hafter : ∃ said,
      (Run.performIf (backend platform.transcribed poll) outcome.action world).2.transcript =
        world.transcript ++ said ∧
      said.map (·.saying) = ((outcome.action.bind (·.wait? poll)).map Saying.wait).toList := by
    cases outcome.action with
    | none => exact ⟨[], (List.append_nil _).symm, rfl⟩
    | some action =>
      rw [Run.performIf_some_snd]
      exact transcript_perform platform poll action world
  obtain ⟨said, htranscript, hsaid⟩ := hafter
  refine ⟨said, ?_, hsaid⟩
  refine Run.andThen_keeps (I := fun after => World.transcript after = world.transcript ++ said)
    htranscript fun writes world hworld => ?_
  exact Run.andThen_keeps (I := fun after => World.transcript after = _)
    (hpause _ world hworld) fun _ _ h => h

/-- Realizing an outcome voices what it asks for, and says all of it if it succeeds. -/
theorem exists_transcript_realize (poll : Binary64) (outcome : Outcome)
    (world : World (σ × List Utterance)) :
    ∃ said, (Run.realize (backend platform.transcribed poll) outcome world).2.transcript =
        world.transcript ++ said ∧
      Voices said (outcome.sayings poll) ∧
      ((Run.realize (backend platform.transcribed poll) outcome world).1.isDone = true →
        said.map (·.saying) = outcome.sayings poll) := by
  unfold Run.realize Outcome.sayings
  cases outcome.output with
  | none =>
    obtain ⟨said, htranscript, hsaid⟩ := exists_transcript_rest platform poll outcome world
    exact ⟨said, htranscript, voices_of_eq hsaid, fun _ => hsaid⟩
  | some output =>
    obtain ⟨u, htranscript, hsaying, hdone⟩ := exists_transcript_emit platform output world
    show ∃ said, (Run.andThen (emit platform.transcribed output world) _).2.transcript = _ ∧ _ ∧
      ((Run.andThen (emit platform.transcribed output world) _).1.isDone = true → _)
    revert htranscript hdone
    obtain ⟨reply, after⟩ := emit platform.transcribed output world
    intro htranscript hdone
    -- only an answered output is followed by the action
    have hcut : u.isDone = false → Voices [u] ([Saying.reply output.payload] ++
        ((outcome.action.bind (·.wait? poll)).map Saying.wait).toList) := by
      intro hu
      refine ⟨⟨_, by rw [← hsaying]; rfl⟩, fun hlast => ?_⟩
      have := hlast u rfl
      rw [hu] at this
      cases this
    cases reply with
    | done a =>
      obtain ⟨said, hrest, hsaid⟩ := exists_transcript_rest platform poll outcome after
      have hall : ([u] ++ said).map (·.saying) = [Saying.reply output.payload] ++
          ((outcome.action.bind (·.wait? poll)).map Saying.wait).toList := by
        rw [List.map_append, hsaid, ← hsaying]
        rfl
      refine ⟨[u] ++ said, ?_, voices_of_eq hall, fun _ => hall⟩
      rw [← List.append_assoc, ← htranscript]
      exact hrest
    | raised fault => exact ⟨[u], htranscript, hcut hdone, fun h => by cases h⟩
    | expired => exact ⟨[u], htranscript, hcut hdone, fun h => by cases h⟩

variable (graph : Graph) (context : Context)

/-- A visit voices what it asks for. -/
theorem exists_transcript_leaves (poll : Binary64) (v : Run.Visit (World (σ × List Utterance))) :
    ∃ said, (v.leaves (backend platform.transcribed poll) graph context).transcript =
        v.world.transcript ++ said ∧
      Voices said (v.sayings poll graph context) := by
  unfold Run.Visit.leaves Run.Visit.sayings Run.visit
  obtain ⟨fault | outcome, generator⟩ :=
    v.node.outcome v.bindings context graph.declarations v.generator
  · exact ⟨[], (List.append_nil _).symm, voices_of_eq rfl⟩
  · obtain ⟨said, htranscript, hvoices, -⟩ :=
      exists_transcript_realize platform poll outcome v.world
    refine ⟨said, ?_, hvoices⟩
    exact Run.andThen_keeps (I := fun after => World.transcript after = v.world.transcript ++ said)
      htranscript fun _ _ h => h

theorem exists_transcript_passes {poll : Binary64} {v : Run.Visit (World (σ × List Utterance))}
    {outcome : Outcome} {writes : Variables} {generator : Generator}
    {world : World (σ × List Utterance)}
    (h : Run.Passes (backend platform.transcribed poll) graph context v outcome writes generator
      world) :
    ∃ said, world.transcript = v.world.transcript ++ said ∧
      said.map (·.saying) = v.sayings poll graph context := by
  obtain ⟨said, htranscript, -, hall⟩ := exists_transcript_realize platform poll outcome v.world
  rw [h.realized] at htranscript hall
  refine ⟨said, htranscript, ?_⟩
  unfold Run.Visit.sayings
  rw [h.handled]
  exact hall rfl

/-! ## What a run says -/

/-- Visits that lead from one to the next voice what they ask for, one after the other. -/
theorem exists_transcript_chain (poll : Binary64)
    (v : Run.Visit (World (σ × List Utterance)))
    (visits : List (Run.Visit (World (σ × List Utterance))))
    (hleads : (v :: visits).IsChain
      (Run.Leads (backend platform.transcribed poll) graph context)) :
    ∃ said, (∀ w ∈ (v :: visits).getLast?,
        (w.leaves (backend platform.transcribed poll) graph context).transcript =
          v.world.transcript ++ said) ∧
      Voices said ((v :: visits).flatMap (·.sayings poll graph context)) := by
  induction visits generalizing v with
  | nil =>
    obtain ⟨said, htranscript, hvoices⟩ := exists_transcript_leaves platform graph context poll v
    refine ⟨said, ?_, by simpa using hvoices⟩
    rintro w ⟨⟩
    exact htranscript
  | cons w rest ih =>
    obtain ⟨hlead, hrest⟩ := List.isChain_cons_cons.mp hleads
    obtain ⟨-, outcome, writes, hpasses, -⟩ := hlead
    obtain ⟨said, htranscript, hsaid⟩ := exists_transcript_passes platform graph context hpasses
    obtain ⟨said', htranscript', hvoices⟩ := ih w hrest
    refine ⟨said ++ said', ?_, ?_⟩
    · intro u hu
      rw [List.getLast?_cons_cons] at hu
      rw [htranscript' u hu, htranscript, List.append_assoc]
    · rw [List.flatMap_cons]
      exact Voices.append hsaid hvoices

/-- The visits of an execution, and what the execution leaves: there are none if there is no time or the run
is refused, else they are those of a walk. -/
inductive IsCourse (platform : Platform σ) (settings : Settings) (graph : Graph)
    (context : Context) (generator : Generator) (world : World σ) :
    List (Run.Visit (World σ)) → Except Stop Result × World σ → Prop
  | timeless (h : isTimeless settings.timeLimit = true) :
    IsCourse platform settings graph context generator world []
      (.error (.timeout settings.timeLimit), world)
  | refused (refusal : Run.Refusal) (after : World σ) :
    IsCourse platform settings graph context generator world [] (.error (.refused refusal), after)
  | walked (node : Node) (visits : List (Run.Visit (World σ))) (result : Result)
      (after : World σ) (hfirst : Run.first? graph = some node) (hlimit : 1 ≤ settings.visitLimit)
      (htrail : Run.IsTrail (backend platform settings.pollInterval) graph context
        settings.visitLimit.toNat ⟨node, context.initialVariables, generator,
          adjust platform (·.allow settings.timeLimit) world⟩ visits result after) :
    IsCourse platform settings graph context generator world visits
      (if result.status = .expired then .error (.timeout settings.timeLimit) else .ok result,
        adjust platform Clock.free after)

variable {graph context} in
theorem exists_transcript_trail {poll : Binary64} {limit : Nat}
    {v : Run.Visit (World (σ × List Utterance))}
    {visits : List (Run.Visit (World (σ × List Utterance)))} {result : Result}
    {world : World (σ × List Utterance)}
    (h : Run.IsTrail (backend platform.transcribed poll) graph context limit v visits result world) :
    ∃ said, world.transcript = v.world.transcript ++ said ∧
      Voices said (visits.flatMap (·.sayings poll graph context)) := by
  cases visits with
  | nil =>
    obtain ⟨-, rfl⟩ := h.nonempty rfl
    exact ⟨[], (List.append_nil _).symm, voices_of_eq rfl⟩
  | cons w rest =>
    obtain rfl : w = v := h.first w rfl
    obtain ⟨said, htranscript, hvoices⟩ :=
      exists_transcript_chain platform graph context poll w rest h.leads
    refine ⟨said, ?_, hvoices⟩
    have hlast : (w :: rest).getLast? = some ((w :: rest).getLast (by simp)) :=
      List.getLast?_eq_some_getLast (by simp)
    rw [← htranscript _ hlast, h.last _ hlast]

/-- Every execution has a course, and voices what the visits of its course ask for. -/
theorem exists_isCourse_execute (settings : Settings) (generator : Generator)
    (world : World (σ × List Utterance)) :
    ∃ visits said,
      IsCourse platform.transcribed settings graph context generator world visits
        (execute platform.transcribed settings graph context generator world) ∧
      (execute platform.transcribed settings graph context generator world).2.transcript =
        world.transcript ++ said ∧
      Voices said (visits.flatMap (·.sayings settings.pollInterval graph context)) := by
  cases htime : isTimeless settings.timeLimit with
  | true =>
    rw [execute_of_isTimeless platform.transcribed htime]
    exact ⟨[], [], .timeless htime, (List.append_nil _).symm, voices_of_eq rfl⟩
  | false =>
    rw [execute_of_isTimeless_eq_false platform.transcribed htime, Run.run]
    cases hfirst : Run.first? graph with
    | none => exact ⟨[], [], .refused .noStart _, (List.append_nil _).symm, voices_of_eq rfl⟩
    | some node =>
      dsimp only
      by_cases hlimit : settings.visitLimit < 1
      · rw [if_pos hlimit]
        exact ⟨[], [], .refused .limitTooLow _, (List.append_nil _).symm, voices_of_eq rfl⟩
      · rw [if_neg hlimit]
        obtain ⟨visits, htrail⟩ := Run.exists_isTrail_walk
          (backend platform.transcribed settings.pollInterval) graph context
          settings.visitLimit.toNat ⟨node, context.initialVariables, generator,
            adjust platform.transcribed (·.allow settings.timeLimit) world⟩
        obtain ⟨said, htranscript, hvoices⟩ := exists_transcript_trail platform htrail
        exact ⟨visits, said, .walked node visits _ _ hfirst (by omega) htrail, htranscript, hvoices⟩

end

end Live

end CommandFlow
