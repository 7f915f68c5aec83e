import CommandFlow.Proofs.Run.Transcript
import CommandFlow.Proofs.Service.Listing
import CommandFlow.Proofs.Service.Loading
import CommandFlow.Run.Rehearsal

/-!
# Invocations are answered

Whoever invokes a command hears of it: from the run of its graph, or by a notice in its place or after it.

* `Platform.Delivers` : every reply outside the time limit of a run goes through;
* `IsHeard` : some reply went through;
* `Bot.Answers` : an answer of which the user has heard, or one of some faults; one lemma for each part of
  `Bot.handle`;
* `Bot.handle_erase` : writing down the replies changes nothing;
* `Bot.handle_answers` : every invocation is answered, unless its graph has no start node;
* `Bot.not_answered` : an invocation of a stored graph without a start node.
-/

namespace CommandFlow

variable {σ τ : Type}

/-! ## Replies -/

/-- Every reply outside the time limit of a run goes through. -/
structure Platform.Delivers (platform : Platform σ) : Prop where
  clock_setClock : ∀ clock outside, platform.clock (platform.setClock clock outside) = clock
  respond : ∀ payload outside, (platform.clock outside).deadline = none →
    platform.hasResponded outside = false → (platform.respond payload outside).1 = .done ()
  followUp : ∀ payload outside, (platform.clock outside).deadline = none →
    (platform.followUp payload outside).1 = .done ()

/-- Some reply went through. -/
def IsHeard (said : List Utterance) : Prop := ∃ u ∈ said, u.isDone = true ∧ ∃ payload, u.saying = .reply payload

theorem Platform.Delivers.transcribed {platform : Platform σ} (h : platform.Delivers) :
    platform.transcribed.Delivers :=
  ⟨fun clock state => h.clock_setClock clock state.1, fun payload state => h.respond payload state.1,
    fun payload state => h.followUp payload state.1⟩

namespace Live

section
variable {platform : Platform σ} (h : platform.Delivers)
include h

theorem emit_eq_done (output : Output) {world : World σ} (hclock : (platform.clock world.outside).deadline = none) :
    (emit platform output world).1 = .done () := by
  unfold emit
  split
  · exact h.followUp output.payload world.outside hclock
  · rename_i hfresh
    have hresponded : platform.hasResponded world.outside = false := by
      simp only [Bool.or_eq_true, not_or, Bool.not_eq_true] at hfresh
      exact hfresh.2
    have hrespond := h.respond output.payload world.outside hclock hresponded
    unfold noteReply call
    rw [← Prod.eta (platform.respond output.payload world.outside), hrespond]
    rfl

variable (graph : Graph) (context : Context) (generator : Generator)

theorem deadline_execute (settings : Settings) {world : World σ}
    (hclock : (platform.clock world.outside).deadline = none) :
    (platform.clock (execute platform settings graph context generator world).2.outside).deadline = none := by
  have hfree : ∀ after : World σ, (platform.clock (adjust platform Clock.free after).outside).deadline = none := by
    intro after
    unfold adjust Web.adjust
    rw [h.clock_setClock]
    rfl
  cases htime : isTimeless settings.timeLimit with
  | true =>
    rw [execute_of_isTimeless platform htime]
    exact hclock
  | false =>
    rw [execute_of_isTimeless_eq_false platform htime]
    exact hfree _

end

/-- An execution is refused only if the graph has no start node. -/
theorem starts_eq_nil_of_refused (platform : Platform σ) {graph : Graph} (context : Context) (generator : Generator)
    {settings : Settings} (hlimit : 1 ≤ settings.visitLimit) {world : World σ} {refusal : Run.Refusal}
    (h : (execute platform settings graph context generator world).1 = .error (.refused refusal)) :
    refusal = .noStart ∧ graph.starts = [] := by
  cases htime : isTimeless settings.timeLimit with
  | true =>
    rw [execute_of_isTimeless platform htime] at h
    cases h
  | false =>
    by_cases hstarts : graph.starts = []
    · have hfirst : Run.first? graph = none := by
        rw [Run.first?, hstarts]
        rfl
      rw [execute_of_isTimeless_eq_false platform htime, Run.run, hfirst] at h
      cases h
      exact ⟨rfl, hstarts⟩
    · obtain ⟨start, node, -, hfirst, -⟩ := Run.exists_first?_eq_some hstarts
      rw [execute_eq_walk platform htime hfirst hlimit] at h
      dsimp only [ended] at h
      split at h <;> cases h

end Live

namespace Service

/-! ## The books of a platform -/

namespace Bot

section
variable {erase : τ → σ} {kept : Platform τ} {platform : Platform σ} (h : kept.Erases erase platform)
include h

theorem notify_erase (notice : Notice) (hasReplied : Bool) (world : World τ) :
    notify platform notice hasReplied (world.map erase) =
      Prod.map id (World.map erase) (notify kept notice hasReplied world) := by
  have hnotice := Live.sendNotice_erase h notice.text true ⟨hasReplied, world.outside⟩
  unfold notify
  show ((sent (Live.sendNotice platform notice.text true (Live.World.map erase ⟨hasReplied, world.outside⟩)).1),
    World.mk world.router
      (Live.sendNotice platform notice.text true (Live.World.map erase ⟨hasReplied, world.outside⟩)).2.outside) = _
  rw [hnotice]
  rfl

theorem reject_erase (notice : Notice) (world : World τ) :
    reject platform notice (world.map erase) =
      Prod.map id (World.map erase) (reject kept notice world) := by
  unfold reject
  rw [notify_erase h]
  rfl

theorem apologize_erase (status : Status) (hasReplied : Bool) (world : World τ) :
    apologize platform status hasReplied (world.map erase) =
      Prod.map id (World.map erase) (apologize kept status hasReplied world) := by
  unfold apologize
  rw [notify_erase h]
  rfl

theorem execute_erase (settings : Settings) (graph : Graph) (context : Context) (generator : Generator)
    (world : World τ) :
    execute settings platform graph context generator (world.map erase) =
      Prod.map id (World.map erase) (execute settings kept graph context generator world) := by
  have hlive := Live.execute_erase h settings graph context generator ⟨false, world.outside⟩
  unfold execute
  rw [show (⟨false, (world.map erase).outside⟩ : Live.World σ) = Live.World.map erase ⟨false, world.outside⟩ from rfl,
    hlive]
  obtain ⟨outcome, live⟩ := Live.execute kept settings graph context generator ⟨false, world.outside⟩
  match outcome with
  | .error (.refused refusal) => rfl
  | .error (.timeout seconds) => exact apologize_erase h .failed live.hasReplied ⟨world.router, live.outside⟩
  | .ok result =>
    dsimp only [Prod.map, id]
    split
    · exact apologize_erase h result.status live.hasReplied ⟨world.router, live.outside⟩
    · rfl

/-- An invocation is handled in the same way with the books and without them. -/
theorem handle_erase {gateway : Gateway σ} {keptGateway : Gateway τ} (hgateway : keptGateway.Erases erase gateway)
    (settings : Settings) (invocation : Chat.Invocation) (generator : Generator) (world : World τ) :
    handle settings gateway platform invocation generator (world.map erase) =
      Prod.map id (World.map erase) (handle settings keptGateway kept invocation generator world) := by
  unfold handle
  split
  · rfl
  · exact reject_erase h .directMessage world
  · rename_i guild _
    unfold handleIn
    rw [Procedure.run_erase hgateway]
    obtain ⟨answer, after⟩ :=
      (Procedure.resolve guild invocation.commandName).run keptGateway guild world
    match answer with
    | .error (.notDeployed _ _) => exact reject_erase h .notDeployed after
    | .error .storage => rfl
    | .error .noCommands => rfl
    | .error (.registration _) => rfl
    | .error (.fault _) => rfl
    | .error (.refused _) => rfl
    | .ok project =>
      dsimp only [Prod.map, id]
      have hload : load gateway project invocation.commandName (after.map erase) =
          Prod.map id (World.map erase) (load keptGateway project invocation.commandName after) :=
        Procedure.ifServed_erase hgateway .catalogue after (fun _ => rfl) fun _ => rfl
      rw [hload]
      obtain ⟨loaded, after⟩ := load keptGateway project invocation.commandName after
      match loaded with
      | .error fault => rfl
      | .ok none => exact reject_erase h .notConfigured after
      | .ok (some graph) => exact execute_erase h settings graph invocation.context generator after

end

/-! ## Answers -/

/-- Where an answer is no status, or that of a failure, the user has heard of it; its fault is one of some. -/
structure Answers (IsExcuse : ServiceFault → Prop)
    (answered : Except ServiceFault (Option Status) × World (σ × List Utterance)) : Prop where
  heard : ∀ status?, answered.1 = .ok status? →
    status? = none ∨ status? = some .failed ∨ status? = some .stepLimit → IsHeard answered.2.record
  excused : ∀ fault, answered.1 = .error fault → IsExcuse fault

theorem answers_of_isHeard {IsExcuse : ServiceFault → Prop} {status? : Option Status}
    {answered : Except ServiceFault (Option Status) × World (σ × List Utterance)} (hanswer : answered.1 = .ok status?)
    (hheard : IsHeard answered.2.record) : Answers IsExcuse answered := by
  refine ⟨fun _ _ _ => hheard, fun fault hfault => ?_⟩
  rw [hanswer] at hfault
  cases hfault

theorem answers_of_excuse {IsExcuse : ServiceFault → Prop} {fault : ServiceFault} (h : IsExcuse fault)
    (world : World (σ × List Utterance)) : Answers IsExcuse (.error fault, world) := by
  refine ⟨fun _ hok => (by cases hok), fun cause hcause => ?_⟩
  cases hcause
  exact h

/-- Why an invocation may go wrong although the store and the chat platform do not fail. -/
inductive IsExcuse (store : Store) (invocation : Chat.Invocation) : ServiceFault → Prop where
  /-- The graph of an active snapshot of the command has no start node. -/
  | noStart {project : Uuid} {command : Command} {snapshot : Snapshot} {document : GraphDocument}
      (hsource : store.IsSource project invocation.commandName command snapshot document)
      (hstarts : document.graph.starts = []) : IsExcuse store invocation (.refused .noStart)
  /-- A command that is to be registered has options that cannot be. -/
  | noForm {command : Command} {fault : ServiceFault} (hcommand : command ∈ store.commands)
      (hregistered : command.isRegistered = true) (hform : command.form = .error fault) :
      IsExcuse store invocation fault
  /-- The guild of the invocation is no identifier. -/
  | noGuild {cause : Fault} (hguild : guildOf invocation = .error cause) :
      IsExcuse store invocation (.fault cause)

theorem resolve_excused {gateway : Gateway σ} (h : gateway.IsOpen) (guild : String) (invocation : Chat.Invocation)
    (world : World σ) :
    let ran := (Procedure.resolve guild invocation.commandName).run gateway guild world
    ran.2.outside = world.outside ∧ ∀ fault, ran.1 = .error fault →
      fault = .notDeployed guild invocation.commandName ∨ IsExcuse world.router.store invocation fault := by
  have hanswering : ∀ (names : Names) (world : World σ),
      let ran := (Procedure.answering guild invocation.commandName names).run gateway guild world
      ran.2 = world ∧ ∀ fault, ran.1 = .error fault → fault = .notDeployed guild invocation.commandName := by
    intro names world
    unfold Procedure.answering
    cases Entries.get? names invocation.commandName with
    | some project => exact ⟨rfl, fun fault hfault => by cases hfault⟩
    | none => exact ⟨rfl, fun fault hfault => by cases hfault; rfl⟩
  intro ran
  have hran : ran = (Procedure.resolve guild invocation.commandName).run gateway guild world := rfl
  rw [Procedure.resolve, Procedure.run] at hran
  cases hknown : world.known guild with
  | some names =>
    rw [hknown] at hran
    obtain ⟨hworld, hfault⟩ := hanswering names world
    rw [hran]
    exact ⟨congrArg World.outside hworld, fun fault h => .inl (hfault fault h)⟩
  | none =>
    rw [hknown] at hran
    dsimp only at hran
    rw [Procedure.run, Procedure.ifServed_of_isOpen h, Procedure.run_andThen, Procedure.run_list_of_isOpen h] at hran
    rw [hran]
    cases hlisting : Listing.ofProjects world.commands (world.deployed guild) {} with
    | error fault =>
      obtain ⟨project, -, command, hcommand, hform⟩ := Listing.exists_of_ofProjects_eq_error hlisting
      obtain ⟨hmem, -, henabled, htype⟩ := Store.mem_slashCommands.mp hcommand
      refine ⟨rfl, fun cause hcause => .inr ?_⟩
      cases hcause
      exact .noForm hmem (by simp [Command.isRegistered, henabled, htype]) hform
    | ok listing =>
      obtain ⟨hworld, hfault⟩ := hanswering listing.names (world.note guild (some listing.names))
      have houtside := congrArg World.outside hworld
      exact ⟨houtside, fun fault h => .inl (hfault fault h)⟩

theorem exists_load {gateway : Gateway σ} (h : gateway.IsOpen) (project : Uuid) (name : String) (world : World σ) :
    ∃ graph?, load gateway project name world = (.ok graph?, world) := by
  unfold load
  rw [Procedure.ifServed_of_isOpen h]
  exact ⟨_, rfl⟩

section
variable {platform : Platform σ} (h : platform.Delivers) {world : World (σ × List Utterance)}
  (hclock : (platform.clock world.outside.1).deadline = none) {IsExcuse : ServiceFault → Prop}
include h hclock

/-- A notice outside the time limit of a run is heard. -/
theorem isHeard_notify (notice : Notice) (hasReplied : Bool) :
    (notify platform.transcribed notice hasReplied world).1 = .ok () ∧
      IsHeard (notify platform.transcribed notice hasReplied world).2.record := by
  let output : Output := ⟨.error, "", Live.noticeSender, .text notice.text, true⟩
  let live : Live.World (σ × List Utterance) := ⟨hasReplied, world.outside⟩
  have hdone : (Live.emit platform.transcribed output live).1 = .done () :=
    Live.emit_eq_done h.transcribed output hclock
  obtain ⟨u, htranscript, hsaying, hu⟩ := Live.exists_transcript_emit platform output live
  have hmem : u ∈ (Live.emit platform.transcribed output live).2.transcript := by
    rw [htranscript]
    exact List.mem_append_right _ (List.mem_singleton_self u)
  refine ⟨congrArg sent hdone, u, hmem, ?_, output.payload, hsaying⟩
  rw [hu, hdone]
  rfl

theorem answers_reject (notice : Notice) : Answers IsExcuse (reject platform.transcribed notice world) := by
  obtain ⟨hsent, hheard⟩ := isHeard_notify h hclock notice false
  exact answers_of_isHeard (congrArg (Except.map fun _ => none) hsent) hheard

theorem answers_apologize (status : Status) (hasReplied : Bool) :
    Answers IsExcuse (apologize platform.transcribed status hasReplied world) := by
  obtain ⟨hsent, hheard⟩ := isHeard_notify h hclock .failed hasReplied
  exact answers_of_isHeard (congrArg (Except.map fun _ => some status) hsent) hheard

/-- A run that does not end well is followed by a notice, and begins unless the graph has no start node. -/
theorem answers_execute {settings : Settings} (hlimit : 1 ≤ settings.visitLimit) (graph : Graph) (context : Context)
    (generator : Generator) (hexcuse : graph.starts = [] → IsExcuse (.refused .noStart)) :
    Answers IsExcuse (execute settings platform.transcribed graph context generator world) := by
  have hfree : (platform.clock (Live.execute platform.transcribed settings graph context generator
      ⟨false, world.outside⟩).2.outside.1).deadline = none :=
    Live.deadline_execute h.transcribed graph context generator settings hclock
  have hrefused : ∀ refusal, (Live.execute platform.transcribed settings graph context generator
      ⟨false, world.outside⟩).1 = .error (.refused refusal) → refusal = .noStart ∧ graph.starts = [] :=
    fun refusal => Live.starts_eq_nil_of_refused platform.transcribed context generator hlimit
  unfold execute
  generalize Live.execute platform.transcribed settings graph context generator ⟨false, world.outside⟩ = ran
    at hfree hrefused
  obtain ⟨outcome, live⟩ := ran
  match outcome with
  | .error (.refused refusal) =>
    obtain ⟨rfl, hstarts⟩ := hrefused refusal rfl
    exact answers_of_excuse (hexcuse hstarts) _
  | .error (.timeout seconds) => exact answers_apologize h hfree .failed live.hasReplied
  | .ok result =>
    dsimp only
    split
    · exact answers_apologize h hfree result.status live.hasReplied
    · rename_i hneeds
      refine ⟨fun status? hok hstatus => ?_, fun fault hfault => by cases hfault⟩
      cases hok
      rcases hstatus with hnone | hfailed | hlimit
      · cases hnone
      · rw [Option.some.inj hfailed] at hneeds
        exact absurd rfl hneeds
      · rw [Option.some.inj hlimit] at hneeds
        exact absurd rfl hneeds

variable {gateway : Gateway (σ × List Utterance)} (hgateway : gateway.IsOpen)
include hgateway

theorem answers_handleIn {settings : Settings} (hlimit : 1 ≤ settings.visitLimit) (guild : String)
    (invocation : Chat.Invocation) (generator : Generator) :
    Answers (Bot.IsExcuse world.router.store invocation)
      (handleIn settings gateway platform.transcribed guild invocation generator world) := by
  obtain ⟨houtside, hexcused⟩ := resolve_excused hgateway guild invocation world
  have hcatalogue := Procedure.catalogue_run gateway guild (Procedure.resolve guild invocation.commandName) world
  unfold handleIn
  generalize (Procedure.resolve guild invocation.commandName).run gateway guild world = ran
    at houtside hexcused hcatalogue
  obtain ⟨answer, after⟩ := ran
  have hafter : (platform.clock after.outside.1).deadline = none := by
    rw [show after.outside = world.outside from houtside]
    exact hclock
  cases answer with
  | error fault =>
    have hexcuse := hexcused fault rfl
    cases fault with
    | notDeployed _ _ => exact answers_reject h hafter .notDeployed
    | _ => exact answers_of_excuse (hexcuse.resolve_left fun hsame => by cases hsame) after
  | ok project =>
    obtain ⟨loaded, hload⟩ := exists_load hgateway project invocation.commandName after
    dsimp only
    rw [hload]
    cases loaded with
    | none => exact answers_reject h hafter .notConfigured
    | some graph =>
      obtain ⟨command, snapshot, document, hsource, rfl⟩ := exists_of_load hload
      have hstored := hsource.of_catalogue hcatalogue
      exact answers_execute h hafter hlimit document.graph invocation.context generator fun hstarts =>
        .noStart hstored hstarts

end

/-- Where the store answers and replies outside the time limit of a run go through, every invocation is answered: the
user hears of it if there is no result or that of a failure, and it goes wrong only for the excuses that there are,
above all a graph without a start node. Writing down the replies changes nothing. -/
theorem handle_answers {settings : Settings} (hlimit : 1 ≤ settings.visitLimit) {gateway : Gateway σ}
    (hgateway : gateway.IsOpen) {platform : Platform σ} (hplatform : platform.Delivers)
    (invocation : Chat.Invocation) (generator : Generator) {world : World σ}
    (hclock : (platform.clock world.outside).deadline = none) :
    let told := handle settings gateway.beside platform.transcribed invocation generator world.unrecorded
    handle settings gateway platform invocation generator world = (told.1, told.2.map Prod.fst) ∧
    Answers (IsExcuse world.router.store invocation) told := by
  intro told
  have herase : handle settings gateway platform invocation generator world =
      Prod.map id (World.map Prod.fst) told :=
    handle_erase platform.transcribed_erases gateway.beside_erases settings invocation generator world.unrecorded
  refine ⟨herase, ?_⟩
  have hunrecorded : (platform.clock (world.unrecorded : World (σ × List Utterance)).outside.1).deadline = none :=
    hclock
  show Answers _ (handle settings gateway.beside platform.transcribed invocation generator world.unrecorded)
  unfold handle
  cases hguild : guildOf invocation with
  | error cause => exact answers_of_excuse (.noGuild hguild) world.unrecorded
  | ok guild? =>
    cases guild? with
    | none => exact answers_reject hplatform hunrecorded .directMessage
    | some guild =>
      exact answers_handleIn hplatform hunrecorded hgateway.beside hlimit guild invocation generator

/-! ## A graph without a start node -/

/-- A graph without a start node is not run, and the user is told nothing. -/
theorem execute_of_starts_eq_nil (platform : Platform σ) {settings : Settings}
    (htime : Live.isTimeless settings.timeLimit = false) {graph : Graph} (hstarts : graph.starts = [])
    (context : Context) (generator : Generator) (world : World (σ × List Utterance)) :
    let ran := execute settings platform.transcribed graph context generator world
    ran.1 = .error (.refused .noStart) ∧ ran.2.record = world.record := by
  have hfirst : Run.first? graph = none := by
    rw [Run.first?, hstarts]
    rfl
  intro ran
  have hran : ran = execute settings platform.transcribed graph context generator world := rfl
  unfold execute at hran
  rw [Live.execute_of_isTimeless_eq_false platform.transcribed htime, Run.run, hfirst] at hran
  rw [hran]
  exact ⟨rfl, rfl⟩

theorem delivers_rehearsal : (Rehearsal.platform {}).Delivers :=
  ⟨fun _ _ => rfl, fun _ _ _ _ => rfl, fun _ _ _ => rfl⟩

def rehearsed : Gateway Rehearsal.World := gateway .none ⟨"", "", "", 0⟩ (Rehearsal.platform {}).toWeb

/-- A project with one command is deployed in a guild, and some snapshots were saved. -/
def stocked (snapshots : List Snapshot) : World Rehearsal.World where
  router.store.commands := [{ id := ⟨2⟩, project := ⟨1⟩, name := "ping" }]
  router.store.snapshots := snapshots
  router.store.deployments := [⟨"guild", ⟨1⟩, true⟩]
  outside := {}

def ping : Chat.Invocation where
  guildId := .text "guild"
  commandName := "ping"
  userId := "user"
  channelId := "channel"

theorem handle_answers_ping :
    let told := handle .usual rehearsed.beside (Rehearsal.platform {}).transcribed ping (.ofSeed 0)
      (stocked []).unrecorded
    1 ≤ Settings.usual.visitLimit ∧ rehearsed.IsOpen ∧ (Rehearsal.platform {}).Delivers ∧
    ((Rehearsal.platform {}).clock (stocked []).outside).deadline = none ∧
    told.1 = .ok none ∧ IsHeard told.2.record := by
  intro told
  have hlimit : 1 ≤ Settings.usual.visitLimit := by decide
  have hopen : rehearsed.IsOpen := fun _ _ => rfl
  have hclock : ((Rehearsal.platform {}).clock (stocked []).outside).deadline = none := rfl
  have hanswer : told.1 = .ok none := by with_unfolding_all rfl
  have hheard := (handle_answers hlimit hopen delivers_rehearsal ping (.ofSeed 0) hclock).2.heard none hanswer
    (.inl rfl)
  exact ⟨hlimit, hopen, delivers_rehearsal, hclock, hanswer, hheard⟩

/-- A snapshot of a graph without nodes for the command. -/
def nodeless : Snapshot where
  command := ⟨2⟩
  version := 1
  graph := .object [("nodes", .list [])]

/-- The graph can be read, the store answers and every reply would go through, but there is none. -/
theorem not_answered :
    let told := handle .usual rehearsed.beside (Rehearsal.platform {}).transcribed ping (.ofSeed 0)
      (stocked [nodeless]).unrecorded
    1 ≤ Settings.usual.visitLimit ∧ rehearsed.IsOpen ∧ (Rehearsal.platform {}).Delivers ∧
    (∃ document, GraphDocument.read .store nodeless.graph = .ok document) ∧
    told.1 = .error (.refused .noStart) ∧ ¬ IsHeard told.2.record := by
  intro told
  have hlimit : 1 ≤ Settings.usual.visitLimit := by decide
  have hopen : rehearsed.IsOpen := fun _ _ => rfl
  have hread : GraphDocument.read .store nodeless.graph = .ok (([], [], [], none, ()), []) := rfl
  have htime : Live.isTimeless Settings.usual.timeLimit = false := by decide +kernel
  let after : World (Rehearsal.World × List Utterance) :=
    (stocked [nodeless]).unrecorded.note "guild" (some [("ping", ⟨1⟩)])
  have hguild : guildOf ping = .ok (some "guild") := rfl
  have hresolve : (Procedure.resolve "guild" ping.commandName).run rehearsed.beside "guild"
      (stocked [nodeless]).unrecorded = (.ok ⟨1⟩, after) := by with_unfolding_all rfl
  have hload : load rehearsed.beside ⟨1⟩ ping.commandName after = (.ok (some ⟨[], [], []⟩), after) := by
    with_unfolding_all rfl
  have htold : told = execute .usual (Rehearsal.platform {}).transcribed ⟨[], [], []⟩ ping.context (.ofSeed 0)
      after := by
    show handle .usual rehearsed.beside _ ping _ _ = _
    rw [handle, hguild]
    dsimp only
    rw [handleIn, hresolve]
    dsimp only
    rw [hload]
  obtain ⟨herror, hsilent⟩ := execute_of_starts_eq_nil (Rehearsal.platform {}) htime
    (show (Graph.mk [] [] []).starts = [] from rfl) ping.context (.ofSeed 0) after
  refine ⟨hlimit, hopen, delivers_rehearsal, ⟨_, hread⟩, by rw [htold, herror], ?_⟩
  rw [htold, hsilent]
  rintro ⟨u, hu, -⟩
  exact List.not_mem_nil hu

end Bot

end Service

end CommandFlow
