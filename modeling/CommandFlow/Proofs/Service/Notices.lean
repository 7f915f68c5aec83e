import CommandFlow.Proofs.Chat.Emissions
import CommandFlow.Proofs.Except
import CommandFlow.Proofs.Run.Execution
import CommandFlow.Proofs.Service.Answering

/-!
# One notice

Whoever invokes a command is told what the run of its graph sends, and at most one notice, which depends on the kind
of the ending alone.

* `Bot.Finds` : the graph that is found for an invocation, or the notice in its place; `Bot.handle_of_ok` : an
  invocation that is answered runs the one or sends the other;
* `Bot.Ending` : the endings, with the status and the notice of each; `Bot.EndsIn` : how an invocation ends, and what
  its run sends;
* `Bot.interaction_keeps` : no call but a reply marks an interaction as replied to;
* `Bot.handle_notices` : the user is told the emissions of the run, and then the notice of the ending.
-/

namespace CommandFlow

variable {σ τ : Type}

theorem Chat.Client.request_keeps {J : σ → Prop} {web : Web σ}
    (h : ∀ request outside, J outside → J (web.send request outside).2) (client : Client) (method path : String)
    (headers : Entries String) (body : Http.Body) (parameters : Entries String) {outside : σ} (houtside : J outside) :
    J (client.request web method path headers body parameters outside).2 := by
  unfold Client.request
  split
  · exact houtside
  · rename_i request _
    have hkept := h request outside houtside
    revert hkept
    obtain ⟨answer, after⟩ := web.send request outside
    intro hkept
    cases answer with
    | error fault => exact hkept
    | ok response =>
      dsimp only
      split <;> exact hkept

namespace Service

def Notice.payload (notice : Notice) : Value :=
  .object [("content", .text notice.text), ("flags", .int Output.ephemeralFlag)]

namespace Bot

/-! ## Graphs for invocations -/

section
variable (gateway : Gateway σ) (invocation : Chat.Invocation) (world : World σ)

/-- What is found for an invocation: a graph, or the notice that says why there is none. -/
inductive Finds : Except Notice Graph → World σ → Prop where
  /-- The command was invoked in a direct message. -/
  | directMessage (hguild : guildOf invocation = .ok none) : Finds (.error .directMessage) world
  /-- No project in the guild has the command. -/
  | notDeployed {guild inGuild name : String} {after : World σ} (hguild : guildOf invocation = .ok (some guild))
    (hresolve : (Procedure.resolve guild invocation.commandName).run gateway guild world =
      (.error (.notDeployed inGuild name), after)) : Finds (.error .notDeployed) after
  /-- The command has no active graph, or none that can be read. -/
  | notConfigured {guild : String} {project : Uuid} {resolved after : World σ}
    (hguild : guildOf invocation = .ok (some guild))
    (hresolve : (Procedure.resolve guild invocation.commandName).run gateway guild world = (.ok project, resolved))
    (hload : load gateway project invocation.commandName resolved = (.ok none, after)) :
    Finds (.error .notConfigured) after
  | graph {guild : String} {project : Uuid} {graph : Graph} {resolved after : World σ}
    (hguild : guildOf invocation = .ok (some guild))
    (hresolve : (Procedure.resolve guild invocation.commandName).run gateway guild world = (.ok project, resolved))
    (hload : load gateway project invocation.commandName resolved = (.ok (some graph), after)) :
    Finds (.ok graph) after

end

theorem gateway_keeps {J : σ → Prop} {web : Web σ}
    (h : ∀ request outside, J outside → J (web.send request outside).2) (outage : Outage) (client : Chat.Client) :
    (gateway outage client web).Keeps J where
  serves _ _ houtside := houtside
  register guild payload outside houtside := by
    unfold gateway Chat.Client.putCommands Chat.Client.ask
    dsimp only
    exact client.request_keeps h _ _ _ _ _ houtside

theorem load_keeps_outside {J : σ → Prop} {gateway : Gateway σ} (h : gateway.Keeps J) (project : Uuid)
    (name : String) {world : World σ} (hworld : J world.outside) :
    J (load gateway project name world).2.outside := by
  have houtside := h.serves .catalogue world.outside hworld
  unfold load
  rcases Procedure.ifServed_eq gateway .catalogue world _ _ with hserved | hrefused
  · rw [hserved]
    exact houtside
  · rw [hrefused]
    exact houtside

theorem Finds.keeps_outside {J : σ → Prop} {gateway : Gateway σ} (h : gateway.Keeps J)
    {invocation : Chat.Invocation} {world after : World σ} {found : Except Notice Graph}
    (hfinds : Finds gateway invocation world found after) (hworld : J world.outside) : J after.outside := by
  have hresolved : ∀ guild, J ((Procedure.resolve guild invocation.commandName).run gateway guild world).2.outside :=
    fun guild => Procedure.run_keeps_outside h guild _ hworld
  have hloaded : ∀ {guild project resolved answer},
      (Procedure.resolve guild invocation.commandName).run gateway guild world = (.ok project, resolved) →
      load gateway project invocation.commandName resolved = (answer, after) → J after.outside := by
    intro guild project resolved answer hresolve hload
    have hkept := hresolved guild
    rw [hresolve] at hkept
    have hkept := load_keeps_outside h project invocation.commandName hkept
    rw [hload] at hkept
    exact hkept
  cases hfinds with
  | directMessage hguild => exact hworld
  | @notDeployed guild _ _ _ hguild hresolve =>
    have hkept := hresolved guild
    rw [hresolve] at hkept
    exact hkept
  | notConfigured hguild hresolve hload => exact hloaded hresolve hload
  | graph hguild hresolve hload => exact hloaded hresolve hload

/-- An invocation that is answered finds a graph, which is run, or a notice, which is sent. -/
theorem handle_of_ok {settings : Settings} {gateway : Gateway σ} {platform : Platform σ}
    {invocation : Chat.Invocation} {generator : Generator} {world : World σ} {status? : Option Status}
    (h : (handle settings gateway platform invocation generator world).1 = .ok status?) :
    ∃ found after, Finds gateway invocation world found after ∧
      handle settings gateway platform invocation generator world =
        match found with
        | .error notice => reject platform notice after
        | .ok graph => execute settings platform graph invocation.context generator after := by
  unfold handle at h ⊢
  match hguild : guildOf invocation with
  | .error cause =>
    rw [hguild] at h
    cases h
  | .ok none => exact ⟨_, world, .directMessage hguild, rfl⟩
  | .ok (some guild) =>
    rw [hguild] at h
    dsimp only at h ⊢
    unfold handleIn at h ⊢
    match hresolve : (Procedure.resolve guild invocation.commandName).run gateway guild world with
    | (.error fault, resolved) =>
      rw [hresolve] at h
      cases fault with
      | notDeployed _ _ => exact ⟨_, resolved, .notDeployed hguild hresolve, rfl⟩
      | _ => cases h
    | (.ok project, resolved) =>
      rw [hresolve] at h
      dsimp only at h ⊢
      match hload : load gateway project invocation.commandName resolved with
      | (.error fault, after) =>
        rw [hload] at h
        cases h
      | (.ok none, after) => exact ⟨_, after, .notConfigured hguild hresolve hload, rfl⟩
      | (.ok (some graph), after) => exact ⟨_, after, .graph hguild hresolve hload, rfl⟩

/-! ## Endings -/

/-- How an invocation that is answered ends: with a notice in place of a run, or with a run. -/
inductive Ending where
  | rejected (notice : Notice)
  /-- A run whose time was up has failed. -/
  | ran (status : Status)

namespace Ending

/-- The status that is returned; none unless a graph was run. -/
def status? : Ending → Option Status
  | rejected _ => none
  | ran status => some status

def notice? : Ending → Option Notice
  | rejected notice => some notice
  | ran status => if needsNotice status then some .failed else none

end Ending

def statusOf? : Except Live.Stop Result → Option Status
  | .error (.refused _) => none
  | .error (.timeout _) => some .failed
  | .ok result => some result.status

/-- No execution ends because its time was up and still has a result. -/
theorem ne_expired_of_statusOf? {settings : Settings} {platform : Platform σ} {graph : Graph} {context : Context}
    {generator : Generator} {world : Live.World σ} {status : Status}
    (h : statusOf? (Live.execute platform settings graph context generator world).1 = some status) :
    status ≠ .expired := by
  match hran : Live.execute platform settings graph context generator world with
  | (.error (.refused refusal), after) => rw [hran] at h; cases h
  | (.error (.timeout seconds), after) => rw [hran] at h; cases h; nofun
  | (.ok result, after) => rw [hran] at h; cases h; exact (Live.walk_of_execute hran).2.1

/-- How an invocation ends, and what the run of its graph sends. -/
inductive EndsIn (settings : Settings) (gateway : Gateway σ) (platform : Platform σ) (invocation : Chat.Invocation)
    (generator : Generator) (world : World σ) : Ending → List Value → Prop where
  | rejected {notice : Notice} {after : World σ} (hfinds : Finds gateway invocation world (.error notice) after) :
    EndsIn settings gateway platform invocation generator world (.rejected notice) []
  | ran {graph : Graph} {after : World σ} {status : Status} {visits : List (Run.Visit (Live.World σ))}
    (hfinds : Finds gateway invocation world (.ok graph) after)
    (hcourse : Live.IsCourse platform settings graph invocation.context generator ⟨false, after.outside⟩ visits
      (Live.execute platform settings graph invocation.context generator ⟨false, after.outside⟩))
    (hstatus : statusOf?
      (Live.execute platform settings graph invocation.context generator ⟨false, after.outside⟩).1 = some status) :
    EndsIn settings gateway platform invocation generator world (.ran status)
      (visits.flatMap (·.emissions graph invocation.context))

namespace EndsIn

variable {settings : Settings} {gateway : Gateway σ} {platform : Platform σ} {invocation : Chat.Invocation}
  {generator : Generator} {world : World σ} {ending : Ending} {emissions : List Value}
  (h : EndsIn settings gateway platform invocation generator world ending emissions)
include h

theorem emissions_eq_nil (hstatus : ending.status? = none) : emissions = [] := by
  cases h with
  | rejected _ => rfl
  | ran _ _ _ => cases hstatus

/-- A run that is completed or stopped is the only one without a notice. -/
theorem notice?_eq_none_iff :
    ending.notice? = none ↔ ending.status? = some .completed ∨ ending.status? = some .stopped := by
  cases h with
  | rejected _ => simp [Ending.notice?, Ending.status?]
  | @ran _ _ status _ _ _ hstatus =>
    have hexpired : status ≠ .expired := ne_expired_of_statusOf? hstatus
    cases status <;> simp_all [Ending.notice?, Ending.status?, needsNotice]

end EndsIn

/-! ## Notices -/

section
variable {platform : Platform σ}

theorem notify_inOrder (notice : Notice) {hasReplied : Bool} {world : World (σ × List Utterance)}
    (h : Live.InOrder platform ⟨hasReplied, world.outside⟩) :
    let told := notify platform.transcribed notice hasReplied world
    Utterance.payloads told.2.record = Utterance.payloads world.record ++ [notice.payload] ∧
      Utterance.InOrder told.2.record := by
  intro told
  let output : Output := ⟨.error, "", Live.noticeSender, .text notice.text, true⟩
  obtain ⟨-, -, hpayloads, -⟩ := Live.exists_reply_emit platform output ⟨hasReplied, world.outside⟩
  exact ⟨hpayloads, (Live.emit_inOrder output h).order⟩

/-- A notice in place of a run is all that is sent. -/
theorem reject_inOrder (notice : Notice) {world : World (σ × List Utterance)}
    (h : Live.InOrder platform ⟨false, world.outside⟩) (hrecord : world.record = []) :
    let told := reject platform.transcribed notice world
    (∀ status?, told.1 = .ok status? → status? = none) ∧
      Utterance.payloads told.2.record = [notice.payload] ∧ Utterance.InOrder told.2.record := by
  intro told
  obtain ⟨hpayloads, horder⟩ := notify_inOrder notice h
  rw [hrecord] at hpayloads
  refine ⟨fun status? hok => ?_, hpayloads, horder⟩
  obtain ⟨-, -, hnone⟩ := map_eq_ok.mp hok
  exact hnone.symm

/-- The notice that the status of a run calls for follows what the run sent. -/
theorem apologize_inOrder (status : Status) {hasReplied : Bool} (world : World (σ × List Utterance))
    (h : Live.InOrder platform ⟨hasReplied, world.outside⟩) :
    let told := if needsNotice status then apologize platform.transcribed status hasReplied world
      else (.ok (some status), world)
    (∀ status?, told.1 = .ok status? → status? = some status) ∧
      Utterance.payloads told.2.record =
        Utterance.payloads world.record ++ ((Ending.ran status).notice?.map Notice.payload).toList ∧
      Utterance.InOrder told.2.record := by
  intro told
  cases hneeds : needsNotice status with
  | true =>
    have htold : told = apologize platform.transcribed status hasReplied world := if_pos hneeds
    have hnotice : (Ending.ran status).notice? = some .failed := if_pos hneeds
    obtain ⟨hpayloads, horder⟩ := notify_inOrder .failed h
    rw [htold, hnotice]
    refine ⟨fun status? hok => ?_, hpayloads, horder⟩
    obtain ⟨-, -, hstatus⟩ := map_eq_ok.mp hok
    exact hstatus.symm
  | false =>
    have htold : told = (.ok (some status), world) := if_neg (by simp [hneeds])
    have hnotice : (Ending.ran status).notice? = none := if_neg (by simp [hneeds])
    rw [htold, hnotice]
    exact ⟨fun status? hok => (Except.ok.inj hok).symm, (List.append_nil _).symm, h.order⟩

/-- A run that is answered has a status, and is followed by the notice that its status calls for. -/
theorem execute_of_ok {settings : Settings} {platform : Platform τ} {graph : Graph} {context : Context}
    {generator : Generator} {world : World τ} {status? : Option Status}
    (h : (execute settings platform graph context generator world).1 = .ok status?) :
    let ran := Live.execute platform settings graph context generator ⟨false, world.outside⟩
    let after : World τ := { world with outside := ran.2.outside }
    ∃ status, statusOf? ran.1 = some status ∧
      execute settings platform graph context generator world =
        if needsNotice status then apologize platform status ran.2.hasReplied after
        else (.ok (some status), after) := by
  unfold execute at h ⊢
  generalize Live.execute platform settings graph context generator ⟨false, world.outside⟩ = ran at h
  obtain ⟨outcome, live⟩ := ran
  match outcome with
  | .error (.refused refusal) => cases h
  | .error (.timeout seconds) => exact ⟨.failed, rfl, rfl⟩
  | .ok result => exact ⟨result.status, rfl, rfl⟩

/-- A run that is answered sends the emissions of its visits, and the notice that its status calls for. -/
theorem execute_inOrder (h : platform.Keeps fun outside => platform.hasResponded outside = false)
    {settings : Settings} {graph : Graph} {context : Context} {generator : Generator}
    {world : World (σ × List Utterance)} (hworld : Live.InOrder platform ⟨false, world.outside⟩)
    (hrecord : world.record = []) {status? : Option Status}
    (hok : (execute settings platform.transcribed graph context generator world).1 = .ok status?) :
    let told := execute settings platform.transcribed graph context generator world
    let ran := Live.execute platform.transcribed settings graph context generator ⟨false, world.outside⟩
    ∃ status visits, statusOf? ran.1 = some status ∧ status? = some status ∧
      Live.IsCourse platform.transcribed settings graph context generator ⟨false, world.outside⟩ visits ran ∧
      Utterance.payloads told.2.record = visits.flatMap (·.emissions graph context) ++
        ((Ending.ran status).notice?.map Notice.payload).toList ∧
      Utterance.InOrder told.2.record := by
  intro told ran
  obtain ⟨status, hstatus, htold⟩ := execute_of_ok hok
  obtain ⟨visits, -, hcourse, -⟩ :=
    Live.exists_isCourse_execute platform graph context settings generator ⟨false, world.outside⟩
  have hsent : Utterance.payloads ran.2.transcript = visits.flatMap (·.emissions graph context) := by
    have hrefused : ∀ refusal, ran.1 ≠ .error (.refused refusal) := by
      intro refusal hrefusal
      rw [hrefusal] at hstatus
      cases hstatus
    rw [Live.payloads_of_isCourse hcourse hrefused]
    show Utterance.payloads world.record ++ _ = _
    rw [hrecord]
    rfl
  have hlive : Live.InOrder platform ran.2 := Live.execute_inOrder h settings graph context generator hworld
  obtain ⟨hsame, hpayloads, horder⟩ :=
    @apologize_inOrder _ platform status ran.2.hasReplied { world with outside := ran.2.outside } hlive
  rw [← htold] at hsame hpayloads horder
  refine ⟨status, visits, hstatus, hsame status? hok, hcourse, ?_, horder⟩
  rw [← hsent]
  exact hpayloads

/-- No call but a reply marks the interaction of an invocation as replied to. -/
theorem interaction_keeps (interaction : Chat.Interaction) (outage : Outage) (client : Chat.Client) (web : Web σ) :
    let platform := interaction.platform client web
    platform.Keeps (fun world => platform.hasResponded world = false) ∧
      (gateway outage client (Chat.Interaction.web web)).Keeps fun world => platform.hasResponded world = false :=
  ⟨interaction.platform_keeps client web, gateway_keeps (fun _ _ h => h) outage client⟩

/-- Whoever invokes a command is told what the run of its graph sends, and then the notice of the kind of its ending,
if that has one: all but a completed or stopped run have. The notice is all there is if there is no run, and as long
as replies go through, the first is the primary response and every other follows up. Writing the replies down changes
nothing. -/
theorem handle_notices {platform : Platform σ}
    (hplatform : platform.Keeps fun outside => platform.hasResponded outside = false) {gateway : Gateway σ}
    (hgateway : gateway.Keeps fun outside => platform.hasResponded outside = false) (settings : Settings)
    (invocation : Chat.Invocation) (generator : Generator) {world : World σ}
    (hfresh : platform.hasResponded world.outside = false) :
    let told := handle settings gateway.beside platform.transcribed invocation generator world.unrecorded
    handle settings gateway platform invocation generator world = (told.1, told.2.map Prod.fst) ∧
    ∀ status?, told.1 = .ok status? → ∃ ending emissions,
      EndsIn settings gateway.beside platform.transcribed invocation generator world.unrecorded ending emissions ∧
      status? = ending.status? ∧ (status? = none → emissions = []) ∧
      (ending.notice? = none ↔ status? = some .completed ∨ status? = some .stopped) ∧
      Utterance.payloads told.2.record = emissions ++ (ending.notice?.map Notice.payload).toList ∧
      ((∀ u ∈ Utterance.replies told.2.record, u.isDone = true) →
        Utterance.replies told.2.record = Utterance.delivered (Utterance.payloads told.2.record)) := by
  intro told
  refine ⟨handle_erase platform.transcribed_erases gateway.beside_erases settings invocation generator
    world.unrecorded, fun status? hok => ?_⟩
  suffices hends : ∃ ending emissions,
      EndsIn settings gateway.beside platform.transcribed invocation generator world.unrecorded ending emissions ∧
      status? = ending.status? ∧
      Utterance.payloads told.2.record = emissions ++ (ending.notice?.map Notice.payload).toList ∧
      Utterance.InOrder told.2.record by
    obtain ⟨ending, emissions, hends, rfl, hpayloads, horder⟩ := hends
    exact ⟨ending, emissions, hends, rfl, hends.emissions_eq_nil, hends.notice?_eq_none_iff, hpayloads, horder⟩
  obtain ⟨found, after, hfinds, htold⟩ := handle_of_ok hok
  obtain ⟨hresponded, hrecord⟩ := hfinds.keeps_outside (hgateway.beside []) ⟨hfresh, rfl⟩
  have hquiet : Live.InOrder platform ⟨false, after.outside⟩ := Live.inOrder_of_fresh hresponded hrecord
  cases found with
  | error notice =>
    have hrejected : told = reject platform.transcribed notice after := htold
    rw [hrejected] at hok ⊢
    obtain ⟨hnone, hpayloads, horder⟩ := reject_inOrder notice hquiet hrecord
    exact ⟨.rejected notice, [], .rejected hfinds, hnone status? hok, hpayloads, horder⟩
  | ok graph =>
    have hran : told = execute settings platform.transcribed graph invocation.context generator after := htold
    rw [hran] at hok ⊢
    obtain ⟨status, visits, hstatus, hsame, hcourse, hpayloads, horder⟩ :=
      execute_inOrder hplatform hquiet hrecord hok
    exact ⟨.ran status, _, .ran hfinds hcourse hstatus, hsame, hpayloads, horder⟩

/-- A snapshot of a graph that says hello and then calls no address. -/
def abrupt : Snapshot where
  command := ⟨2⟩
  version := 1
  graph := .object [
    ("nodes", .list [
      .object [("id", .text "start"), ("type", .text "START")],
      .object [("id", .text "hello"), ("type", .text "SEND_MESSAGE"), ("data", .object [("content", .text "hello")])],
      .object [("id", .text "call"), ("type", .text "API_CALL"), ("data", .object [("url", .text "")])]]),
    ("edges", .list [
      .object [("id", .text "on"), ("source", .text "start"), ("target", .text "hello")],
      .object [("id", .text "off"), ("source", .text "hello"), ("target", .text "call")]])]

theorem handle_notices_abrupt :
    let told := handle .usual rehearsed.beside (Rehearsal.platform {}).transcribed ping (.ofSeed 0)
      (stocked [abrupt]).unrecorded
    (Rehearsal.platform {}).Keeps (fun outside => (Rehearsal.platform {}).hasResponded outside = false) ∧
    rehearsed.Keeps (fun outside => (Rehearsal.platform {}).hasResponded outside = false) ∧
    (Rehearsal.platform {}).hasResponded (stocked [abrupt]).outside = false ∧
    told.1 = .ok (some .failed) ∧ (∀ u ∈ Utterance.replies told.2.record, u.isDone = true) ∧
    ∃ ending emissions,
      EndsIn .usual rehearsed.beside (Rehearsal.platform {}).transcribed ping (.ofSeed 0)
        (stocked [abrupt]).unrecorded ending emissions ∧
      some .failed = ending.status? ∧
      Utterance.replies told.2.record =
        Utterance.delivered (emissions ++ (ending.notice?.map Notice.payload).toList) := by
  intro told
  have hplatform : (Rehearsal.platform {}).Keeps
      fun outside => (Rehearsal.platform {}).hasResponded outside = false :=
    ⟨fun _ _ h => h, fun _ _ h => h, fun _ _ _ _ h => h, fun _ _ _ _ h => h, fun _ _ h => h⟩
  have hgateway : rehearsed.Keeps fun outside => (Rehearsal.platform {}).hasResponded outside = false :=
    gateway_keeps (fun _ _ h => h) .none _
  have hanswer : told.1 = .ok (some .failed) := toOption_eq_some.mp (by decide +kernel)
  have hdone : ∀ u ∈ Utterance.replies told.2.record, u.isDone = true := by decide +kernel
  obtain ⟨ending, emissions, hends, hstatus, -, -, hpayloads, horder⟩ :=
    (handle_notices hplatform hgateway .usual ping (.ofSeed 0) rfl).2 _ hanswer
  refine ⟨hplatform, hgateway, rfl, hanswer, hdone, ending, emissions, hends, hstatus, ?_⟩
  rw [← hpayloads]
  exact horder hdone

end

end Bot

end Service

end CommandFlow
