import CommandFlow.Chat.Interaction
import CommandFlow.Proofs.Run.Transcript

/-!
# Replying once

An interaction has at most one primary response, whatever becomes of the calls that a run and the notices
after it make.

* `Utterance.isAccepted` : a primary response that goes through; `isReplied` : the interaction has one;
* `RepliesOnce` : until there is a primary response nothing else is attempted, and then no other;
* `Platform.Keeps` : every call other than a reply keeps a property; `Live.execute_keeps` : so does an execution;
* `Chat.Interaction.InStep` : the flags of a run and of its interaction say what the transcript says;
* `Chat.Interaction.replies_once` : every run, with notices after it, replies once and in order.
-/

namespace CommandFlow

variable {σ : Type}

/-! ## Transcripts -/

namespace Utterance

/-- A primary response is attempted. -/
def isResponse : Utterance → Bool
  | responded _ _ => true
  | _ => false

/-- A follow-up is attempted. -/
def isFollowUp : Utterance → Bool
  | followedUp _ _ => true
  | _ => false

/-- A primary response goes through. -/
def isAccepted (u : Utterance) : Bool := u.isResponse && u.isDone

def fault? : Utterance → Option Fault
  | responded _ (.raised fault) => some fault
  | followedUp _ (.raised fault) => some fault
  | _ => none

end Utterance

theorem Reply.eq_done_of_isDone {answer : Reply Unit} (h : answer.isDone = true) : answer = .done () := by
  cases answer with
  | done a => rfl
  | raised fault => cases h
  | expired => cases h

/-- The interaction has a primary response: it had one from the start, or one went through. -/
def isReplied (start : Bool) (said : List Utterance) : Bool := start || said.any (·.isAccepted)

theorem isReplied_append (start : Bool) (said : List Utterance) (u : Utterance) :
    isReplied start (said ++ [u]) = (isReplied start said || u.isAccepted) := by
  simp [isReplied, Bool.or_assoc]

/-- Until the interaction has a primary response every reply is one, and then every reply is a follow-up. -/
structure RepliesOnce (start : Bool) (transcript : List Utterance) : Prop where
  /-- At most one primary response goes through. -/
  once : transcript.countP (·.isAccepted) ≤ 1
  later : ∀ before u after, transcript = before ++ u :: after → isReplied start before = true →
    u.isResponse = false
  first : ∀ before u after, transcript = before ++ u :: after → isReplied start before = false →
    u.isFollowUp = false
  /-- No reply is refused because there is a primary response. -/
  never : ∀ u ∈ transcript, u.fault? ≠ some .alreadyResponded

theorem repliesOnce_nil (start : Bool) : RepliesOnce start [] := by
  refine ⟨Nat.zero_le 1, ?_, ?_, by simp⟩ <;> simp

/-- An utterance of a transcript with one more is one of before, or the last. -/
theorem append_singleton_eq {transcript before after : List Utterance} {u v : Utterance}
    (h : transcript ++ [u] = before ++ v :: after) :
    (before = transcript ∧ v = u) ∨ ∃ rest, transcript = before ++ v :: rest := by
  rcases List.eq_nil_or_concat after with rfl | ⟨rest, w, rfl⟩
  · obtain ⟨hbefore, hlast⟩ := List.append_inj' h rfl
    cases hlast
    exact .inl ⟨hbefore.symm, rfl⟩
  · have h' : transcript ++ [u] = (before ++ v :: rest) ++ [w] := by simpa using h
    exact .inr ⟨rest, (List.append_inj' h' rfl).1⟩

theorem RepliesOnce.push {start : Bool} {transcript : List Utterance} {u : Utterance}
    (h : RepliesOnce start transcript)
    (hlater : isReplied start transcript = true → u.isResponse = false)
    (hfirst : isReplied start transcript = false → u.isFollowUp = false)
    (hnever : u.fault? ≠ some .alreadyResponded) : RepliesOnce start (transcript ++ [u]) where
  once := by
    rw [List.countP_append, List.countP_singleton]
    split
    · rename_i haccepted
      -- a primary response goes through only if none did before
      have hfresh : isReplied start transcript = false := by
        by_contra hreplied
        have hresponse := hlater (by simpa using hreplied)
        simp [Utterance.isAccepted, hresponse] at haccepted
      have hnone : transcript.any (·.isAccepted) = false := (Bool.or_eq_false_iff.mp hfresh).2
      have hcount : transcript.countP (·.isAccepted) = 0 := by
        rw [List.countP_eq_zero]
        intro v hv
        simpa using List.any_eq_false.mp hnone v hv
      omega
    · exact h.once
  later := by
    intro before v after heq hreplied
    rcases append_singleton_eq heq with ⟨rfl, rfl⟩ | ⟨rest, hrest⟩
    · exact hlater hreplied
    · exact h.later before v rest hrest hreplied
  first := by
    intro before v after heq hreplied
    rcases append_singleton_eq heq with ⟨rfl, rfl⟩ | ⟨rest, hrest⟩
    · exact hfirst hreplied
    · exact h.first before v rest hrest hreplied
  never := by
    intro v hv
    rcases List.mem_append.mp hv with hv | hv
    · exact h.never v hv
    · rw [List.mem_singleton.mp hv]
      exact hnever

/-! ## What a platform keeps -/

/-- Every call other than a reply keeps a property of the outside world. -/
structure Platform.Keeps (J : σ → Prop) (platform : Platform σ) : Prop where
  send : ∀ request outside, J outside → J (platform.send request outside).2
  setClock : ∀ clock outside, J outside → J (platform.setClock clock outside)
  addRole : ∀ guildId userId roleId outside, J outside →
    J (platform.addRole guildId userId roleId outside).2
  removeRole : ∀ guildId userId roleId outside, J outside →
    J (platform.removeRole guildId userId roleId outside).2
  awaitMessage : ∀ wait outside, J outside → J (platform.awaitMessage wait outside).2

namespace Live

theorem emit_of_isReplied (platform : Platform σ) (output : Output) {world : World σ}
    (h : (world.hasReplied || platform.hasResponded world.outside) = true) :
    emit platform output world = call (platform.followUp output.payload) world := if_pos h

theorem emit_of_fresh (platform : Platform σ) (output : Output) {world : World σ}
    (h : (world.hasReplied || platform.hasResponded world.outside) = false) :
    emit platform output world = noteReply (call (platform.respond output.payload) world) :=
  if_neg (by simp [h])

theorem timely_snd {α : Type} (web : Web σ) (answer : Reply α × σ) :
    (web.timely answer).2 = answer.2 := by
  unfold Web.timely
  split <;> rfl

section
variable {J : σ → Prop} {platform : Platform σ} (h : platform.Keeps J)
include h

theorem perform_keeps (poll : Binary64) (task : Task) {outside : σ} (houtside : J outside) :
    J (perform platform poll task outside).2 := by
  cases task with
  | addRole guildId userId roleId =>
    rw [perform, settled_snd]
    exact h.addRole guildId userId roleId outside houtside
  | removeRole guildId userId roleId =>
    rw [perform, settled_snd]
    exact h.removeRole guildId userId roleId outside houtside
  | call url method headers body =>
    simp only [perform, fetch]
    split
    · exact houtside
    · rw [timely_snd]
      exact h.send _ outside houtside
  | awaitReply timeout userId channelId =>
    simp only [perform, withSeconds]
    cases seconds? timeout with
    | none => exact houtside
    | some seconds => exact Run.andThen_keeps (h.awaitMessage _ outside houtside) fun _ _ h => h

theorem pause_keeps (poll : Binary64) (milliseconds : Nat) {world : World σ}
    (hworld : J world.outside) :
    J ((backend platform poll).pause milliseconds world).2.outside := by
  simp only [backend, withSeconds]
  cases seconds? milliseconds with
  | none => exact hworld
  | some seconds => exact h.setClock _ world.outside hworld

end

section
variable {platform : Platform σ} {I : World σ → Prop}
  (hemit : ∀ output world, I world → I (emit platform output world).2)
  (hkeeps : ∀ hasReplied, platform.Keeps fun outside => I ⟨hasReplied, outside⟩)
include hemit hkeeps

/-- What replies keep, and every other call whether or not the run has replied, the backend keeps. -/
theorem backend_keeps (poll : Binary64) : (backend platform poll).Keeps I where
  emit := hemit
  perform action world h := perform_keeps (hkeeps world.hasReplied) poll action.task h
  pause milliseconds world h := by
    have hflag : ((backend platform poll).pause milliseconds world).2.hasReplied = world.hasReplied := by
      simp only [backend, withSeconds]
      cases seconds? milliseconds <;> rfl
    have hkept := pause_keeps (hkeeps world.hasReplied) poll milliseconds h
    rw [← hflag] at hkept
    exact hkept

theorem execute_keeps (settings : Settings) (graph : Graph) (context : Context) (generator : Generator)
    {world : World σ} (h : I world) : I (execute platform settings graph context generator world).2 := by
  have hadjust : ∀ change (world : World σ), I world → I (adjust platform change world) :=
    fun change world => (hkeeps world.hasReplied).setClock _ world.outside
  cases htime : isTimeless settings.timeLimit with
  | true => exact (execute_of_isTimeless platform htime graph context generator world).symm ▸ h
  | false =>
    rw [execute_of_isTimeless_eq_false platform htime]
    have hrun := Run.run_keeps (backend_keeps hemit hkeeps settings.pollInterval) graph context settings.visitLimit
      generator (hadjust (·.allow settings.timeLimit) world h)
    exact hadjust Clock.free _ hrun

end

end Live

/-! ## Interactions -/

namespace Chat

theorem Client.request_fst_ne (client : Client) (web : Web σ) (method path : String)
    (headers : Entries String) (body : Http.Body) (parameters : Entries String) (outside : σ) :
    (client.request web method path headers body parameters outside).1 ≠
      .error .alreadyResponded := by
  unfold Client.request
  split
  · simp
  · split
    · simp
    · split <;> simp

theorem Client.order_fst_ne (client : Client) (web : Web σ) (method path : String)
    (headers : Entries String) (body : Http.Body) (outside : σ) :
    (client.order web method path headers body outside).1 ≠ .error .alreadyResponded := by
  have hrequest := client.request_fst_ne web method path headers body [] outside
  unfold Client.order
  dsimp only
  cases hanswer : (client.request web method path headers body [] outside).1 with
  | ok response => simp [Except.map]
  | error fault =>
    rw [hanswer] at hrequest
    simpa [Except.map] using hrequest

theorem Client.ask_fst_ne (client : Client) (web : Web σ) (method path : String)
    (headers : Entries String) (body : Http.Body) (parameters : Entries String) (outside : σ) :
    (client.ask web method path headers body parameters outside).1 ≠ .error .alreadyResponded := by
  have hrequest := client.request_fst_ne web method path headers body parameters outside
  unfold Client.ask
  dsimp only
  cases hanswer : (client.request web method path headers body parameters outside).1 with
  | error fault =>
    rw [hanswer] at hrequest
    simpa [Except.bind] using hrequest
  | ok response =>
    unfold Except.bind Client.content
    dsimp only
    cases response.json web.library <;> simp [Except.mapError]

theorem Client.respond_fst_ne (client : Client) (web : Web σ) (interactionId token : String)
    (payload : Value) (outside : σ) :
    (client.respond web interactionId token payload outside).1 ≠ .error .alreadyResponded :=
  client.order_fst_ne web _ _ _ _ outside

theorem Client.followUp_fst_ne (client : Client) (web : Web σ) (token : String) (payload : Value)
    (outside : σ) :
    (client.followUp web token payload outside).1 ≠ .error .alreadyResponded :=
  client.ask_fst_ne web _ _ _ _ _ outside

namespace Interaction

section
variable (interaction : Interaction) (client : Client) (web : CommandFlow.Web σ)

theorem call_responded {α : Type} (make : σ → Except Fault α × σ) (world : World σ) :
    (call web make world).2.responded = world.responded := rfl

theorem call_fst_ne {α : Type} {make : σ → Except Fault α × σ} {world : World σ} {fault : Fault}
    (h : (make world.outside).1 ≠ .error fault) : (call web make world).1 ≠ .raised fault := by
  unfold call Web.timely
  dsimp only
  split
  · simp
  · dsimp only
    cases hanswer : (make world.outside).1 with
    | ok a => simp [replied]
    | error other =>
      rw [hanswer] at h
      simpa [replied] using h

theorem followUp_spec (payload : Value) (world : World σ) :
    (interaction.followUp client web payload world).2.responded = world.responded ∧
      (interaction.followUp client web payload world).1 ≠ .raised .alreadyResponded := by
  have hcall := call_fst_ne web
    (client.followUp_fst_ne web interaction.token payload world.outside)
  have hresponded := call_responded web (client.followUp web interaction.token payload) world
  unfold Interaction.followUp
  revert hcall hresponded
  obtain ⟨reply, after⟩ := call web (client.followUp web interaction.token payload) world
  intro hcall hresponded
  cases reply with
  | done a => exact ⟨hresponded, by simp [Run.andThen]⟩
  | raised fault => exact ⟨hresponded, by simpa [Run.andThen] using hcall⟩
  | expired => exact ⟨hresponded, by simp [Run.andThen]⟩

/-- A primary response to an interaction without one leaves a mark if it goes through. -/
theorem respond_spec (payload : Value) {world : World σ} (hworld : world.responded = false) :
    (interaction.respond client web payload world).2.responded =
        (interaction.respond client web payload world).1.isDone ∧
      (interaction.respond client web payload world).1 ≠ .raised .alreadyResponded := by
  have hcall := call_fst_ne web
    (client.respond_fst_ne web interaction.id interaction.token payload world.outside)
  have hresponded := call_responded web
    (client.respond web interaction.id interaction.token payload) world
  rw [hworld] at hresponded
  unfold Interaction.respond
  rw [hworld]
  revert hcall hresponded
  obtain ⟨reply, after⟩ := call web (client.respond web interaction.id interaction.token payload) world
  intro hcall hresponded
  cases reply with
  | done a => simp [Run.andThen, Reply.isDone]
  | raised fault => exact ⟨hresponded, by simpa [Run.andThen] using hcall⟩
  | expired => exact ⟨hresponded, by simp [Run.andThen]⟩

end

/-! ## Flags and transcripts -/

/-- The transcript replies once, and the flags of the run and of the interaction say whether there is a primary
response. -/
structure InStep (start : Bool) (world : Live.World (World σ × List Utterance)) : Prop where
  once : RepliesOnce start world.transcript
  flags : (world.hasReplied || world.outside.1.responded) = isReplied start world.transcript

section
variable (interaction : Interaction) (client : Client) (web : CommandFlow.Web σ) {start : Bool}

theorem emit_inStep (output : Output) {world : Live.World (World σ × List Utterance)}
    (h : InStep start world) :
    InStep start (Live.emit (interaction.platform client web).transcribed output world).2 := by
  obtain ⟨hasReplied, ⟨inner, transcript⟩⟩ := world
  have honce : RepliesOnce start transcript := h.once
  have hflags : (hasReplied || inner.responded) = isReplied start transcript := h.flags
  by_cases hreplied : (hasReplied || inner.responded) = true
  · -- a follow-up, which leaves the flags as they are
    rw [Live.emit_of_isReplied (interaction.platform client web).transcribed output hreplied]
    show InStep start (Live.call (Platform.uttered (.followedUp output.payload)
      (interaction.followUp client web output.payload)) ⟨hasReplied, inner, transcript⟩).2
    obtain ⟨hresponded, hne⟩ := interaction.followUp_spec client web output.payload inner
    unfold Live.call Platform.uttered
    revert hresponded hne
    obtain ⟨reply, after⟩ := interaction.followUp client web output.payload inner
    intro hresponded hne
    refine ⟨honce.push (fun _ => rfl) (fun hfresh => ?_) ?_, ?_⟩
    · rw [← hflags, hreplied] at hfresh
      cases hfresh
    · cases reply with
      | raised fault => simpa [Utterance.fault?] using hne
      | done a => simp [Utterance.fault?]
      | expired => simp [Utterance.fault?]
    · show (hasReplied || after.responded) = isReplied start (transcript ++ [_])
      rw [isReplied_append, ← hflags, hresponded]
      exact (Bool.or_false _).symm
  · -- a primary response, which sets both flags if it goes through
    have hfresh : (hasReplied || inner.responded) = false := by simpa using hreplied
    rw [Live.emit_of_fresh (interaction.platform client web).transcribed output hfresh]
    show InStep start (Live.noteReply (Live.call (Platform.uttered (.responded output.payload)
      (interaction.respond client web output.payload)) ⟨hasReplied, inner, transcript⟩)).2
    obtain ⟨rfl, hinner⟩ := Bool.or_eq_false_iff.mp hfresh
    obtain ⟨hresponded, hne⟩ := interaction.respond_spec client web output.payload hinner
    rw [hfresh] at hflags
    unfold Live.noteReply Live.call Platform.uttered
    revert hresponded hne
    obtain ⟨reply, after⟩ := interaction.respond client web output.payload inner
    intro hresponded hne
    have hpush : RepliesOnce start (transcript ++ [.responded output.payload reply]) := by
      refine honce.push (fun hlater => ?_) (fun _ => rfl) ?_
      · rw [← hflags] at hlater
        cases hlater
      · cases reply with
        | raised fault => simpa [Utterance.fault?] using hne
        | done a => simp [Utterance.fault?]
        | expired => simp [Utterance.fault?]
    have hafter : isReplied start (transcript ++ [.responded output.payload reply]) =
        reply.isDone := by
      rw [isReplied_append, ← hflags]
      rfl
    cases reply with
    | done a => exact ⟨hpush, hafter.symm⟩
    | raised fault => exact ⟨hpush, hresponded.trans hafter.symm⟩
    | expired => exact ⟨hpush, hresponded.trans hafter.symm⟩

/-- Flags and transcript stay in step if none of them changes. -/
theorem InStep.congr {hasReplied : Bool} {outside outside' : World σ × List Utterance}
    (h : InStep start ⟨hasReplied, outside⟩) (htranscript : outside'.2 = outside.2)
    (hresponded : outside'.1.responded = outside.1.responded) :
    InStep start ⟨hasReplied, outside'⟩ := by
  obtain ⟨inner, transcript⟩ := outside'
  dsimp only at htranscript hresponded
  subst htranscript
  refine ⟨h.once, ?_⟩
  show (hasReplied || inner.responded) = _
  rw [hresponded]
  exact h.flags

theorem silent_inStep {α : Type} {hasReplied : Bool} {outside : World σ × List Utterance}
    {make : World σ → α × World σ} (hmake : (make outside.1).2.responded = outside.1.responded)
    (h : InStep start ⟨hasReplied, outside⟩) :
    InStep start ⟨hasReplied, (Platform.silent make outside).2⟩ :=
  h.congr rfl hmake

theorem InStep.hear {hasReplied : Bool} {outside : World σ × List Utterance} {wait : MessageWait}
    {answer : Reply Value} {inner : World σ} (h : InStep start ⟨hasReplied, outside⟩)
    (hresponded : inner.responded = outside.1.responded) :
    InStep start ⟨hasReplied, inner, outside.2 ++ [.awaited wait answer]⟩ where
  once := h.once.push (fun _ => rfl) (fun _ => rfl) (by simp [Utterance.fault?])
  flags := by
    have hflags : (hasReplied || outside.1.responded) = isReplied start outside.2 := h.flags
    show (hasReplied || inner.responded) = isReplied start (outside.2 ++ [_])
    rw [isReplied_append, hresponded, hflags]
    exact (Bool.or_false _).symm

theorem responded_addRole (guildId userId roleId : String) (world : World σ) :
    ((interaction.platform client web).addRole guildId userId roleId world).2.responded = world.responded := by
  have hcall : (interaction.platform client web).addRole guildId userId roleId =
    call web (client.addRole web guildId userId roleId) := rfl
  rw [hcall, call_responded]

theorem responded_removeRole (guildId userId roleId : String) (world : World σ) :
    ((interaction.platform client web).removeRole guildId userId roleId world).2.responded = world.responded := by
  have hcall : (interaction.platform client web).removeRole guildId userId roleId =
    call web (client.removeRole web guildId userId roleId) := rfl
  rw [hcall, call_responded]

theorem responded_awaitMessage (wait : MessageWait) (world : World σ) :
    ((interaction.platform client web).awaitMessage wait world).2.responded = world.responded := rfl

theorem platform_inStep (hasReplied : Bool) :
    (interaction.platform client web).transcribed.Keeps fun outside =>
      InStep start ⟨hasReplied, outside⟩ where
  send _ _ h := h.congr rfl rfl
  setClock _ _ h := h.congr rfl rfl
  addRole guildId userId roleId outside h :=
    silent_inStep (interaction.responded_addRole client web guildId userId roleId outside.1) h
  removeRole guildId userId roleId outside h :=
    silent_inStep (interaction.responded_removeRole client web guildId userId roleId outside.1) h
  awaitMessage wait outside h := h.hear (interaction.responded_awaitMessage client web wait outside.1)

theorem execute_inStep (settings : Settings) (graph : Graph) (context : Context)
    (generator : Generator) {world : Live.World (World σ × List Utterance)}
    (h : InStep start world) :
    InStep start (Live.execute (interaction.platform client web).transcribed settings graph context
      generator world).2 :=
  Live.execute_keeps (fun output _ => interaction.emit_inStep client web output)
    (interaction.platform_inStep client web) settings graph context generator h

end

end Interaction

end Chat

/-! ## Notices -/

namespace Live

/-- Sends notices one after the other, whatever becomes of each. -/
def sendNotices (platform : Platform σ) (notices : List (String × Bool)) (world : World σ) :
    World σ :=
  notices.foldl (fun world notice => (sendNotice platform notice.1 notice.2 world).2) world

def noticePayload (notice : String × Bool) : Value :=
  Output.payload ⟨.error, "", noticeSender, .text notice.1, notice.2⟩

theorem sendNotices_erase {τ : Type} {erase : τ → σ} {kept : Platform τ} {platform : Platform σ}
    (h : kept.Erases erase platform) (notices : List (String × Bool)) (world : World τ) :
    sendNotices platform notices (world.map erase) =
      (sendNotices kept notices world).map erase := by
  induction notices generalizing world with
  | nil => rfl
  | cons notice rest ih =>
    have hnotice : (sendNotice platform notice.1 notice.2 (world.map erase)).2 =
        (sendNotice kept notice.1 notice.2 world).2.map erase :=
      congrArg Prod.snd (sendNotice_erase h notice.1 notice.2 world)
    show sendNotices platform rest (sendNotice platform notice.1 notice.2 (world.map erase)).2 = _
    rw [hnotice]
    exact ih _

theorem exists_transcript_sendNotices (platform : Platform σ) (notices : List (String × Bool))
    (world : World (σ × List Utterance)) :
    ∃ said, (sendNotices platform.transcribed notices world).transcript = world.transcript ++ said ∧
      said.map (·.saying) = notices.map fun notice => .reply (noticePayload notice) := by
  induction notices generalizing world with
  | nil => exact ⟨[], (List.append_nil _).symm, rfl⟩
  | cons notice rest ih =>
    obtain ⟨u, hu, hsaying, -⟩ := exists_transcript_emit platform
      ⟨.error, "", noticeSender, .text notice.1, notice.2⟩ world
    obtain ⟨said, hsaid, hsayings⟩ := ih (sendNotice platform.transcribed notice.1 notice.2 world).2
    refine ⟨u :: said, ?_, ?_⟩
    · show (sendNotices platform.transcribed rest
        (sendNotice platform.transcribed notice.1 notice.2 world).2).transcript = _
      have hnotice : (sendNotice platform.transcribed notice.1 notice.2 world).2.transcript =
          world.transcript ++ [u] := hu
      rw [hsaid, hnotice, List.append_assoc]
      rfl
    · rw [List.map_cons, List.map_cons, hsaying, hsayings]
      rfl

end Live

namespace Chat.Interaction

theorem sendNotices_inStep (interaction : Interaction) (client : Client) (web : CommandFlow.Web σ)
    {start : Bool} (notices : List (String × Bool))
    {world : Live.World (World σ × List Utterance)} (h : InStep start world) :
    InStep start (Live.sendNotices (interaction.platform client web).transcribed notices world) := by
  induction notices generalizing world with
  | nil => exact h
  | cons notice rest ih => exact ih (interaction.emit_inStep client web _ h)

/-- A run that answers an interaction, and notices after it, reply once. The run attempts what its visits ask
for, in order, up to the first that does not go through, and the notices come after it. Writing the
transcript changes nothing. -/
theorem replies_once (interaction : Interaction) (client : Client) (web : CommandFlow.Web σ)
    (settings : Settings) (graph : Graph) (context : Context) (generator : Generator)
    (notices : List (String × Bool)) (hasReplied responded : Bool) (outside : σ) :
    let platform := interaction.platform client web
    let world : Live.World (World σ × List Utterance) := ⟨hasReplied, ⟨responded, outside⟩, []⟩
    let ran := Live.execute platform.transcribed settings graph context generator world
    let after := Live.sendNotices platform.transcribed notices ran.2
    (Live.execute platform settings graph context generator ⟨hasReplied, responded, outside⟩ =
        (ran.1, ran.2.map Prod.fst) ∧
      Live.sendNotices platform notices (ran.2.map Prod.fst) = after.map Prod.fst) ∧
    RepliesOnce (hasReplied || responded) after.transcript ∧
    ∃ visits said,
      Live.IsCourse platform.transcribed settings graph context generator world visits ran ∧
      Voices ran.2.transcript (visits.flatMap (·.sayings settings.pollInterval graph context)) ∧
      after.transcript = ran.2.transcript ++ said ∧
      said.map (·.saying) = notices.map fun notice => .reply (Live.noticePayload notice) := by
  intro platform world ran after
  have herases := platform.transcribed_erases
  have hstart : InStep (hasReplied || responded) world :=
    ⟨repliesOnce_nil _, (Bool.or_false _).symm⟩
  have hran : InStep (hasReplied || responded) ran.2 :=
    interaction.execute_inStep client web settings graph context generator hstart
  have hafter : InStep (hasReplied || responded) after :=
    interaction.sendNotices_inStep client web notices hran
  obtain ⟨visits, said, hcourse, htranscript, hvoices⟩ :=
    Live.exists_isCourse_execute platform graph context settings generator world
  obtain ⟨noticed, hnoticed, hsayings⟩ :=
    Live.exists_transcript_sendNotices platform notices ran.2
  refine ⟨⟨?_, ?_⟩, hafter.once, visits, noticed, hcourse, ?_, hnoticed, hsayings⟩
  · exact Live.execute_erase herases settings graph context generator world
  · exact Live.sendNotices_erase herases notices ran.2
  · have hsaid : ran.2.transcript = said := htranscript
    rw [hsaid]
    exact hvoices

end Chat.Interaction

end CommandFlow
