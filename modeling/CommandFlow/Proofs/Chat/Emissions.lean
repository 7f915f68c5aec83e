import CommandFlow.Proofs.Chat.Reply

/-!
# What a run sends

A run sends the outputs of its visits one after the other, and replies with them in order: the first is the primary
response and every other follows up.

* `Utterance.replies`, `Utterance.payloads` : the replies of a transcript and what they deliver;
  `Utterance.delivered` : replies that go through in order; `Utterance.InOrder` : a transcript has such replies;
* `Run.Visit.emissions` : what a visit sends; `Live.payloads_of_isCourse` : an execution sends the emissions of its
  visits;
* `Live.InOrder` : the replies are in order and the run knows of them; `Live.emit_inOrder`,
  `Live.execute_inOrder` : outputs and executions keep to that;
* `Chat.Interaction.platform_keeps` : no call but a reply marks an interaction as replied to.
-/

namespace CommandFlow

variable {σ : Type}

/-! ## Replies -/

def Saying.payload? : Saying → Option Value
  | reply payload => some payload
  | wait _ => none

namespace Utterance

/-- What a reply delivers. -/
def payload? (u : Utterance) : Option Value := u.saying.payload?

def replies (said : List Utterance) : List Utterance := said.filter (·.payload?.isSome)

def payloads (said : List Utterance) : List Value := said.filterMap (·.payload?)

/-- Payloads that go through one after the other: the first as the primary response, every other as a follow-up. -/
def delivered : List Value → List Utterance
  | [] => []
  | first :: later => .responded first (.done ()) :: later.map (.followedUp · (.done ()))

/-- If every reply goes through, the first is the primary response and every other follows up. -/
def InOrder (said : List Utterance) : Prop :=
  (∀ u ∈ replies said, u.isDone = true) → replies said = delivered (payloads said)

theorem replies_append (said said' : List Utterance) : replies (said ++ said') = replies said ++ replies said' :=
  List.filter_append ..

theorem payloads_append (said said' : List Utterance) :
    payloads (said ++ said') = payloads said ++ payloads said' :=
  List.filterMap_append ..

theorem delivered_append {payloads : List Value} (h : payloads ≠ []) (payload : Value) :
    delivered (payloads ++ [payload]) = delivered payloads ++ [.followedUp payload (.done ())] := by
  obtain ⟨first, later, rfl⟩ := List.exists_cons_of_ne_nil h
  simp [delivered]

end Utterance

/-- Where a reply is asked for before waits alone, the utterances attempt that reply and no other. -/
theorem Voices.payloads_eq {said : List Utterance} (payload? : Option Value) (waits : List Saying)
    (h : Voices said ((payload?.map Saying.reply).toList ++ waits)) (hwaits : ∀ s ∈ waits, s.payload? = none) :
    Utterance.payloads said = payload?.toList := by
  have hsilent : ∀ rest : List Utterance, rest.map (·.saying) <+: waits → Utterance.payloads rest = [] := by
    intro rest hrest
    refine List.filterMap_eq_nil_iff.mpr fun u hu => ?_
    exact hwaits u.saying (hrest.subset (List.mem_map_of_mem hu))
  cases payload? with
  | none => exact hsilent said h.order
  | some payload =>
    cases said with
    | nil => cases h.complete fun u hu => by cases hu
    | cons u rest =>
      obtain ⟨hsaying, hrest⟩ := List.cons_prefix_cons.mp h.order
      have hu : u.payload? = some payload := congrArg Saying.payload? hsaying
      show List.filterMap (·.payload?) (u :: rest) = [payload]
      rw [List.filterMap_cons_some hu]
      exact congrArg (payload :: ·) (hsilent rest hrest)

/-! ## What a run sends -/

/-- What a visit sends, whatever becomes of its action; nothing if its node fails. -/
def Run.Visit.emissions (graph : Graph) (context : Context) (v : Run.Visit σ) : List Value :=
  match (v.node.outcome v.bindings context graph.declarations v.generator).1 with
  | .ok outcome => (outcome.output.map (·.payload)).toList
  | .error _ => []

namespace Live

section
variable {platform : Platform σ} {graph : Graph} {context : Context}

theorem payloads_leaves (poll : Binary64) (v : Run.Visit (World (σ × List Utterance))) :
    Utterance.payloads (v.leaves (backend platform.transcribed poll) graph context).transcript =
      Utterance.payloads v.world.transcript ++ v.emissions graph context := by
  obtain ⟨said, htranscript, hvoices⟩ := exists_transcript_leaves platform graph context poll v
  rw [htranscript, Utterance.payloads_append]
  congr 1
  unfold Run.Visit.sayings at hvoices
  unfold Run.Visit.emissions
  cases houtcome : (v.node.outcome v.bindings context graph.declarations v.generator).1 with
  | error fault =>
    rw [houtcome] at hvoices
    exact Voices.payloads_eq none [] hvoices nofun
  | ok outcome =>
    rw [houtcome] at hvoices
    unfold Outcome.sayings at hvoices
    refine Voices.payloads_eq _ ((outcome.action.bind (·.wait? poll)).map Saying.wait).toList ?_ ?_
    · rw [Option.map_map]
      exact hvoices
    · intro s hs
      obtain ⟨wait, -, rfl⟩ := Option.map_eq_some_iff.mp (Option.mem_toList.mp hs)
      rfl

/-- Visits that lead from one to the next send what each of them does. -/
theorem payloads_chain (poll : Binary64) (v : Run.Visit (World (σ × List Utterance)))
    (visits : List (Run.Visit (World (σ × List Utterance))))
    (hleads : (v :: visits).IsChain (Run.Leads (backend platform.transcribed poll) graph context)) :
    ∀ w ∈ (v :: visits).getLast?,
      Utterance.payloads (w.leaves (backend platform.transcribed poll) graph context).transcript =
        Utterance.payloads v.world.transcript ++ (v :: visits).flatMap (·.emissions graph context) := by
  induction visits generalizing v with
  | nil =>
    rintro w ⟨⟩
    rw [List.getLast_singleton, payloads_leaves, List.flatMap_singleton]
  | cons w rest ih =>
    obtain ⟨⟨-, outcome, writes, hpasses, -⟩, hrest⟩ := List.isChain_cons_cons.mp hleads
    have hworld : v.leaves (backend platform.transcribed poll) graph context = w.world := by
      rw [Run.Visit.leaves, Run.visit_of_passes hpasses]
    intro u hu
    rw [List.getLast?_cons_cons] at hu
    rw [ih w hrest u hu, ← hworld, payloads_leaves, List.append_assoc]
    rfl

theorem payloads_trail {poll : Binary64} {limit : Nat} {v : Run.Visit (World (σ × List Utterance))}
    {visits : List (Run.Visit (World (σ × List Utterance)))} {result : Result} {world : World (σ × List Utterance)}
    (h : Run.IsTrail (backend platform.transcribed poll) graph context limit v visits result world) :
    Utterance.payloads world.transcript =
      Utterance.payloads v.world.transcript ++ visits.flatMap (·.emissions graph context) := by
  cases visits with
  | nil =>
    obtain ⟨-, rfl⟩ := h.nonempty rfl
    exact (List.append_nil _).symm
  | cons w rest =>
    obtain rfl : w = v := h.first w rfl
    have hlast : (w :: rest).getLast? = some ((w :: rest).getLast (by simp)) :=
      List.getLast?_eq_some_getLast (by simp)
    rw [← h.last _ hlast]
    exact payloads_chain poll w rest h.leads _ hlast

/-- An execution that is not refused sends the emissions of its visits. -/
theorem payloads_of_isCourse {settings : Settings} {generator : Generator} {world : World (σ × List Utterance)}
    {visits : List (Run.Visit (World (σ × List Utterance)))}
    {ran : Except Stop Result × World (σ × List Utterance)}
    (h : IsCourse platform.transcribed settings graph context generator world visits ran)
    (hran : ∀ refusal, ran.1 ≠ .error (.refused refusal)) :
    Utterance.payloads ran.2.transcript =
      Utterance.payloads world.transcript ++ visits.flatMap (·.emissions graph context) := by
  cases h with
  | timeless htimeless => exact (List.append_nil _).symm
  | refused refusal after => exact absurd rfl (hran refusal)
  | walked node visits result after hfirst hlimit htrail => exact payloads_trail htrail

end

/-! ## Replies in order -/

/-- The replies are in order, before the first of them there is no primary response, and the run knows of them. -/
structure InOrder (platform : Platform σ) (world : World (σ × List Utterance)) : Prop where
  order : Utterance.InOrder world.transcript
  fresh : Utterance.payloads world.transcript = [] →
    world.hasReplied = false ∧ platform.hasResponded world.outside.1 = false
  noted : (∀ u ∈ Utterance.replies world.transcript, u.isDone = true) →
    Utterance.payloads world.transcript ≠ [] → world.hasReplied = true

section
variable {platform : Platform σ}

theorem outside_noteReply (answer : Reply Unit × World σ) : (noteReply answer).2.outside = answer.2.outside := by
  obtain ⟨reply, world⟩ := answer
  cases reply <;> rfl

theorem hasReplied_noteReply {answer : Reply Unit × World σ} (h : answer.1 = .done ()) :
    (noteReply answer).2.hasReplied = true := by
  obtain ⟨reply, world⟩ := answer
  dsimp only at h
  rw [h]
  rfl

variable (platform) in
/-- What an output adds to the transcript. If the reply goes through, it is a follow-up if there is a primary response
and else that response, of which the run takes note. -/
theorem exists_reply_emit (output : Output) (world : World (σ × List Utterance)) :
    ∃ u : Utterance,
      Utterance.replies (emit platform.transcribed output world).2.transcript =
        Utterance.replies world.transcript ++ [u] ∧
      Utterance.payloads (emit platform.transcribed output world).2.transcript =
        Utterance.payloads world.transcript ++ [output.payload] ∧
      (u.isDone = true → (world.hasReplied || platform.hasResponded world.outside.1) = true →
        u = .followedUp output.payload (.done ()) ∧
          (emit platform.transcribed output world).2.hasReplied = world.hasReplied) ∧
      (u.isDone = true → (world.hasReplied || platform.hasResponded world.outside.1) = false →
        u = .responded output.payload (.done ()) ∧
          (emit platform.transcribed output world).2.hasReplied = true) := by
  cases hreplied : world.hasReplied || platform.hasResponded world.outside.1 with
  | true =>
    rw [emit_of_isReplied platform.transcribed output hreplied]
    refine ⟨.followedUp output.payload (platform.followUp output.payload world.outside.1).1,
      Utterance.replies_append _ _, Utterance.payloads_append _ _, fun hdone _ => ?_, nofun⟩
    exact ⟨congrArg _ (Reply.eq_done_of_isDone hdone), rfl⟩
  | false =>
    rw [emit_of_fresh platform.transcribed output hreplied]
    let answer := call (platform.transcribed.respond output.payload) world
    have htranscript : (noteReply answer).2.transcript =
        world.transcript ++ [.responded output.payload (platform.respond output.payload world.outside.1).1] :=
      congrArg Prod.snd (outside_noteReply answer)
    refine ⟨.responded output.payload (platform.respond output.payload world.outside.1).1, ?_, ?_, nofun,
      fun hdone _ => ?_⟩
    · rw [htranscript]
      exact Utterance.replies_append _ _
    · rw [htranscript]
      exact Utterance.payloads_append _ _
    · have hanswer : answer.1 = .done () := Reply.eq_done_of_isDone hdone
      exact ⟨congrArg _ hanswer, hasReplied_noteReply hanswer⟩

theorem emit_inOrder (output : Output) {world : World (σ × List Utterance)} (h : InOrder platform world) :
    InOrder platform (emit platform.transcribed output world).2 := by
  obtain ⟨u, hreplies, hpayloads, hlater, hfirst⟩ := exists_reply_emit platform output world
  have hpush : (∀ w ∈ Utterance.replies world.transcript ++ [u], w.isDone = true) →
      Utterance.replies world.transcript ++ [u] =
        Utterance.delivered (Utterance.payloads world.transcript ++ [output.payload]) ∧
      (emit platform.transcribed output world).2.hasReplied = true := by
    intro hdone
    have hbefore : ∀ w ∈ Utterance.replies world.transcript, w.isDone = true :=
      fun w hw => hdone w (List.mem_append_left _ hw)
    have hu : u.isDone = true := hdone u (List.mem_append_right _ (List.mem_singleton_self u))
    rw [h.order hbefore]
    by_cases hnone : Utterance.payloads world.transcript = []
    · obtain ⟨hreplied, hresponded⟩ := h.fresh hnone
      obtain ⟨rfl, hflag⟩ := hfirst hu (by rw [hreplied, hresponded]; rfl)
      rw [hnone]
      exact ⟨rfl, hflag⟩
    · have hreplied : world.hasReplied = true := h.noted hbefore hnone
      obtain ⟨rfl, hflag⟩ := hlater hu (by rw [hreplied]; rfl)
      rw [Utterance.delivered_append hnone]
      exact ⟨rfl, hflag.trans hreplied⟩
  rw [← hreplies, ← hpayloads] at hpush
  refine ⟨fun hdone => (hpush hdone).1, fun hnone => ?_, fun hdone _ => (hpush hdone).2⟩
  rw [hpayloads] at hnone
  cases List.append_ne_nil_of_right_ne_nil _ (List.cons_ne_nil _ _) hnone

theorem inOrder_of_fresh {outside : σ × List Utterance} (hresponded : platform.hasResponded outside.1 = false)
    (hnone : outside.2 = []) : InOrder platform ⟨false, outside⟩ := by
  obtain ⟨inner, transcript⟩ := outside
  dsimp only at hnone
  subst hnone
  exact ⟨fun _ => rfl, fun _ => ⟨rfl, hresponded⟩, fun _ h => absurd rfl h⟩

/-- Calls without a reply that leave the interaction without a response leave everything in order. -/
theorem InOrder.congr {hasReplied : Bool} {outside outside' : σ × List Utterance}
    (h : InOrder platform ⟨hasReplied, outside⟩)
    (hreplies : Utterance.replies outside'.2 = Utterance.replies outside.2)
    (hpayloads : Utterance.payloads outside'.2 = Utterance.payloads outside.2)
    (hresponded : platform.hasResponded outside.1 = false → platform.hasResponded outside'.1 = false) :
    InOrder platform ⟨hasReplied, outside'⟩ := by
  obtain ⟨horder, hfresh, hnoted⟩ := h
  unfold Utterance.InOrder World.transcript at *
  rw [← hreplies, ← hpayloads] at horder hnoted
  rw [← hpayloads] at hfresh
  exact ⟨horder, fun hnone => (hfresh hnone).imp_right hresponded, hnoted⟩

theorem platform_inOrder (h : platform.Keeps fun outside => platform.hasResponded outside = false)
    (hasReplied : Bool) : platform.transcribed.Keeps fun outside => InOrder platform ⟨hasReplied, outside⟩ where
  send request outside hin := hin.congr rfl rfl (h.send request outside.1)
  setClock clock outside hin := hin.congr rfl rfl (h.setClock clock outside.1)
  addRole guildId userId roleId outside hin := hin.congr rfl rfl (h.addRole guildId userId roleId outside.1)
  removeRole guildId userId roleId outside hin := hin.congr rfl rfl (h.removeRole guildId userId roleId outside.1)
  awaitMessage wait outside hin :=
    hin.congr ((Utterance.replies_append _ _).trans (List.append_nil _))
      ((Utterance.payloads_append _ _).trans (List.append_nil _)) (h.awaitMessage wait outside.1)

theorem execute_inOrder (h : platform.Keeps fun outside => platform.hasResponded outside = false)
    (settings : Settings) (graph : Graph) (context : Context) (generator : Generator)
    {world : World (σ × List Utterance)} (hworld : InOrder platform world) :
    InOrder platform (execute platform.transcribed settings graph context generator world).2 :=
  execute_keeps (fun output _ => emit_inOrder output) (platform_inOrder h) settings graph context generator hworld

end

end Live

/-- No call but a reply marks an interaction as replied to. -/
theorem Chat.Interaction.platform_keeps (interaction : Interaction) (client : Client) (web : CommandFlow.Web σ) :
    (interaction.platform client web).Keeps fun world => world.responded = false where
  send _ _ h := h
  setClock _ _ h := h
  addRole guildId userId roleId world h :=
    (interaction.responded_addRole client web guildId userId roleId world).trans h
  removeRole guildId userId roleId world h :=
    (interaction.responded_removeRole client web guildId userId roleId world).trans h
  awaitMessage wait world h := (interaction.responded_awaitMessage client web wait world).trans h

end CommandFlow
