import CommandFlow.Chat.Client
import CommandFlow.Proofs.Except
import CommandFlow.Value.Equality
import Mathlib.Data.List.Perm.Basic
import Mathlib.Order.Bounds.Basic

/-!
# Waiting for a message

The client looks for a message of a user again and again, until one is there or the time is over.

* `Message`, `Lists` : what a message tells, and a response that lists messages;
* `IsSilent`, `IsEarliest` : none of the messages is by the user, or a message is the first of those that are;
* `Polls` : a web that answers at once from a sequence of responses and notes when it was asked for what;
* `Client.exists_look` : one look; `Client.cursor` : the greatest identifier before a look;
* `Client.waiting_step` : a look ends the wait or is followed by the next; `Client.exists_ends_waiting` : all the
  looks of a wait;
* `Client.IsDue` : when a look is due; `Client.awaitMessage_polled` : what a wait comes to.
-/

namespace CommandFlow.Chat

/-! ## Messages -/

structure Message where
  id : Int
  author : String
  content : String

def Message.IsTold (message : Message) (item : Value) : Prop :=
  ∃ members, Client.identified item = .ok (message.id, members) ∧
    Client.authorOf members = .ok message.author ∧ Client.contentOf members = message.content

/-- The response is a success and lists well-formed messages. -/
def Lists (library : Http.Library) (response : Http.Response) (batch : List Message) : Prop :=
  (200 ≤ response.status ∧ response.status < 300) ∧
    ∃ items, response.json library = .ok (.list items) ∧ List.Forall₂ Message.IsTold batch items

def IsSilent (userId : String) (batch : List Message) : Prop := ∀ message ∈ batch, message.author ≠ userId

/-- The message has the least identifier of those by the user. -/
structure IsEarliest (userId : String) (batch : List Message) (message : Message) : Prop where
  mem : message ∈ batch
  author : message.author = userId
  least : ∀ other ∈ batch, other.author = userId → message.id ≤ other.id

/-! ## A web that is asked -/

/-- The clock, and the requests made so far with their times. -/
structure Polls where
  clock : Clock
  asked : List (Nat × Http.Request) := []

/-- The web that answers at once, with one response after the other. -/
def Polls.web (library : Http.Library) (answers : Nat → Http.Response) : Web Polls where
  library
  send request polls :=
    (.ok (answers polls.asked.length), { polls with asked := polls.asked ++ [(polls.clock.now, request)] })
  clock polls := polls.clock
  setClock clock polls := { polls with clock }

theorem Polls.clock_web (library : Http.Library) (answers : Nat → Http.Response) (polls : Polls) :
    (Polls.web library answers).clock polls = polls.clock := rfl

theorem Polls.sleep_web (library : Http.Library) (answers : Nat → Http.Response) (ticks now : Nat)
    (asked : List (Nat × Http.Request)) :
    (Polls.web library answers).sleep ticks { clock := { now }, asked } =
      (.done (), { clock := { now := now + ticks }, asked }) := rfl

namespace Client

/-! ## One look -/

/-- What a look finds: nothing by the user, and the greatest identifier so far, or the user's first message. -/
def Finds (userId : String) (after : Int) (batch : List Message) : Int ⊕ String → Prop
  | .inl greatest => IsSilent userId batch ∧ greatest = (batch.map (·.id)).foldl max after
  | .inr content => ∃ message, IsEarliest userId batch message ∧ content = message.content

/-- The members are those of the message. -/
def Tells (message : Message) (identified : Int × Entries Value) : Prop :=
  identified.1 = message.id ∧ authorOf identified.2 = .ok message.author ∧ contentOf identified.2 = message.content

/-- Messages by rising identifier are gone through up to the first by the user. -/
theorem exists_finds_firstBy (userId : String) {batch : List Message} {rows : List (Int × Entries Value)}
    (htells : List.Forall₂ Tells batch rows) (hsorted : batch.Pairwise fun a b => a.id ≤ b.id) (after : Int) :
    ∃ found, firstBy userId after rows = .ok found ∧ Finds userId after batch found := by
  induction htells generalizing after with
  | nil => exact ⟨.inl after, rfl, by simp [Finds, IsSilent]⟩
  | @cons message row batch rows hrow hrows ih =>
    obtain ⟨hid, hauthor, hcontent⟩ := hrow
    obtain ⟨hleast, hrest⟩ := List.pairwise_cons.mp hsorted
    have hfirst : firstBy userId after (row :: rows) =
        if message.author = userId then .ok (.inr message.content)
        else firstBy userId (max after message.id) rows := by
      rw [firstBy, hauthor, hid, hcontent]
      rfl
    rw [hfirst]
    by_cases huser : message.author = userId
    · rw [if_pos huser]
      refine ⟨_, rfl, message, ⟨List.mem_cons_self, huser, fun other hother _ => ?_⟩, rfl⟩
      rcases List.mem_cons.mp hother with rfl | hother
      · exact Int.le_refl _
      · exact hleast other hother
    · rw [if_neg huser]
      obtain ⟨found, hfound, hfinds⟩ := ih hrest (max after message.id)
      refine ⟨found, hfound, ?_⟩
      cases found with
      | inl greatest => exact ⟨List.forall_mem_cons.mpr ⟨huser, hfinds.1⟩, hfinds.2⟩
      | inr content =>
        obtain ⟨earliest, hearliest, hcontent⟩ := hfinds
        refine ⟨earliest, ⟨List.mem_cons_of_mem _ hearliest.mem, hearliest.author, ?_⟩, hcontent⟩
        intro other hother hother_author
        rcases List.mem_cons.mp hother with rfl | hother
        · exact absurd hother_author huser
        · exact hearliest.least other hother hother_author

/-- The order of the messages does not matter for what is found. -/
theorem Finds.of_perm {userId : String} {after : Int} {batch batch' : List Message} {found : Int ⊕ String}
    (h : Finds userId after batch found) (hperm : batch.Perm batch') : Finds userId after batch' found := by
  cases found with
  | inl greatest =>
    obtain ⟨hsilent, rfl⟩ := h
    refine ⟨fun message hmessage => hsilent message (hperm.mem_iff.mpr hmessage), ?_⟩
    exact (hperm.map _).foldl_eq after
  | inr content =>
    obtain ⟨message, hearliest, hcontent⟩ := h
    refine ⟨message, ⟨hperm.mem_iff.mp hearliest.mem, hearliest.author, fun other hother hauthor => ?_⟩,
      hcontent⟩
    exact hearliest.least other (hperm.mem_iff.mpr hother) hauthor

theorem exists_mapM_identified {batch : List Message} {items : List Value}
    (h : List.Forall₂ Message.IsTold batch items) :
    ∃ rows, items.mapM identified = .ok rows ∧ List.Forall₂ Tells batch rows := by
  induction h with
  | nil => exact ⟨[], rfl, .nil⟩
  | @cons message item batch items hitem hitems ih =>
    obtain ⟨members, hidentified, hauthor, hcontent⟩ := hitem
    obtain ⟨rows, hrows, htells⟩ := ih
    refine ⟨(message.id, members) :: rows, ?_, .cons ⟨rfl, hauthor, hcontent⟩ htells⟩
    rw [List.mapM_cons, hidentified, hrows]
    rfl

/-- What is found among well-formed messages, in whatever order they are listed. -/
theorem exists_finds (userId : String) {batch : List Message} {items : List Value}
    (h : List.Forall₂ Message.IsTold batch items) (after : Int) :
    ∃ found, (sortedMessages (.list items)).bind (firstBy userId after) = .ok found ∧
      Finds userId after batch found := by
  obtain ⟨rows, hrows, htells⟩ := exists_mapM_identified h
  let sorted := rows.mergeSort fun a b => decide (a.1 ≤ b.1)
  have hsorted : sortedMessages (.list items) = .ok sorted := by
    rw [sortedMessages, hrows]
    rfl
  obtain ⟨batch', htells', hperm⟩ := List.perm_comp_forall₂ (List.mergeSort_perm rows _) htells.flip
  have hids : sorted.map (·.1) = batch'.map (·.id) := by
    rw [← List.forall₂_eq_eq_eq, List.forall₂_map_left_iff, List.forall₂_map_right_iff]
    exact htells'.imp fun _ _ h => h.1
  have hrows : sorted.Pairwise fun a b => decide (a.1 ≤ b.1) = true :=
    List.pairwise_mergeSort (fun a b c => by simpa using Int.le_trans) (fun a b => by simpa using Int.le_total _ _) rows
  simp only [decide_eq_true_eq] at hrows
  have hpairwise : (batch'.map (·.id)).Pairwise (· ≤ ·) := by
    rw [← hids, List.pairwise_map]
    exact hrows
  obtain ⟨found, hfound, hfinds⟩ := exists_finds_firstBy userId htells'.flip (List.pairwise_map.mp hpairwise) after
  refine ⟨found, ?_, hfinds.of_perm hperm⟩
  rw [hsorted]
  exact hfound

def listRequest (client : Client) (library : Http.Library) (channelId : String) (after : Int) :
    Except Http.Fault Http.Request :=
  Http.Request.make library "GET" (client.root ++ s!"/channels/{channelId}/messages") client.authorization .empty
    [("after", Value.integerText after), ("limit", Value.integerText usualCount)]

/-- Whether the request can be written does not depend on the identifier. -/
theorem exists_listRequest {client : Client} {library : Http.Library} {channelId : String} {after : Int}
    {request : Http.Request} (h : client.listRequest library channelId after = .ok request) (other : Int) :
    ∃ request, client.listRequest library channelId other = .ok request := by
  unfold listRequest Http.Request.make at h ⊢
  cases hread : library.readAddress (client.root ++ s!"/channels/{channelId}/messages") with
  | error problem =>
    rw [hread] at h
    cases h
  | ok address =>
    rw [hread] at h
    simp only [Except.mapError, bind, Except.bind] at h ⊢
    cases hforeign : Http.foreignHeader? client.authorization with
    | some text =>
      rw [hforeign] at h
      cases h
    | none => exact ⟨_, rfl⟩

/-- One look: the request is made, and something is found in the next batch. -/
theorem exists_look {client : Client} {library : Http.Library} {answers : Nat → Http.Response} {channelId : String}
    {after : Int}
    {request : Http.Request} (hrequest : client.listRequest library channelId after = .ok request) (userId : String)
    (polls : Polls) {batch : List Message} (hlists : Lists library (answers polls.asked.length) batch) :
    ∃ found, Finds userId after batch found ∧
      client.look (Polls.web library answers) channelId userId after polls =
        (.ok found, { polls with asked := polls.asked ++ [(polls.clock.now, request)] }) := by
  obtain ⟨⟨hleast, hmost⟩, items, hitems, htold⟩ := hlists
  obtain ⟨found, hfound, hfinds⟩ := exists_finds userId htold after
  refine ⟨found, hfinds, ?_⟩
  have hcheck : (answers polls.asked.length).check request = .ok () := by
    simp [Http.Response.check, hleast, hmost]
  have hcontent : content (Polls.web library answers).library (answers polls.asked.length) = .ok (.list items) := by
    rw [content, Polls.web, hitems]
    rfl
  rw [listRequest] at hrequest
  have hmade : client.request (Polls.web library answers) "GET" s!"/channels/{channelId}/messages" client.authorization
      .empty [("after", Value.integerText after), ("limit", Value.integerText usualCount)] polls =
        (.ok (answers polls.asked.length),
          { polls with asked := polls.asked ++ [(polls.clock.now, request)] }) := by
    simp only [Client.request, hrequest, Polls.web, hcheck]
  simp only [look, listMessages, ask, hmade]
  simp only [Except.bind, hcontent] at hfound ⊢
  rw [hfound]

/-! ## All looks -/

/-- The greatest of an identifier and those of the messages that came before a look. -/
def cursor (first : Int) (batches : Nat → List Message) (i : Nat) : Int :=
  ((List.range i).flatMap fun j => (batches j).map (·.id)).foldl max first

theorem isGreatest_foldl_max (ids : List Int) (first : Int) :
    IsGreatest {id | id = first ∨ id ∈ ids} (ids.foldl max first) := by
  induction ids generalizing first with
  | nil => exact ⟨.inl rfl, by rintro id (rfl | hid); exacts [Int.le_refl _, absurd hid List.not_mem_nil]⟩
  | cons next rest ih =>
    obtain ⟨hmem, hle⟩ := ih (max first next)
    refine ⟨?_, ?_⟩
    · rcases hmem with h | h
      · rw [List.foldl_cons, h]
        rcases Int.le_total first next with hlt | hge
        · exact .inr (by simp [Int.max_eq_right hlt])
        · exact .inl (Int.max_eq_left hge)
      · exact .inr (List.mem_cons_of_mem _ h)
    · rintro id (rfl | hid)
      · exact Int.le_trans (Int.le_max_left _ _) (hle (.inl rfl))
      · rcases List.mem_cons.mp hid with rfl | hid
        · exact Int.le_trans (Int.le_max_right _ _) (hle (.inl rfl))
        · exact hle (.inr hid)

/-- The cursor is the greatest of those identifiers. -/
theorem isGreatest_cursor (first : Int) (batches : Nat → List Message) (i : Nat) :
    IsGreatest {id | id = first ∨ ∃ j < i, ∃ message ∈ batches j, id = message.id}
      (cursor first batches i) := by
  have hmem (id : Int) : id ∈ ((List.range i).flatMap fun j => (batches j).map (·.id)) ↔
      ∃ j < i, ∃ message ∈ batches j, id = message.id := by
    simp [eq_comm]
  simp only [← hmem]
  exact isGreatest_foldl_max _ first

theorem cursor_mono (first : Int) (batches : Nat → List Message) {i j : Nat} (h : i ≤ j) :
    cursor first batches i ≤ cursor first batches j := by
  refine (isGreatest_cursor first batches j).2 ?_
  rcases (isGreatest_cursor first batches i).1 with hfirst | ⟨k, hk, hid⟩
  · exact .inl hfirst
  · exact .inr ⟨k, Nat.lt_of_lt_of_le hk h, hid⟩

theorem cursor_succ (first : Int) (batches : Nat → List Message) (i : Nat) :
    cursor first batches (i + 1) = ((batches i).map (·.id)).foldl max (cursor first batches i) := by
  simp [cursor, List.range_succ]

/-- A wait ends with one of its looks: there was nothing in those before, and what is found is the first message by
the user, or nothing when that look is the last one. -/
structure Ends (userId : String) (batches : Nat → List Message) (first last final : Nat) (reply : Reply Value) :
    Prop where
  within : first ≤ last ∧ last ≤ final
  silent : ∀ i, first ≤ i → i < last → IsSilent userId (batches i)
  found : (∃ message, IsEarliest userId (batches last) message ∧ reply = .done (.text message.content)) ∨
    last = final ∧ IsSilent userId (batches last) ∧ reply = .done .null

/-- A wait has no answer exactly if none of its looks shows a message by the user. -/
theorem Ends.eq_null_iff {userId : String} {batches : Nat → List Message} {first last final : Nat}
    {reply : Reply Value} (h : Ends userId batches first last final reply) :
    reply = .done .null ↔ ∀ i, first ≤ i → i ≤ final → IsSilent userId (batches i) := by
  rcases h.found with ⟨message, hearliest, rfl⟩ | ⟨rfl, hsilent, rfl⟩
  · refine iff_of_false (by simp) fun hall => ?_
    exact hall last h.within.1 h.within.2 message hearliest.mem hearliest.author
  · refine iff_of_true rfl fun i hi hle => ?_
    rcases Nat.eq_or_lt_of_le hle with rfl | hlt
    · exact hsilent
    · exact h.silent i hi hlt

/-- The time of a look: a multiple of the stride, but no more than the whole time. -/
def dueTime (stride time i : Nat) : Nat := min (i * stride) time

/-- The looks are over when the whole time is. -/
structure Strides (stride time final : Nat) : Prop where
  positive : 0 < stride
  before : ∀ i < final, i * stride < time
  last : time ≤ final * stride

theorem Strides.dueTime_lt {stride time final i : Nat} (h : Strides stride time final) (hi : i < final) :
    dueTime stride time i < time :=
  Nat.lt_of_le_of_lt (Nat.min_le_left _ _) (h.before i hi)

theorem Strides.dueTime_final {stride time final : Nat} (h : Strides stride time final) :
    dueTime stride time final = time :=
  Nat.min_eq_right h.last

theorem dueTime_succ (stride time i : Nat) :
    dueTime stride time (i + 1) = dueTime stride time i + min stride (time - dueTime stride time i) := by
  unfold dueTime
  rw [Nat.succ_mul]
  omega

section
variable {client : Client} {library : Http.Library} {wait : MessageWait} {answers : Nat → Http.Response}
    {batches : Nat → List Message}
  (hlists : ∀ i, Lists library (answers i) (batches i))
  (hrequest : ∀ after, ∃ request, client.listRequest library wait.channelId after = .ok request)
  {stride time final : Nat} (hstrides : Strides stride time final)
  (hpause : ∀ remaining ≤ time, pauseWithin wait.poll remaining = min stride remaining)

/-- A wait that was begun at a time, from one of its looks on. -/
def waiting (client : Client) (library : Http.Library) (wait : MessageWait) (answers : Nat → Http.Response)
    (batches : Nat → List Message)
    (stride time start : Nat) (first : Int) (i : Nat) (asked : List (Nat × Http.Request)) : Reply Value × Polls :=
  lookFor (client.look (Polls.web library answers) wait.channelId wait.userId) (Polls.web library answers)
    wait.poll (start + time)
    (time - dueTime stride time i) (cursor first batches i)
    { clock := { now := start + dueTime stride time i }, asked }

include hlists hrequest hstrides hpause

/-- A look ends the wait, or is followed by the next. -/
theorem waiting_step (start : Nat) (first : Int) {i : Nat} (hi : i ≤ final) {asked : List (Nat × Http.Request)}
    (hasked : asked.length = i) :
    ∃ request, client.listRequest library wait.channelId (cursor first batches i) = .ok request ∧
      let waited := waiting client library wait answers batches stride time start first i asked
      let noted := asked ++ [(start + dueTime stride time i, request)]
      (∃ message, IsEarliest wait.userId (batches i) message ∧
        waited.1 = .done (.text message.content) ∧ waited.2.asked = noted) ∨
      IsSilent wait.userId (batches i) ∧
        (i = final ∧ waited.1 = .done .null ∧ waited.2.asked = noted ∨
        i < final ∧ waited = waiting client library wait answers batches stride time start first (i + 1) noted) := by
  obtain ⟨request, hmade⟩ := hrequest (cursor first batches i)
  obtain ⟨found, hfinds, hlook⟩ := exists_look hmade wait.userId
    { clock := { now := start + dueTime stride time i }, asked } (hlists asked.length)
  rw [hasked] at hfinds
  refine ⟨request, hmade, ?_⟩
  unfold waiting
  rw [lookFor, hlook]
  cases found with
  | inr content =>
    obtain ⟨message, hearliest, rfl⟩ := hfinds
    exact .inl ⟨message, hearliest, rfl, rfl⟩
  | inl greatest =>
    obtain ⟨hsilent, hgreatest⟩ := hfinds
    rw [← cursor_succ] at hgreatest
    subst hgreatest
    refine .inr ⟨hsilent, ?_⟩
    have hremaining : min (time - dueTime stride time i)
        (start + time - (start + dueTime stride time i)) = time - dueTime stride time i := by omega
    simp only [Polls.clock_web, hremaining]
    rcases Nat.lt_or_ge i final with hlt | hge
    · have hdue := hstrides.dueTime_lt hlt
      rw [dif_neg (by omega), hpause _ (Nat.sub_le _ _)]
      refine .inr ⟨hlt, ?_⟩
      rw [Polls.sleep_web, dueTime_succ, ← Nat.add_assoc, ← Nat.sub_sub]
      rfl
    · obtain rfl : i = final := Nat.le_antisymm hi hge
      rw [dif_pos (by rw [hstrides.dueTime_final]; omega)]
      exact .inl ⟨rfl, rfl, rfl⟩

theorem exists_ends_waiting (start : Nat) (first : Int) {i : Nat} (hi : i ≤ final)
    {asked : List (Nat × Http.Request)} (hasked : asked.length = i) :
    let waited := waiting client library wait answers batches stride time start first i asked
    ∃ last, Ends wait.userId batches i last final waited.1 ∧
      waited.2.asked.map (Prod.map id Except.ok) = asked.map (Prod.map id Except.ok) ++
        (List.range' i (last + 1 - i)).map fun j =>
          (start + dueTime stride time j, client.listRequest library wait.channelId (cursor first batches j)) := by
  obtain ⟨request, hmade, hstep⟩ := waiting_step hlists hrequest hstrides hpause start first hi hasked
  have hnoted : (asked ++ [(start + dueTime stride time i, request)]).map (Prod.map id Except.ok) =
      asked.map (Prod.map id Except.ok) ++ (List.range' i 1).map fun j =>
        (start + dueTime stride time j, client.listRequest library wait.channelId (cursor first batches j)) := by
    rw [List.range'_one, List.map_append, List.map_singleton, List.map_singleton, hmade]
    rfl
  rcases hstep with
    ⟨message, hearliest, hreply, hafter⟩ | ⟨hsilent, ⟨rfl, hreply, hafter⟩ | ⟨hlt, hgoes⟩⟩
  · refine ⟨i, ⟨⟨Nat.le_refl i, hi⟩, fun j hj hlt => by omega, .inl ⟨message, hearliest, hreply⟩⟩, ?_⟩
    rw [hafter, hnoted, Nat.add_sub_cancel_left]
  · refine ⟨i, ⟨⟨Nat.le_refl i, hi⟩, fun j hj hlt => by omega, .inr ⟨rfl, hsilent, hreply⟩⟩, ?_⟩
    rw [hafter, hnoted, Nat.add_sub_cancel_left]
  · obtain ⟨last, hends, hlooks⟩ := exists_ends_waiting start first (show i + 1 ≤ final by omega)
      (show (asked ++ [(start + dueTime stride time i, request)]).length = i + 1 by simp [hasked])
    rw [← hgoes] at hends hlooks
    obtain ⟨⟨hfirst, hlast⟩, hsilents, hfound⟩ := hends
    refine ⟨last, ⟨⟨by omega, hlast⟩, fun j hj hlt => ?_, hfound⟩, ?_⟩
    · rcases Nat.eq_or_lt_of_le hj with rfl | hj
      · exact hsilent
      · exact hsilents j hj hlt
    · have hcount : last + 1 - i = 1 + (last + 1 - (i + 1)) := by omega
      rw [hlooks, hnoted, List.append_assoc, ← List.map_append, hcount, ← List.range'_append_1]
termination_by final - i

end

/-! ## When the looks are due -/

/-- The ticks of a wait of so many seconds. A wait that has no end has none. -/
def ticks? : Binary64 → Option Nat
  | .finite false steps => some steps
  | .finite true _ => some 0
  | .infinite true => some 0
  | _ => none

theorem ticksOf_of_ticks? {seconds : Binary64} {ticks : Nat} (h : ticks? seconds = some ticks) :
    ticksOf seconds = ticks := by
  unfold ticks? at h
  split at h
  · exact Option.some.inj h
  · exact Option.some.inj h
  · exact Option.some.inj h
  · cases h

/-- The time is a multiple of the interval; no time but zero is one of an infinite interval. -/
def IsMultiple : Binary64 → Nat → Prop
  | .finite _ steps, t => steps ∣ t
  | _, t => t = 0

/-- A look is due at the end of the time, and before that at the multiples of the interval. -/
def IsDue (poll : Binary64) (timeout t : Nat) : Prop := t = timeout ∨ t < timeout ∧ IsMultiple poll t

theorem exists_strides {stride : Nat} (h : 0 < stride) (time : Nat) : ∃ final, Strides stride time final := by
  refine ⟨(time + stride - 1) / stride, h, fun i hi => ?_, ?_⟩
  · have hle := (Nat.le_div_iff_mul_le h).mp (Nat.succ_le_of_lt hi)
    rw [Nat.succ_mul] at hle
    omega
  · have hlt := Nat.lt_mul_of_div_lt (Nat.lt_succ_self ((time + stride - 1) / stride)) h
    rw [Nat.succ_mul] at hlt
    omega

/-- The stride of an interval: as long as it is, or as long as there is time. -/
theorem exists_stride {poll : Binary64} (hpoll : Binary64.zero.lt poll = true) (time : Nat) :
    ∃ stride, 0 < stride ∧ (∀ remaining ≤ time, pauseWithin poll remaining = min stride remaining) ∧
      ∀ t < time, IsMultiple poll t ↔ stride ∣ t := by
  cases poll with
  | nan => cases hpoll
  | finite negative steps =>
    have hpositive : 0 < Binary64.signed negative steps := by
      simpa [Binary64.lt, Binary64.zero, Binary64.signed] using hpoll
    cases negative with
    | true => simp [Binary64.signed] at hpositive; omega
    | false =>
      have hsteps : 0 < steps := by simpa [Binary64.signed] using hpositive
      refine ⟨steps, hsteps, fun remaining _ => ?_, fun _ _ => Iff.rfl⟩
      simp only [pauseWithin, ticksOf, Nat.max_eq_right hsteps]
  | infinite negative =>
    cases negative with
    | true => cases hpoll
    | false =>
      refine ⟨max 1 time, by omega, fun remaining hle => ?_, fun t hlt => ?_⟩
      · simp only [pauseWithin]
        omega
      · refine ⟨fun h => ?_, fun h => Nat.eq_zero_of_dvd_of_lt h (by omega)⟩
        rw [show t = 0 from h]
        exact Nat.dvd_zero _

def times (stride time final : Nat) : List Nat := (List.range (final + 1)).map (dueTime stride time)

theorem Strides.pairwise_times {stride time final : Nat} (h : Strides stride time final) :
    (times stride time final).Pairwise (· < ·) := by
  rw [times, List.pairwise_map]
  refine List.pairwise_lt_range.imp_of_mem fun {i j} _ hj hlt => ?_
  rw [List.mem_range] at hj
  have hi := h.before i (by omega)
  have hlater := Nat.mul_lt_mul_of_pos_right hlt h.positive
  unfold dueTime
  omega

theorem Strides.mem_times_iff {stride time final : Nat} (h : Strides stride time final) (t : Nat) :
    t ∈ times stride time final ↔ t = time ∨ t < time ∧ stride ∣ t := by
  simp only [times, List.mem_map, List.mem_range]
  constructor
  · rintro ⟨i, hi, rfl⟩
    rcases Nat.eq_or_lt_of_le (Nat.le_of_lt_succ hi) with rfl | hlt
    · exact .inl h.dueTime_final
    · refine .inr ⟨h.dueTime_lt hlt, ?_⟩
      rw [dueTime, Nat.min_eq_left (Nat.le_of_lt (h.before i hlt))]
      exact Nat.dvd_mul_left stride i
  · rintro (rfl | ⟨hlt, i, rfl⟩)
    · exact ⟨final, by omega, h.dueTime_final⟩
    · rw [Nat.mul_comm] at hlt ⊢
      refine ⟨i, ?_, Nat.min_eq_left (Nat.le_of_lt hlt)⟩
      have hle := Nat.lt_of_mul_lt_mul_right (Nat.lt_of_lt_of_le hlt h.last)
      omega

/-- The looks as they are noted: each at its time, with the cursor that it has. -/
theorem map_range_eq_mapIdx {α : Type} (stride time final : Nat) {count : Nat} (h : count ≤ final + 1)
    (look : Nat → Nat → α) :
    (List.range' 0 count).map (fun i => look i (dueTime stride time i)) =
      ((times stride time final).take count).mapIdx look := by
  rw [times, ← List.map_take, List.take_range, Nat.min_eq_left h, List.range_eq_range']
  refine List.ext_getElem (by simp) fun i hi _ => ?_
  simp

/-- What a wait comes to that has an end, whatever it is shown. -/
theorem awaitMessage_polled (client : Client) {library : Http.Library} {wait : MessageWait}
    {answers : Nat → Http.Response} {batches : Nat → List Message} {timeout : Nat} {request : Http.Request}
    (hpoll : Binary64.zero.lt wait.poll = true) (htimeout : ticks? wait.timeout = some timeout)
    (hrequest : client.listRequest library wait.channelId 0 = .ok request)
    (hlists : ∀ i, Lists library (answers i) (batches i)) (start : Nat) :
    let polls : Polls := { clock := { now := start } }
    let first : Int := snowflake (client.moment polls.clock)
    let waited := client.awaitMessage (Polls.web library answers) wait polls
    ∃ times : List Nat, times.Pairwise (· < ·) ∧ (∀ t, t ∈ times ↔ IsDue wait.poll timeout t) ∧
      (∃ last, Ends wait.userId batches 0 last (times.length - 1) waited.1 ∧
        waited.2.asked.map (Prod.map id Except.ok) = (times.take (last + 1)).mapIdx fun i t =>
          (start + t, client.listRequest library wait.channelId (cursor first batches i))) ∧
      (waited.1 = .done .null ↔ ∀ i < times.length, IsSilent wait.userId (batches i)) ∧
      (∀ i, IsGreatest {id | id = first ∨ ∃ j < i, ∃ message ∈ batches j, id = message.id}
        (cursor first batches i)) ∧
      ∀ i j, i ≤ j → cursor first batches i ≤ cursor first batches j := by
  intro polls first waited
  obtain ⟨stride, hpositive, hpause, hmultiple⟩ := exists_stride hpoll timeout
  obtain ⟨final, hstrides⟩ := exists_strides hpositive timeout
  have hwaited : waited = waiting client library wait answers batches stride timeout start first 0 [] := by
    have hdue : dueTime stride timeout 0 = 0 := by simp [dueTime]
    show client.awaitMessage (Polls.web library answers) wait polls = _
    unfold awaitMessage waiting
    rw [hdue, ticksOf_of_ticks? htimeout]
    rfl
  have hlength : (times stride timeout final).length = final + 1 := by simp [times]
  obtain ⟨last, hends, hlooks⟩ :=
    exists_ends_waiting hlists (exists_listRequest hrequest) hstrides hpause start first
    (Nat.zero_le final) (show ([] : List (Nat × Http.Request)).length = 0 from rfl)
  rw [← hwaited] at hends hlooks
  refine ⟨times stride timeout final, hstrides.pairwise_times, fun t => ?_, ⟨last, ?_, ?_⟩, ?_, ?_, ?_⟩
  · rw [hstrides.mem_times_iff]
    exact or_congr Iff.rfl (and_congr_right fun hlt => (hmultiple t hlt).symm)
  · rw [hlength]
    exact hends
  · rw [hlooks, ← map_range_eq_mapIdx stride timeout final (Nat.succ_le_succ hends.within.2)]
    rfl
  · rw [hlength, hends.eq_null_iff]
    exact ⟨fun h i hi => h i (Nat.zero_le i) (Nat.le_of_lt_succ hi), fun h i _ hi => h i (Nat.lt_succ_of_le hi)⟩
  · exact fun i => isGreatest_cursor first batches i
  · exact fun i j hle => cursor_mono first batches hle

/-- A library that reads the addresses of a service at one host. -/
def nearby : Http.Library :=
  { Http.Library.standIn with
    readAddress url := .ok { scheme := "http", host := "a", path := String.ofList (url.toList.drop 8) } }

/-- The third look shows two messages by Ada, the later of them first. -/
def talk : Nat → List Message
  | 2 => [⟨9, "ada", "red"⟩, ⟨5, "bob", "green"⟩, ⟨7, "ada", "blue"⟩]
  | _ => []

def item (message : Message) : Value :=
  .object [("id", .text (Value.integerText message.id)), ("author", .object [("id", .text message.author)]),
    ("content", .text message.content)]

def listing (batch : List Message) : Http.Response := { body := .json (.list (batch.map item)) }

theorem isTold_item {message : Message}
    (h : Text.readInteger? (Value.integerText message.id) = some message.id) : message.IsTold (item message) := by
  refine ⟨[("id", .text (Value.integerText message.id)), ("author", .object [("id", .text message.author)]),
    ("content", .text message.content)], ?_, rfl, rfl⟩
  simp only [identified, item, Entries.get?, integerOf, h, Except.map, if_true]

theorem json_listing_talk (i : Nat) : (listing (talk i)).json nearby = .ok (.list ((talk i).map item)) := by
  unfold talk
  split
  all_goals decide +kernel

theorem lists_listing_talk (i : Nat) : Lists nearby (listing (talk i)) (talk i) := by
  refine ⟨⟨Nat.le_refl 200, show 200 < 300 by decide⟩, _, json_listing_talk i, ?_⟩
  rw [List.forall₂_map_right_iff, List.forall₂_same]
  intro message hmessage
  unfold talk at hmessage
  split at hmessage
  · simp only [List.mem_cons, List.not_mem_nil, or_false] at hmessage
    rcases hmessage with rfl | rfl | rfl
    all_goals exact isTold_item (by with_unfolding_all rfl)
  · cases hmessage

/-- A wait of five ticks for Ada, with a look every two ticks. -/
def brief : MessageWait := ⟨"general", "ada", .finite false 5, .finite false 2⟩

theorem awaitMessage_polled_talk :
    let client : Client := ⟨"http://a", "app", "token", 0⟩
    let polls : Polls := { clock := { now := 0 } }
    let first : Int := snowflake (client.moment polls.clock)
    let waited := client.awaitMessage (Polls.web nearby (listing ∘ talk)) brief polls
    Binary64.zero.lt brief.poll = true ∧ ticks? brief.timeout = some 5 ∧
      (∃ request, client.listRequest nearby brief.channelId 0 = .ok request) ∧
      (∀ i, Lists nearby ((listing ∘ talk) i) (talk i)) ∧
      ∃ times : List Nat, times.Pairwise (· < ·) ∧ (∀ t, t ∈ times ↔ IsDue brief.poll 5 t) ∧
        (∃ last, Ends brief.userId talk 0 last (times.length - 1) waited.1 ∧
          waited.2.asked.map (Prod.map id Except.ok) = (times.take (last + 1)).mapIdx fun i t =>
            (0 + t, client.listRequest nearby brief.channelId (cursor first talk i))) ∧
        (waited.1 = .done .null ↔ ∀ i < times.length, IsSilent brief.userId (talk i)) ∧
        (∀ i, IsGreatest {id | id = first ∨ ∃ j < i, ∃ message ∈ talk j, id = message.id}
          (cursor first talk i)) ∧
        ∀ i j, i ≤ j → cursor first talk i ≤ cursor first talk j := by
  obtain ⟨request, hrequest⟩ : ∃ request,
      Client.listRequest ⟨"http://a", "app", "token", 0⟩ nearby brief.channelId 0 = .ok request :=
    ⟨_, by with_unfolding_all rfl⟩
  exact ⟨by decide, rfl, ⟨request, hrequest⟩, lists_listing_talk,
    awaitMessage_polled _ (by decide) rfl hrequest lists_listing_talk 0⟩

end Client

end CommandFlow.Chat
