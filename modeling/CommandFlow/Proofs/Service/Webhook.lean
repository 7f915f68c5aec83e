import CommandFlow.Proofs.Chat.WellFormed
import CommandFlow.Run.Rehearsal
import CommandFlow.Service.Api

/-!
# What the chat platform is answered

* `Api.IsPing`, `Api.IsCommand`, `Api.IsUnusable`, `Api.IsUpsetting` : what a message may be;
* `App.Takes` : what a message is answered, and what happens; `App.takes_take` : these are all cases;
* `App.Hears` : the bot is started and the message is signed;
* `App.webhook_decides` : the status of every answer, and which messages have none;
  `App.webhook_upset` : a signed message that has none.
-/

namespace CommandFlow.Service

/-! ## Messages -/

namespace Api

open Chat (Invocation)

section
variable (library : Http.Library) (octets : List UInt8)

def IsJson (payload : Value) : Prop := Json.readOctets library.reading octets = .ok payload

def IsObject (members : Entries Value) : Prop := IsJson library octets (.object members)

/-- Reading the octets goes deeper into lists and objects than the library can. -/
def IsTooDeep : Prop :=
  ∃ fault, Json.readOctets library.reading octets = .error fault ∧ fault.problem.isTooDeep = true

def IsNoJson : Prop :=
  ∃ fault, Json.readOctets library.reading octets = .error fault ∧ fault.problem.isTooDeep = false

/-- An object that asks whether the service is there. -/
def IsPing : Prop :=
  ∃ members, IsObject library octets members ∧ (Invocation.member members "type").isInteger pingType = true

/-- An object about an invocation of a command. -/
def IsCommand (members : Entries Value) : Prop :=
  IsObject library octets members ∧ (Invocation.member members "type").isInteger commandType = true

def IsOther : Prop :=
  ∃ members, IsObject library octets members ∧ (Invocation.member members "type").isInteger pingType = false ∧
    (Invocation.member members "type").isInteger commandType = false

def HasHalf : Prop := ∃ point ∈ Json.pointsOf (typeText library octets), Json.isHalf point = true

/-- No JSON, or an object of another type, which has no half character. -/
def IsUnusable : Prop :=
  IsNoJson library octets ∨ IsOther library octets ∧ ¬ HasHalf library octets

/-- What is too deep, JSON that is no object, an object about an invocation that is not well-formed, or one of another
type that has a half character. -/
inductive IsUpsetting : Prop where
  | deep (h : IsTooDeep library octets)
  | shapeless (payload : Value) (hread : IsJson library octets payload)
      (hobject : ∀ members, payload ≠ .object members)
  | malformed (members : Entries Value) (hread : IsCommand library octets members)
      (hmembers : ¬ Invocation.IsWellFormed members)
  | halved (hother : IsOther library octets) (hhalf : HasHalf library octets)

end

theorem isInteger_pingType {v : Value} (h : v.isInteger commandType = true) : v.isInteger pingType = false := by
  cases v with
  | bool b =>
    cases b
    · cases h
    · cases h
  | int i =>
    rw [Value.isInteger, beq_iff_eq.mp h]
    rfl
  | float x =>
    rw [Value.isInteger, beq_iff_eq.mp h]
    rfl
  | _ => cases h

theorem halves?_eq_none_iff {place : Nat} {points : List Nat} :
    Json.halves? place points = none ↔ ∀ point ∈ points, Json.isHalf point = false := by
  induction points generalizing place with
  | nil => simp [Json.halves?]
  | cons point rest ih =>
    rw [Json.halves?, List.forall_mem_cons]
    split
    · rename_i hhalf
      simp [hhalf]
    · rename_i hwhole
      rw [ih, and_iff_right (by simpa using hwhole)]

/-- A message of another type is refused unless it has a half character. -/
theorem refuseType_cases (library : Http.Library) (octets : List UInt8) (type : Value) :
    (HasHalf library octets ∧ ∃ fault, refuseType (Json.pointsOf (typeText library octets)) type = .error fault) ∨
      ¬ HasHalf library octets ∧
        ∃ detail, refuseType (Json.pointsOf (typeText library octets)) type = .ok (refuseText 400 detail) := by
  unfold refuseType
  by_cases hhalf : HasHalf library octets
  · left
    refine ⟨hhalf, ?_⟩
    cases hhalves : Json.halves? typePlace (Json.pointsOf (typeText library octets)) with
    | some found => exact ⟨_, rfl⟩
    | none =>
      obtain ⟨point, hmem, hpoint⟩ := hhalf
      rw [halves?_eq_none_iff.mp hhalves point hmem] at hpoint
      cases hpoint
  · right
    have hwhole : ∀ point ∈ Json.pointsOf (typeText library octets), Json.isHalf point = false :=
      fun point hmem => Bool.eq_false_iff.mpr fun hpoint => hhalf ⟨point, hmem, hpoint⟩
    rw [halves?_eq_none_iff.mpr hwhole]
    exact ⟨hhalf, _, rfl⟩

/-! What octets are not that are no JSON, or too deep. -/

section
variable {library : Http.Library} {octets : List UInt8} {fault : Json.Fault}
  (h : Json.readOctets library.reading octets = .error fault)

include h

theorem not_isJson_of_error (payload : Value) : ¬ IsJson library octets payload := by
  intro hjson
  cases h.symm.trans hjson

theorem isTooDeep_iff : IsTooDeep library octets ↔ fault.problem.isTooDeep = true := by
  simp [IsTooDeep, h]

theorem isNoJson_iff : IsNoJson library octets ↔ fault.problem.isTooDeep = false := by
  simp [IsNoJson, h]

end

/-! What JSON is not. -/

section
variable {library : Http.Library} {octets : List UInt8} {payload : Value} (h : IsJson library octets payload)

include h

theorem IsJson.not_isTooDeep : ¬ IsTooDeep library octets := by
  rintro ⟨fault, hfault, -⟩
  cases h.symm.trans hfault

theorem IsJson.not_isNoJson : ¬ IsNoJson library octets := by
  rintro ⟨fault, hfault, -⟩
  cases h.symm.trans hfault

end

/-! What an object is shows in its type. -/

section
variable {library : Http.Library} {octets : List UInt8} {members : Entries Value}
  (h : IsObject library octets members)

include h

theorem IsObject.eq {others : Entries Value} (hother : IsObject library octets others) : others = members :=
  Value.object.inj (Except.ok.inj (hother.symm.trans h))

theorem IsObject.isPing_iff :
    IsPing library octets ↔ (Invocation.member members "type").isInteger pingType = true := by
  refine ⟨?_, fun htype => ⟨members, h, htype⟩⟩
  rintro ⟨others, hother, htype⟩
  rwa [h.eq hother] at htype

theorem IsObject.exists_isCommand_iff {P : Entries Value → Prop} :
    (∃ members, IsCommand library octets members ∧ P members) ↔
      (Invocation.member members "type").isInteger commandType = true ∧ P members := by
  refine ⟨?_, fun ⟨htype, hP⟩ => ⟨members, ⟨h, htype⟩, hP⟩⟩
  rintro ⟨others, ⟨hother, htype⟩, hP⟩
  rw [h.eq hother] at htype hP
  exact ⟨htype, hP⟩

theorem IsObject.isOther_iff :
    IsOther library octets ↔ (Invocation.member members "type").isInteger pingType = false ∧
      (Invocation.member members "type").isInteger commandType = false := by
  refine ⟨?_, fun htype => ⟨members, h, htype⟩⟩
  rintro ⟨others, hother, htype⟩
  rwa [h.eq hother] at htype

theorem IsObject.isUnusable_iff :
    IsUnusable library octets ↔ IsOther library octets ∧ ¬ HasHalf library octets :=
  or_iff_right (IsJson.not_isNoJson h)

theorem IsObject.isUpsetting_iff :
    IsUpsetting library octets ↔
      (Invocation.member members "type").isInteger commandType = true ∧ ¬ Invocation.IsWellFormed members ∨
        IsOther library octets ∧ HasHalf library octets := by
  rw [← h.exists_isCommand_iff (P := fun members => ¬ Invocation.IsWellFormed members)]
  constructor
  · rintro (hdeep | ⟨payload, hread, hobject⟩ | ⟨others, hread, hmembers⟩ | ⟨hother, hhalf⟩)
    · exact absurd hdeep (IsJson.not_isTooDeep h)
    · exact absurd (Except.ok.inj (hread.symm.trans h)) (hobject members)
    · exact .inl ⟨others, hread, hmembers⟩
    · exact .inr ⟨hother, hhalf⟩
  · rintro (⟨others, hread, hmembers⟩ | ⟨hother, hhalf⟩)
    · exact .malformed others hread hmembers
    · exact .halved hother hhalf

end

end Api

namespace App

open Api

variable {σ : Type}

/-- What is answered to a message that is signed, and what happens. -/
inductive Takes (app : App σ) (octets : List UInt8) : Except ServiceFault Http.Response × App σ → Prop where
  | unreadable (hread : IsNoJson app.web.library octets) :
      app.Takes octets (.ok (refuseText 400 "invalid JSON"), app)
  | deep {fault : ServiceFault} (hread : IsTooDeep app.web.library octets) : app.Takes octets (.error fault, app)
  | shapeless {payload : Value} {fault : ServiceFault} (hread : IsJson app.web.library octets payload)
      (hobject : ∀ members, payload ≠ .object members) : app.Takes octets (.error fault, app)
  | pinged {members : Entries Value} (hread : IsObject app.web.library octets members)
      (htype : (Chat.Invocation.member members "type").isInteger pingType = true) :
      app.Takes octets (.ok (json 200 (.object [("type", .int pingType)])), app)
  | unsupported {members : Entries Value} {detail : String} (hread : IsObject app.web.library octets members)
      (hother : IsOther app.web.library octets) (hhalf : ¬ HasHalf app.web.library octets) :
      app.Takes octets (.ok (refuseText 400 detail), app)
  | halved {members : Entries Value} {fault : ServiceFault} (hread : IsObject app.web.library octets members)
      (hother : IsOther app.web.library octets) (hhalf : HasHalf app.web.library octets) :
      app.Takes octets (.error fault, app)
  | malformed {members : Entries Value} {fault : ServiceFault} (hread : IsCommand app.web.library octets members)
      (hmembers : ¬ Chat.Invocation.IsWellFormed members) : app.Takes octets (.error fault, app)
  | accepted {members : Entries Value} {invocation : Chat.Invocation}
      (hread : IsCommand app.web.library octets members)
      (hmembers : Chat.Invocation.ofMembers members = .ok invocation) :
      app.Takes octets (.ok (statusWord 202 "accepted"), (app.dispatch invocation).2)

theorem takes_take (app : App σ) (octets : List UInt8) : app.Takes octets (app.take octets) := by
  unfold take
  cases hread : Json.readOctets app.web.library.reading octets with
  | error fault =>
    dsimp only
    split
    · rename_i hdeep
      exact .deep ⟨fault, hread, hdeep⟩
    · rename_i hshallow
      exact .unreadable ⟨fault, hread, by simpa using hshallow⟩
  | ok payload =>
    dsimp only
    by_cases hobject : ∃ members, payload = .object members
    · obtain ⟨members, rfl⟩ := hobject
      rw [messageOf]
      cases hping : (Chat.Invocation.member members "type").isInteger pingType with
      | true => exact .pinged hread hping
      | false =>
        cases hcommand : (Chat.Invocation.member members "type").isInteger commandType with
        | false =>
          have hother : IsOther app.web.library octets := ⟨members, hread, hping, hcommand⟩
          rcases refuseType_cases app.web.library octets (Chat.Invocation.member members "type") with
            ⟨hhalf, fault, hrefuse⟩ | ⟨hwhole, detail, hrefuse⟩
          · simp only [Bool.false_eq_true, if_false, hrefuse]
            exact .halved hread hother hhalf
          · simp only [Bool.false_eq_true, if_false, hrefuse]
            exact .unsupported hread hother hwhole
        | true =>
          rw [if_neg Bool.false_ne_true, if_pos rfl, Chat.Invocation.read]
          cases hmembers : Chat.Invocation.ofMembers members with
          | error fault =>
            refine .malformed ⟨hread, hcommand⟩ fun hformed => ?_
            obtain ⟨invocation, hinvocation⟩ := (Chat.Invocation.exists_ofMembers_iff members).mpr hformed
            cases hmembers.symm.trans hinvocation
          | ok invocation => exact .accepted ⟨hread, hcommand⟩ hmembers
    · have hmessage : messageOf payload = .error .noMembers := by
        unfold messageOf
        split
        · exact absurd ⟨_, rfl⟩ hobject
        · rfl
      rw [hmessage]
      exact .shapeless hread fun members heq => hobject ⟨members, heq⟩

/-- The bot is started, and the message is signed, behind the time, with the key of the chat platform. -/
def Hears (app : App σ) (headers : Entries String) (octets : List UInt8) : Prop :=
  app.tasks.isStarted = true ∧ Signature.holds app.settings.publicKey (header headers "x-signature-ed25519")
    ((header headers "x-signature-timestamp").toUTF8.toList ++ octets) = true

theorem webhook_of_hears {app : App σ} {headers : Entries String} {octets : List UInt8} (h : app.Hears headers octets) :
    app.webhook headers octets = app.take octets := by
  rw [webhook, h.1, isSigned, h.2]
  rfl

theorem webhook_of_not_hears {app : App σ} {headers : Entries String} {octets : List UInt8}
    (h : ¬ app.Hears headers octets) :
    ∃ detail, app.webhook headers octets =
      (.ok (refuseText (if app.tasks.isStarted then 401 else 503) detail), app) := by
  cases hstarted : app.tasks.isStarted with
  | false =>
    rw [webhook, hstarted]
    exact ⟨_, rfl⟩
  | true =>
    have hsigned : isSigned app.settings headers octets = false := Bool.eq_false_iff.mpr fun hsigned =>
      h ⟨hstarted, hsigned⟩
    rw [webhook, hstarted, hsigned]
    exact ⟨_, rfl⟩

def HasStatus (answer : Except ServiceFault Http.Response) (status : Nat) : Prop :=
  ∃ response, answer = .ok response ∧ response.status = status

theorem Takes.ne_status {app : App σ} {octets : List UInt8} {answer : Except ServiceFault Http.Response × App σ}
    (h : app.Takes octets answer) : ¬ HasStatus answer.1 503 ∧ ¬ HasStatus answer.1 401 := by
  cases h <;> simp [HasStatus, refuseText, refuse, json, statusWord]

theorem Takes.decides {app : App σ} {octets : List UInt8} {answer : Except ServiceFault Http.Response × App σ}
    (h : app.Takes octets answer) :
    let library := app.web.library
    (HasStatus answer.1 200 ↔ IsPing library octets) ∧
    (HasStatus answer.1 202 ↔ ∃ members, IsCommand library octets members ∧ Chat.Invocation.IsWellFormed members) ∧
    (HasStatus answer.1 400 ↔ IsUnusable library octets) ∧
    ((∃ fault, answer.1 = .error fault) ↔ IsUpsetting library octets) := by
  intro library
  cases h with
  | unreadable hread =>
    obtain ⟨fault, hfault, hshallow⟩ := hread
    have hjson := not_isJson_of_error hfault
    have hupsetting : ¬ IsUpsetting library octets := by
      rintro (hdeep | ⟨payload, hread, -⟩ | ⟨members, hread, -⟩ | ⟨⟨members, hread, -⟩, -⟩)
      · rw [isTooDeep_iff hfault, hshallow] at hdeep
        cases hdeep
      · exact hjson _ hread
      · exact hjson _ hread.1
      · exact hjson _ hread
    have hunusable : IsUnusable library octets := .inl ⟨fault, hfault, hshallow⟩
    simp [HasStatus, refuseText, refuse, json, IsPing, IsCommand, IsObject, hjson, hunusable, hupsetting, library]
  | deep hread =>
    obtain ⟨fault, hfault, hdeep⟩ := hread
    have hjson := not_isJson_of_error hfault
    have hunusable : ¬ IsUnusable library octets := by
      rintro (hnone | ⟨⟨members, hread, -⟩, -⟩)
      · rw [isNoJson_iff hfault, hdeep] at hnone
        cases hnone
      · exact hjson _ hread
    have hupsetting : IsUpsetting library octets := .deep ⟨fault, hfault, hdeep⟩
    simp [HasStatus, IsPing, IsCommand, IsObject, hjson, hunusable, hupsetting, library]
  | @shapeless payload fault hread hobject =>
    have hjson (members : Entries Value) : ¬ IsObject library octets members :=
      fun hmembers => hobject members (Except.ok.inj (hread.symm.trans hmembers))
    have hunusable : ¬ IsUnusable library octets := by
      rintro (hnone | ⟨⟨members, hread, -⟩, -⟩)
      · exact hread.not_isNoJson hnone
      · exact hjson _ hread
    have hupsetting : IsUpsetting library octets := .shapeless payload hread hobject
    simp [HasStatus, IsPing, IsCommand, hjson, hunusable, hupsetting, library]
  | @pinged members hread htype =>
    have hcommand : (Chat.Invocation.member members "type").isInteger commandType = false :=
      Bool.eq_false_iff.mpr fun hcommand => by simp [isInteger_pingType hcommand] at htype
    rw [hread.isPing_iff, hread.exists_isCommand_iff, hread.isUnusable_iff, hread.isUpsetting_iff, hread.isOther_iff]
    simp [HasStatus, json, htype, hcommand]
  | @unsupported members detail hread hother hhalf =>
    obtain ⟨hping, hcommand⟩ := hread.isOther_iff.mp hother
    rw [hread.isPing_iff, hread.exists_isCommand_iff, hread.isUnusable_iff, hread.isUpsetting_iff]
    simp [HasStatus, refuseText, refuse, json, hping, hcommand, hother, hhalf]
  | @halved members fault hread hother hhalf =>
    obtain ⟨hping, hcommand⟩ := hread.isOther_iff.mp hother
    rw [hread.isPing_iff, hread.exists_isCommand_iff, hread.isUnusable_iff, hread.isUpsetting_iff]
    simp [HasStatus, hping, hcommand, hother, hhalf]
  | @malformed members fault hread hmembers =>
    have hping := isInteger_pingType hread.2
    rw [hread.1.isPing_iff, hread.1.exists_isCommand_iff, hread.1.isUnusable_iff, hread.1.isUpsetting_iff,
      hread.1.isOther_iff]
    simp [HasStatus, hping, hread.2, hmembers]
  | @accepted members invocation hread hmembers =>
    have hping := isInteger_pingType hread.2
    have hformed : Chat.Invocation.IsWellFormed members :=
      (Chat.Invocation.exists_ofMembers_iff members).mp ⟨invocation, hmembers⟩
    rw [hread.1.isPing_iff, hread.1.exists_isCommand_iff, hread.1.isUnusable_iff, hread.1.isUpsetting_iff,
      hread.1.isOther_iff]
    simp [HasStatus, statusWord, json, hping, hread.2, hformed]

/-- Only what is accepted changes anything: one invocation is dispatched. -/
theorem Takes.dispatches {app : App σ} {octets : List UInt8} {answer : Except ServiceFault Http.Response × App σ}
    (h : app.Takes octets answer) :
    (HasStatus answer.1 202 ∧ ∃ members invocation, IsCommand app.web.library octets members ∧
      Chat.Invocation.ofMembers members = .ok invocation ∧ answer.2 = (app.dispatch invocation).2) ∨
    ¬ HasStatus answer.1 202 ∧ answer.2 = app := by
  cases h with
  | @accepted members invocation hread hmembers =>
    exact .inl ⟨⟨_, rfl, rfl⟩, members, invocation, hread, hmembers, rfl⟩
  | _ => right; simp [HasStatus, refuseText, refuse, json]

theorem dispatched_dispatch (app : App σ) (invocation : Chat.Invocation) :
    (app.dispatch invocation).2.tasks.dispatched = app.tasks.dispatched + 1 := rfl

/-- What the chat platform is answered, and what happens. Nothing happens unless the bot is started and the message is
signed, over the time and the octets. A signed message is answered with 200 if it is a ping, with 202 if it tells an
invocation, which is dispatched, once, and with 400 if it is no JSON or an object of another type. It has no answer if
it is too deep to be read, is JSON but no object, tells an invocation in members that are malformed, or is of another
type which cannot be sent back for its half characters. -/
theorem webhook_decides (app : App σ) (headers : Entries String) (octets : List UInt8) :
    let answer := app.webhook headers octets
    let hears := app.Hears headers octets
    let library := app.web.library
    (HasStatus answer.1 503 ↔ app.tasks.isStarted = false) ∧
    (HasStatus answer.1 401 ↔ app.tasks.isStarted = true ∧ ¬ hears) ∧
    (HasStatus answer.1 200 ↔ hears ∧ IsPing library octets) ∧
    (HasStatus answer.1 202 ↔
      hears ∧ ∃ members, IsCommand library octets members ∧ Chat.Invocation.IsWellFormed members) ∧
    (HasStatus answer.1 400 ↔ hears ∧ IsUnusable library octets) ∧
    ((∃ fault, answer.1 = .error fault) ↔ hears ∧ IsUpsetting library octets) ∧
    (HasStatus answer.1 202 ∧ (∃ members invocation, IsCommand library octets members ∧
        Chat.Invocation.ofMembers members = .ok invocation ∧ answer.2 = (app.dispatch invocation).2 ∧
        answer.2.tasks.dispatched = app.tasks.dispatched + 1) ∨
      ¬ HasStatus answer.1 202 ∧ answer.2 = app) := by
  intro answer hears library
  by_cases hhears : hears
  · have htakes : app.Takes octets answer := by
      have hanswer : answer = app.take octets := webhook_of_hears hhears
      rw [hanswer]
      exact app.takes_take octets
    obtain ⟨hping, hcommand, hunusable, hupsetting⟩ := htakes.decides
    obtain ⟨hnone, hunsigned⟩ := htakes.ne_status
    refine ⟨?_, ?_, ?_, ?_, ?_, ?_, ?_⟩
    · simp [hnone, hhears.1]
    · simp [hunsigned, hhears]
    · rw [hping, and_iff_right hhears]
    · rw [hcommand, and_iff_right hhears]
    · rw [hunusable, and_iff_right hhears]
    · rw [hupsetting, and_iff_right hhears]
    · rcases htakes.dispatches with ⟨haccepted, members, invocation, hread, hmembers, hafter⟩ | hother
      · refine .inl ⟨haccepted, members, invocation, hread, hmembers, hafter, ?_⟩
        rw [hafter, dispatched_dispatch]
      · exact .inr hother
  · obtain ⟨detail, hanswer⟩ : ∃ detail, answer =
        (.ok (refuseText (if app.tasks.isStarted then 401 else 503) detail), app) := webhook_of_not_hears hhears
    cases hstarted : app.tasks.isStarted <;> simp [hanswer, hstarted, hhears, HasStatus, refuseText, refuse, json]

/-- A service whose bot is started, with a key. -/
def keyed : App Rehearsal.World where
  settings :=
    { Settings.usual with publicKey := "d75a980182b10ab7d54bfed3c964073a0ee172f3daa62325af021a68f707511a" }
  client := ⟨"", "", "", 0⟩
  web := (Rehearsal.platform {}).toWeb
  tasks := Tasks.start {}
  world := { router := ⟨{}, []⟩, outside := {} }

def complaint (answer : Except ServiceFault Http.Response) : String :=
  match answer with
  | .error fault => fault.message
  | .ok _ => ""

/-- A type that is half a character cannot be sent back. -/
example : complaint (keyed.take "\x7b\"type\":\"\\ud800\"\x7d".toUTF8.toList).1 =
    "'utf-8' codec can't encode character '\\ud800' in position 40: surrogates not allowed" := by
  decide +kernel

/-- Three lists are too deep where two may be open. -/
example : complaint ({ keyed with web.library.nesting := some 2 }.take "[[[1]]]".toUTF8.toList).1 =
    "maximum recursion depth exceeded while decoding a JSON array from a unicode string" := by
  decide +kernel

def signedHeaders (signature : String) : Entries String :=
  [("x-signature-ed25519", signature), ("x-signature-timestamp", "1700000000")]

/-- A message that is a number, and one about an invocation whose data are a number, are signed and have no answer. -/
theorem webhook_upset :
    let number := signedHeaders
      "82d10bd6d6ba8b30c69d62c8bb701320b2ac17337df9a3722c72b85004474a109fdd4e15e4b234f9e20095cf9d7150dfff2bd75253d66afe91470d639ddf280b"
    let command := signedHeaders
      "5c1f3f4415a9ffdf8d205f5ddd4d1105a535e00abf537646aafeeb12ff0e638a61a217fc6022ca889578b1bfd057645019213a44bad07d61c42389a74e6b4c09"
    let five := "5".toUTF8.toList
    let malformed := "\x7b\"type\":2,\"data\":5\x7d".toUTF8.toList
    keyed.Hears number five ∧ (∃ fault, (keyed.webhook number five).1 = .error fault) ∧
      keyed.Hears command malformed ∧ ∃ fault, (keyed.webhook command malformed).1 = .error fault := by
  intro number command five malformed
  have hfive : keyed.Hears number five := ⟨rfl, by decide +kernel⟩
  have hmalformed : keyed.Hears command malformed := ⟨rfl, by decide +kernel⟩
  refine ⟨hfive, ?_, hmalformed, ?_⟩
  · rw [webhook_of_hears hfive]
    exact exists_eq_error (by decide +kernel)
  · rw [webhook_of_hears hmalformed]
    exact exists_eq_error (by decide +kernel)

end App

end CommandFlow.Service
