import CommandFlow.Proofs.Run.Bindings
import CommandFlow.Run.Rehearsal

/-!
# Calls of web addresses

A node that calls a web address may name a variable for the error of its call.

* `Call.fill`, `Call.request` : the texts of a call, and the request that it asks for;
* `Run.Visit.GoesOn`, `Run.Visit.Breaks` : a walk goes on after a visit, or fails with it;
* `Live.CallEnds` : how a call with a variable for its error can end;
* `Live.IsCause` : what can fail a run at its node; `Live.callEnds_and_cause` : so every such call ends.
-/

namespace CommandFlow

/-! ## Requests -/

/-- A call with the placeholders of its texts replaced. -/
structure Call.Filled where
  address : String
  headers : Entries String
  body : Option String

def Call.fill (call : Call) (bindings : Variables) (context : Context) : Except Fault Call.Filled := do
  let url ← filled call.url bindings context
  let headers ← call.filledHeaders bindings context
  let body ← call.filledBody bindings context
  return ⟨Text.strip url, headers, body⟩

def Call.IsBlank (call : Call) (bindings : Variables) (context : Context) : Prop :=
  ∃ url, filled call.url bindings context = .ok url ∧ (Text.strip url).isEmpty = true

/-- What a call sends: its body, if there is one. -/
def Call.Filled.content (texts : Call.Filled) : Http.Body :=
  match texts.body with
  | some text => .text text
  | none => .empty

/-- The request that a call asks for, or why it cannot be written. -/
def Call.request (call : Call) (library : Http.Library) (texts : Call.Filled) : Except Http.Fault Http.Request :=
  Http.Request.make library call.method.name texts.address texts.headers texts.content []

theorem filled_eq_error {text : String} {bindings : Variables} {context : Context} {fault : Fault}
    (h : filled text bindings context = .error fault) : fault = .integerTooLong := by
  obtain ⟨e, he, rfl⟩ := inRange_eq_error.mp h
  obtain rfl := (Value.ifShort_eq_error.mp he).2
  rfl

theorem Call.eq_integerTooLong_of_fill {call : Call} {bindings : Variables} {context : Context} {fault : Fault}
    (h : call.fill bindings context = .error fault) : fault = .integerTooLong := by
  rcases bind_eq_error.mp h with h | ⟨url, -, h⟩
  · exact filled_eq_error h
  rcases bind_eq_error.mp h with h | ⟨headers, -, h⟩
  · obtain ⟨header, -, h⟩ := exists_of_mapM_eq_error h
    rcases bind_eq_error.mp h with h | ⟨value, -, h⟩
    · exact filled_eq_error h
    · cases h
  rcases bind_eq_error.mp h with h | ⟨body, -, h⟩
  · unfold Call.filledBody at h
    split at h
    · split at h
      · cases h
      · rcases bind_eq_error.mp h with h | ⟨text, -, h⟩
        · exact filled_eq_error h
        · cases h
    · cases h
  · cases h

/-- A request cannot be written because of its address or because of a header. -/
theorem Call.fault_of_request {call : Call} {library : Http.Library} {texts : Call.Filled} {fault : Http.Fault}
    (h : call.request library texts = .error fault) :
    (∃ text, library.readAddress texts.address = .error text ∧ fault = .address text) ∨
      ∃ text, Http.foreignHeader? texts.headers = some text ∧ fault = .header text := by
  have hwritable : ∀ v, texts.content ≠ .json v := by
    intro v hv
    unfold Call.Filled.content at hv
    split at hv <;> cases hv
  unfold Call.request Http.Request.make at h
  cases hread : library.readAddress texts.address with
  | error text =>
    rw [hread] at h
    cases h
    exact .inl ⟨text, rfl, rfl⟩
  | ok address =>
    rw [hread] at h
    simp only [Except.mapError, bind, Except.bind] at h
    split at h
    · rename_i text hforeign
      cases h
      exact .inr ⟨text, hforeign, rfl⟩
    · split at h
      · rename_i hunwritable
        revert hunwritable
        cases hcontent : texts.content with
        | json v => exact absurd hcontent (hwritable v)
        | _ => simp
      · cases h

theorem Http.isTransport_of_check {request : Http.Request} {response : Http.Response} {fault : Http.Fault}
    (h : response.check request = .error fault) : fault.isTransport = true := by
  unfold Http.Response.check at h
  split at h
  · cases h
  · cases h
    rfl

/-! ## How a walk goes on -/

namespace Run

variable {σ : Type}

section
variable (backend : Backend σ) (graph : Graph) (context : Context)

/-- A walk goes on after the visit: the visit succeeds and writes these variables, and the walk makes the rest of
its visits from the successor of the node, or stops if there is none. -/
def Visit.GoesOn (v : Visit σ) (writes : Variables) : Prop :=
  ∃ detail, ∀ limit, walk backend graph context (limit + 1) v.node v.bindings v.generator v.world =
    let step : Step := ⟨v.node.id, v.node.type, .success detail⟩
    let bindings := Entries.merge v.bindings writes
    match successor? graph v.node none with
    | none => (⟨if limit = 0 then .stepLimit else .stopped, [step], bindings, none⟩, v.leaves backend graph context)
    | some next =>
      let rest := walk backend graph context limit next bindings v.generator (v.leaves backend graph context)
      (rest.1.after step, rest.2)

/-- A walk fails with the visit. -/
def Visit.Breaks (v : Visit σ) (fault : Fault) : Prop :=
  ∀ limit, walk backend graph context (limit + 1) v.node v.bindings v.generator v.world =
    (⟨if limit = 0 then .stepLimit else .failed, [⟨v.node.id, v.node.type, .error fault.message⟩], v.bindings,
      some ⟨v.node.id, v.node.type, fault⟩⟩, v.leaves backend graph context)

end

variable {backend : Backend σ} {graph : Graph} {context : Context}

theorem Visit.goesOn_of_reply {v : Visit σ} {outcome : Outcome} {writes : Variables}
    (h : v.reply backend graph context = .done (outcome, writes)) (hterminal : outcome.terminal = false)
    (hbranch : outcome.branch = none)
    (hgenerator : (visit backend graph context v.node v.bindings v.generator v.world).2 = v.generator) :
    v.GoesOn backend graph context writes := by
  refine ⟨outcome.detail, fun limit => ?_⟩
  have hstep : v.step? backend graph context = some ⟨v.node.id, v.node.type, .success outcome.detail⟩ := by
    rw [Visit.step?, h]
  have hnext : v.next? backend graph context = (successor? graph v.node none).map fun node =>
      ⟨node, Entries.merge v.bindings writes, v.generator, v.leaves backend graph context⟩ := by
    rw [Visit.next?, h, hgenerator]
    simp only [hterminal, hbranch, Bool.false_eq_true, if_false]
  cases hsuccessor : successor? graph v.node none with
  | none =>
    rw [hsuccessor] at hnext
    rw [walk_of_next?_eq_none hnext, Visit.result, hstep, Visit.status, Visit.writes, Visit.failure?, h]
    simp [hterminal]
  | some next =>
    rw [hsuccessor] at hnext
    rw [walk_of_step? hnext hstep]

theorem Visit.breaks_of_reply {v : Visit σ} {fault : Fault} (h : v.reply backend graph context = .raised fault) :
    v.Breaks backend graph context fault :=
  fun limit => walk_of_raised h limit

/-- Realizing an outcome that is nothing but an action is making its call and writing the answer down. -/
theorem realize_of_action (backend : Backend σ) (action : Action) (detail : Value) (world : σ) :
    (realize backend { action := some action, detail } world).1 =
      match written action (backend.perform action world).1 with
      | .done writes => .done (Entries.merge [] writes)
      | .raised fault => .raised fault
      | .expired => .expired := by
  rw [← performIf_some_fst]
  simp only [realize, callIf, andThen]
  cases performIf backend (some action) world with
  | mk reply after => cases reply <;> rfl

/-- The failure of a walk is that of one of its visits. -/
theorem exists_raised_of_walk {limit : Nat} {v : Visit σ} {failure : Failure}
    (hfind : graph.find? v.node.id = some v.node)
    (h : (walk backend graph context limit v.node v.bindings v.generator v.world).1.failure = some failure) :
    ∃ w : Visit σ, graph.find? w.node.id = some w.node ∧ w.reply backend graph context = .raised failure.cause ∧
      failure.nodeId = w.node.id ∧ failure.type = w.node.type := by
  induction limit, v using walk_induction backend graph context with
  | zero v => cases h
  | last limit v hnext =>
    rw [walk_of_next?_eq_none hnext, Visit.result] at h
    dsimp only [Visit.failure?] at h
    split at h
    · rename_i fault hreply
      cases h
      exact ⟨v, hfind, hreply, rfl, rfl⟩
    · cases h
  | next limit v w hnext ih =>
    obtain ⟨step, -, hwalk⟩ := walk_of_next?_eq_some hnext limit
    rw [hwalk] at h
    exact ih (find?_of_next?_eq_some hnext) h

end Run

/-! ## What a call asks for and writes -/

/-- What a call with a variable for its error writes: the error under that name, or the value. -/
def Call.stores (call : Call) (name : String) (answer : ActionResult) : Variables :=
  match answer.error with
  | some text => [(name, .text text)]
  | none => kept call.resultVariable answer.value

theorem Call.merge_nil_stores (call : Call) (name : String) (answer : ActionResult) :
    Entries.merge [] (call.stores name answer) = call.stores name answer := by
  unfold Call.stores
  cases answer.error with
  | some text => rfl
  | none => exact merge_nil_kept call.resultVariable answer.value

/-- The action makes the call. -/
structure Call.IsMade (call : Call) (texts : Call.Filled) (action : Action) : Prop where
  task : action.task = .call texts.address call.method texts.headers texts.body
  resultVariable : action.resultVariable = some call.resultVariable
  errorVariable : action.errorVariable = call.errorVariable

theorem Call.IsMade.written_done {call : Call} {texts : Call.Filled} {action : Action} {name : String}
    (h : call.IsMade texts action) (hname : call.errorVariable = some name)
    (answer : ActionResult) : Run.written action (.done answer) = .done (call.stores name answer) := by
  have hwrites : action.writes answer = .ok (call.stores name answer) := by
    unfold Action.writes Call.stores kept
    rw [h.resultVariable, h.errorVariable, hname]
    cases answer.error with
    | some text => rfl
    | none => exact (apply_ite Except.ok _ _ _).symm
  rw [Run.written, hwrites]

/-- A call whose address is not blank goes as far as its texts can be written. -/
theorem Call.outcome_eq {call : Call} {bindings : Variables} {context : Context} (h : ¬ call.IsBlank bindings context)
    (node : Node) : call.outcome node bindings context = (call.fill bindings context).map fun texts =>
      { action := some {
          nodeId := node.id
          task := .call texts.address call.method texts.headers texts.body
          resultVariable := some call.resultVariable
          errorVariable := call.errorVariable }
        detail := .text s!"{call.method.name} {texts.address}" } := by
  unfold Call.outcome Call.fill
  cases hurl : filled call.url bindings context with
  | error fault => rfl
  | ok url =>
    have hfull : (Text.strip url).isEmpty = false := Bool.eq_false_iff.mpr fun hempty => h ⟨url, hurl, hempty⟩
    simp only [bind, Except.bind, hfull, Bool.false_eq_true, if_false]
    cases call.filledHeaders bindings context with
    | error fault => rfl
    | ok headers =>
      dsimp only
      cases call.filledBody bindings context with
      | error fault => rfl
      | ok body => rfl

theorem Call.outcome_of_isBlank {call : Call} {bindings : Variables} {context : Context}
    (h : call.IsBlank bindings context) (node : Node) :
    call.outcome node bindings context = .error .addressRequired := by
  obtain ⟨url, hurl, hempty⟩ := h
  simp only [Call.outcome, hurl, bind, Except.bind, hempty, if_true]

namespace Live

variable {σ : Type} (platform : Platform σ) (poll : Binary64) (graph : Graph) (context : Context)

theorem call_fst {α : Type} (make : σ → Reply α × σ) (world : World σ) :
    (call make world).1 = (make world.outside).1 := rfl

def called (call : Call) (texts : Call.Filled) (outside : σ) : Reply ActionResult × σ :=
  match call.request platform.library texts with
  | .error fault => (failed fault, outside)
  | .ok request =>
    platform.timely
      (fetched platform.library request (platform.send request outside).1, (platform.send request outside).2)

theorem perform_of_isMade {call : Call} {texts : Call.Filled} {action : Action} (h : call.IsMade texts action)
    (outside : σ) : perform platform poll action.task outside = called platform call texts outside := by
  rw [h.task]
  unfold called Call.request Call.Filled.content
  cases texts.body with
  | none => rfl
  | some text => rfl

/-- The visit of a call whose texts cannot be written fails. -/
theorem reply_of_fill_eq_error {v : Run.Visit (World σ)} {call : Call} (hbehavior : v.node.behavior = .apiCall call)
    (haddress : ¬ call.IsBlank v.bindings context) {fault : Fault} (h : call.fill v.bindings context = .error fault) :
    v.reply (backend platform poll) graph context = .raised fault := by
  have hhandled : v.node.outcome v.bindings context graph.declarations v.generator = (.error fault, v.generator) := by
    simp only [Node.outcome, hbehavior, Call.outcome_eq haddress, h, Except.map]
  exact (Run.Visit.of_error (backend platform poll) hhandled).1

/-- The visit of a call with a variable for its error ends as the call is answered. -/
theorem reply_of_call {v : Run.Visit (World σ)} {call : Call} {name : String}
    (hbehavior : v.node.behavior = .apiCall call) (hname : call.errorVariable = some name)
    (haddress : ¬ call.IsBlank v.bindings context) {texts : Call.Filled}
    (hfill : call.fill v.bindings context = .ok texts) :
    ∃ outcome : Outcome, outcome.terminal = false ∧ outcome.branch = none ∧
      v.reply (backend platform poll) graph context =
        match (called platform call texts v.world.outside).1 with
        | .done answer => .done (outcome, call.stores name answer)
        | .raised fault => .raised fault
        | .expired => .expired := by
  let action : Action :=
    { nodeId := v.node.id
      task := .call texts.address call.method texts.headers texts.body
      resultVariable := some call.resultVariable
      errorVariable := call.errorVariable }
  have hmade : call.IsMade texts action := ⟨rfl, rfl, rfl⟩
  let outcome : Outcome := { action := some action, detail := .text s!"{call.method.name} {texts.address}" }
  have hhandled : v.node.outcome v.bindings context graph.declarations v.generator = (.ok outcome, v.generator) := by
    simp only [Node.outcome, hbehavior, Call.outcome_eq haddress, hfill, Except.map]
    rfl
  have hperform : ((backend platform poll).perform action v.world).1 =
    (called platform call texts v.world.outside).1 := by
    rw [← perform_of_isMade platform poll hmade]
    exact call_fst (perform platform poll action.task) v.world
  refine ⟨outcome, rfl, rfl, ?_⟩
  rw [(Run.Visit.of_outcome (backend platform poll) hhandled).1, Run.realize_of_action, hperform]
  have hwritten := hmade.written_done hname
  generalize (called platform call texts v.world.outside).1 = reply
  cases reply with
  | done answer => simp only [hwritten, Call.merge_nil_stores]
  | raised fault => rfl
  | expired => rfl

/-! ## How a call ends -/

/-- The call asks for the request, and this is the answer. -/
structure IsAnswered (call : Call) (v : Run.Visit (World σ)) (request : Http.Request)
    (answer : Except Http.Fault Http.Response) : Prop where
  asked : ∃ texts, call.fill v.bindings context = .ok texts ∧ call.request platform.library texts = .ok request
  timely : (platform.clock (platform.send request v.world.outside).2).isUp = false
  answered : (platform.send request v.world.outside).1 = answer

/-- How the visit of a call with a variable for its error ends. -/
inductive CallEnds (call : Call) (name : String) (v : Run.Visit (World σ)) : Prop where
  /-- A text of the call would hold an integer that is too long, and the walk fails in spite of the variable. -/
  | unfilled (hfill : call.fill v.bindings context = .error .integerTooLong)
      (hbreaks : v.Breaks (backend platform poll) graph context .integerTooLong)
  /-- The address is not read, and the walk fails in spite of the variable. -/
  | unread (texts : Call.Filled) (text : String) (hfill : call.fill v.bindings context = .ok texts)
      (hread : platform.library.readAddress texts.address = .error text)
      (hbreaks : v.Breaks (backend platform poll) graph context (.request (.address text)))
  /-- A header is not ASCII, and the walk fails in spite of the variable. -/
  | unencoded (texts : Call.Filled) (text : String) (hfill : call.fill v.bindings context = .ok texts)
      (hforeign : Http.foreignHeader? texts.headers = some text)
      (hbreaks : v.Breaks (backend platform poll) graph context (.request (.header text)))
  /-- The time of the run is up before there is an answer. -/
  | expired (request : Http.Request)
      (hasked : ∃ texts, call.fill v.bindings context = .ok texts ∧ call.request platform.library texts = .ok request)
      (hclock : (platform.clock (platform.send request v.world.outside).2).isUp = true)
      (hreply : v.reply (backend platform poll) graph context = .expired)
  /-- The platform fails in a way that is none of the transport, and so does the walk. -/
  | upset (request : Http.Request) (fault : Http.Fault)
      (hanswer : IsAnswered platform context call v request (.error fault)) (htransport : fault.isTransport = false)
      (hbreaks : v.Breaks (backend platform poll) graph context (.request fault))
  /-- The transport fails, and the variable takes the error. -/
  | unsent (request : Http.Request) (fault : Http.Fault)
      (hanswer : IsAnswered platform context call v request (.error fault)) (htransport : fault.isTransport = true)
      (hgoes : v.GoesOn (backend platform poll) graph context [(name, .text fault.message)])
  /-- The response is no success, and the variable takes the error. -/
  | refused (request : Http.Request) (response : Http.Response) (fault : Http.Fault)
      (hanswer : IsAnswered platform context call v request (.ok response))
      (hcheck : response.check request = .error fault)
      (hgoes : v.GoesOn (backend platform poll) graph context [(name, .text fault.message)])
  /-- The response is a success whose body is JSON, but too deep to be read, and the walk fails in spite of the
  variable. -/
  | buried (request : Http.Request) (response : Http.Response) (fault : Json.Fault)
      (hanswer : IsAnswered platform context call v request (.ok response))
      (hcheck : response.check request = .ok ())
      (hjson : response.json platform.library = .error fault) (hdeep : fault.problem.isTooDeep = true)
      (hbreaks : v.Breaks (backend platform poll) graph context (.json fault))
  /-- The response is a success whose body is JSON, which is kept. -/
  | answered (request : Http.Request) (response : Http.Response) (value : Value)
      (hanswer : IsAnswered platform context call v request (.ok response))
      (hcheck : response.check request = .ok ()) (hjson : response.json platform.library = .ok value)
      (hgoes : v.GoesOn (backend platform poll) graph context (kept call.resultVariable value))
  /-- The response is a success whose body is no JSON, and is kept as a text. -/
  | quoted (request : Http.Request) (response : Http.Response) (fault : Json.Fault)
      (hanswer : IsAnswered platform context call v request (.ok response))
      (hcheck : response.check request = .ok ())
      (hjson : response.json platform.library = .error fault) (hdeep : fault.problem.isTooDeep = false)
      (hgoes : v.GoesOn (backend platform poll) graph context
        (kept call.resultVariable (.text (platform.library.textOf response.headers response.body.octets))))

variable {platform poll graph context}

/-! What follows from the answer to a call. -/

section
variable {v : Run.Visit (World σ)} {call : Call} {name : String} (hbehavior : v.node.behavior = .apiCall call)
  (hname : call.errorVariable = some name) (haddress : ¬ call.IsBlank v.bindings context) {texts : Call.Filled}
  (hfill : call.fill v.bindings context = .ok texts)

include hbehavior hname haddress hfill

/-- The walk goes on after a call that gets an answer. -/
theorem goesOn_of_called {answer : ActionResult}
    (h : (called platform call texts v.world.outside).1 = .done answer) :
    v.GoesOn (backend platform poll) graph context (call.stores name answer) := by
  obtain ⟨outcome, hterminal, hbranch, hreply⟩ :=
    reply_of_call platform poll graph context hbehavior hname haddress hfill
  rw [h] at hreply
  refine Run.Visit.goesOn_of_reply hreply hterminal hbranch ?_
  rw [Run.visit_generator]
  simp only [Node.outcome, hbehavior]

theorem breaks_of_called {fault : Fault} (h : (called platform call texts v.world.outside).1 = .raised fault) :
    v.Breaks (backend platform poll) graph context fault := by
  obtain ⟨outcome, -, -, hreply⟩ := reply_of_call platform poll graph context hbehavior hname haddress hfill
  rw [h] at hreply
  exact Run.Visit.breaks_of_reply hreply

theorem callEnds_of_request {request : Http.Request} (hrequest : call.request platform.library texts = .ok request) :
    CallEnds platform poll graph context call name v := by
  have hcalled : called platform call texts v.world.outside = platform.timely
      (fetched platform.library request (platform.send request v.world.outside).1,
        (platform.send request v.world.outside).2) := by
    unfold called
    rw [hrequest]
  by_cases hclock : (platform.clock (platform.send request v.world.outside).2).isUp = true
  · refine .expired request ⟨texts, hfill, hrequest⟩ hclock ?_
    obtain ⟨outcome, -, -, hreply⟩ := reply_of_call platform poll graph context hbehavior hname haddress hfill
    rw [hreply, hcalled, Web.timely, if_pos hclock]
  have hanswered : (called platform call texts v.world.outside).1 =
      fetched platform.library request (platform.send request v.world.outside).1 := by
    rw [hcalled, Web.timely, if_neg hclock]
  have hgoes (result : ActionResult)
      (h : fetched platform.library request (platform.send request v.world.outside).1 = .done result) :
      v.GoesOn (backend platform poll) graph context (call.stores name result) :=
    goesOn_of_called hbehavior hname haddress hfill (hanswered.trans h)
  have hbreaks (fault : Fault)
      (h : fetched platform.library request (platform.send request v.world.outside).1 = .raised fault) :
      v.Breaks (backend platform poll) graph context fault :=
    breaks_of_called hbehavior hname haddress hfill (hanswered.trans h)
  have hanswer : IsAnswered platform context call v request (platform.send request v.world.outside).1 :=
    ⟨⟨texts, hfill, hrequest⟩, by simpa using hclock, rfl⟩
  revert hanswer hgoes hbreaks
  generalize (platform.send request v.world.outside).1 = answer
  intro hgoes hbreaks hanswer
  cases answer with
  | error fault =>
    cases htransport : fault.isTransport with
    | false =>
      refine .upset request fault hanswer htransport (hbreaks _ ?_)
      simp only [fetched, failed, htransport, Bool.false_eq_true, if_false]
    | true =>
      refine .unsent request fault hanswer htransport (hgoes { error := some fault.message } ?_)
      simp only [fetched, failed, htransport, if_true]
  | ok response =>
    cases hcheck : response.check request with
    | error fault =>
      refine .refused request response fault hanswer hcheck (hgoes { error := some fault.message } ?_)
      simp only [fetched, failed, hcheck, Http.isTransport_of_check hcheck, if_true]
    | ok done =>
      cases hjson : response.json platform.library with
      | ok value =>
        refine .answered request response value hanswer hcheck hjson (hgoes { value } ?_)
        simp only [fetched, hcheck, Http.Response.content, hjson]
      | error fault =>
        cases hdeep : fault.problem.isTooDeep with
        | true =>
          refine .buried request response fault hanswer hcheck hjson hdeep (hbreaks _ ?_)
          simp only [fetched, hcheck, Http.Response.content, hjson, hdeep, if_true]
        | false =>
          refine .quoted request response fault hanswer hcheck hjson hdeep (hgoes { value := .text _ } ?_)
          simp only [fetched, hcheck, Http.Response.content, hjson, hdeep, Bool.false_eq_true, if_false]

end

theorem callEnds {v : Run.Visit (World σ)} {call : Call} {name : String}
    (hbehavior : v.node.behavior = .apiCall call) (hname : call.errorVariable = some name)
    (haddress : ¬ call.IsBlank v.bindings context) : CallEnds platform poll graph context call name v := by
  cases hfill : call.fill v.bindings context with
  | error fault =>
    obtain rfl := Call.eq_integerTooLong_of_fill hfill
    refine .unfilled hfill (Run.Visit.breaks_of_reply ?_)
    exact reply_of_fill_eq_error platform poll graph context hbehavior haddress hfill
  | ok texts =>
    cases hrequest : call.request platform.library texts with
    | ok request => exact callEnds_of_request hbehavior hname haddress hfill hrequest
    | error fault =>
      have hcalled : (called platform call texts v.world.outside).1 = failed fault := by
        unfold called
        rw [hrequest]
      rcases Call.fault_of_request hrequest with ⟨text, hread, rfl⟩ | ⟨text, hforeign, rfl⟩
      · exact .unread texts text hfill hread (breaks_of_called hbehavior hname haddress hfill hcalled)
      · exact .unencoded texts text hfill hforeign (breaks_of_called hbehavior hname haddress hfill hcalled)

/-! ## What fails a run -/

/-- What can fail a run at a call with a variable for its error: a blank address, an integer that is too long for a
text, a request that cannot be written or a platform that fails in a way that is none of the transport, and JSON that
is too deep. -/
inductive IsCause : Fault → Prop where
  | blank : IsCause .addressRequired
  | long : IsCause .integerTooLong
  | request (fault : Http.Fault) (htransport : fault.isTransport = false) : IsCause (.request fault)
  | deep (fault : Json.Fault) (hdeep : fault.problem.isTooDeep = true) : IsCause (.json fault)

theorem isCause_of_failed {fault : Http.Fault} {cause : Fault} (h : failed fault = .raised cause) : IsCause cause := by
  unfold failed at h
  split at h
  · cases h
  · rename_i htransport
    cases h
    exact .request fault (by simpa using htransport)

theorem isCause_of_fetched {library : Http.Library} {request : Http.Request}
    {answer : Except Http.Fault Http.Response} {cause : Fault} (h : fetched library request answer = .raised cause) :
    IsCause cause := by
  cases answer with
  | error fault => exact isCause_of_failed h
  | ok response =>
    dsimp only [fetched] at h
    split at h
    · exact isCause_of_failed h
    · split at h
      · rename_i fault hcontent
        cases h
        refine .deep fault ?_
        unfold Http.Response.content at hcontent
        split at hcontent
        · cases hcontent
        · split at hcontent
          · rename_i hdeep
            cases hcontent
            exact hdeep
          · cases hcontent
      · cases h

theorem isCause_of_called {call : Call} {texts : Call.Filled} {outside : σ} {cause : Fault}
    (h : (called platform call texts outside).1 = .raised cause) : IsCause cause := by
  unfold called at h
  split at h
  · exact isCause_of_failed h
  · unfold Web.timely at h
    split at h
    · cases h
    · exact isCause_of_fetched h

/-- What fails the visit of a call with a variable for its error. -/
theorem isCause_of_raised {v : Run.Visit (World σ)} {call : Call} {name : String}
    (hbehavior : v.node.behavior = .apiCall call) (hname : call.errorVariable = some name) {cause : Fault}
    (h : v.reply (backend platform poll) graph context = .raised cause) : IsCause cause := by
  by_cases hblank : call.IsBlank v.bindings context
  · have hhandled : v.node.outcome v.bindings context graph.declarations v.generator =
        (.error .addressRequired, v.generator) := by
      simp only [Node.outcome, hbehavior, Call.outcome_of_isBlank hblank]
    rw [(Run.Visit.of_error (backend platform poll) hhandled).1] at h
    cases h
    exact .blank
  cases hfill : call.fill v.bindings context with
  | error fault =>
    rw [reply_of_fill_eq_error platform poll graph context hbehavior hblank hfill] at h
    cases h
    exact Call.eq_integerTooLong_of_fill hfill ▸ .long
  | ok texts =>
    obtain ⟨outcome, -, -, hreply⟩ := reply_of_call platform poll graph context hbehavior hname hblank hfill
    rw [hreply] at h
    split at h
    · cases h
    · rename_i fault hcalled
      cases h
      exact isCause_of_called hcalled
    · cases h

/-- A call with a variable for its error, and a message afterwards. -/
def ringing (url : String) (headers : Entries String) : Graph where
  nodes := [⟨"begin", ⟨.zero, .zero⟩, .start ""⟩,
    ⟨"call", ⟨.zero, .zero⟩, .apiCall ⟨url, .get, headers, none, "response", some "err"⟩⟩,
    ⟨"after", ⟨.zero, .zero⟩, .sendMessage ⟨"done", none, false⟩⟩]
  edges := [{ id := "1", source := "begin", target := "call" },
    { id := "2", source := "call", target := "after" }]

/-- A library that knows a host, and to which a port is a number. -/
def careful : Http.Library :=
  { Http.Library.standIn with
    readAddress url :=
      if url = "http://a:x" then .error "Invalid port: 'x'"
      else .ok { scheme := "http", host := "a", path := String.ofList (url.toList.drop 8) } }

/-- An error of the transport is stored, and the run goes on. -/
example :
    (Run.run (backend (Rehearsal.platform { library := careful }) .zero) (ringing "http://a/" []) .standIn 10
        (.ofSeed 0) ⟨false, { rules := [{ failure := some ("ConnectError", "down") }] }⟩).1.map
      (fun result => (result.status, result.path, Entries.get? result.bindings "err")) =
      .ok (.stopped, ["begin", "call", "after"], some (.text "down")) := by
  with_unfolding_all rfl

end Live

end CommandFlow
