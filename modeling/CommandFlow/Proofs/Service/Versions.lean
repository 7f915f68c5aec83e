import Mathlib.Data.List.Induction
import CommandFlow.Http.Network
import CommandFlow.Proofs.Except
import CommandFlow.Proofs.Service.Catalogue

/-!
# Version histories

Every command has the versions that were saved for it, in their order, and the last one is active.

* `history` : the snapshots of a command for which some graphs were saved;
* `Store.versions_saveVersion_self`, `Store.versions_saveVersion_of_ne` : a save lengthens one history;
* `App.saveOf?` : what a request to save a graph holds; `App.accepts` : whether it is saved;
* `App.Alike` : services that accept the same requests; `App.alike_respond` : a request leaves a service like it was;
* `App.versions_respond` : what one request does to a history;
* `App.versions_respondAll` : the histories after any requests.
-/

namespace CommandFlow.Service

/-! ## Histories -/

/-- The snapshots of a command for which these graphs were saved, the oldest first. -/
def history (command : Uuid) (graphs : List Value) : List Snapshot :=
  graphs.mapIdx fun i graph =>
    { command, version := i + 1, graph, isActive := decide (i + 1 = graphs.length) }

@[simp]
theorem Store.command_retire (command : Uuid) (snapshot : Snapshot) :
    (retire command snapshot).command = snapshot.command := by
  unfold retire
  split <;> rfl

@[simp]
theorem Store.version_retire (command : Uuid) (snapshot : Snapshot) :
    (retire command snapshot).version = snapshot.version := by
  unfold retire
  split <;> rfl

@[simp]
theorem Store.graph_retire (command : Uuid) (snapshot : Snapshot) :
    (retire command snapshot).graph = snapshot.graph := by
  unfold retire
  split <;> rfl

section
variable (command : Uuid) (graphs : List Value)

theorem retire_history :
    (history command graphs).map (Store.retire command) =
      graphs.mapIdx fun i graph => { command, version := i + 1, graph, isActive := false } := by
  refine List.ext_getElem (by simp [history]) fun i _ _ => ?_
  simp [history, Store.retire]

theorem history_concat (graph : Value) :
    history command (graphs ++ [graph]) = (history command graphs).map (Store.retire command) ++
      [{ command, version := graphs.length + 1, graph }] := by
  rw [retire_history, history, List.mapIdx_concat, List.length_append, List.length_singleton]
  congr 1
  · refine List.mapIdx_eq_mapIdx_iff.mpr fun i hi => ?_
    have hne : i ≠ graphs.length := by omega
    simp [hne]
  · simp

theorem version_history : (history command graphs).map (·.version) = List.range' 1 graphs.length := by
  induction graphs using List.reverseRecOn with
  | nil => rfl
  | append_singleton graphs graph ih =>
    rw [history_concat, List.map_append, List.map_map, List.length_append, List.length_singleton,
      List.range'_1_concat, ← ih, Nat.add_comm 1]
    simp

theorem graph_history : (history command graphs).map (·.graph) = graphs := by
  induction graphs using List.reverseRecOn with
  | nil => rfl
  | append_singleton graphs graph ih =>
    rw [history_concat, List.map_append, List.map_map]
    simpa [Function.comp_def] using ih

theorem filter_isActive_history (graph : Value) :
    (history command (graphs ++ [graph])).filter (·.isActive) =
      [{ command, version := graphs.length + 1, graph }] := by
  have hretired : ((history command graphs).map (Store.retire command)).filter (·.isActive) = [] := by
    rw [List.filter_eq_nil_iff, retire_history]
    intro snapshot hmem
    obtain ⟨i, hi, rfl⟩ := List.mem_mapIdx.mp hmem
    exact Bool.false_ne_true
  rw [history_concat, List.filter_append, hretired]
  rfl

/-- Later saves leave of a history what there is, but that its last version is no longer active. -/
theorem retire_history_prefix (later : List Value) :
    (history command graphs).map (Store.retire command) <+:
      (history command (graphs ++ later)).map (Store.retire command) := by
  rw [retire_history, retire_history, List.mapIdx_append]
  exact List.prefix_append _ _

end

namespace Store

variable {store : Store} {command : Uuid} {graphs : List Value}

theorem lastVersion_eq_length (h : store.versions command = history command graphs) :
    store.lastVersion command = graphs.length := by
  have hmax : ∀ n, (List.range' 1 n).foldl max 0 = n := by
    intro n
    induction n with
    | zero => rfl
    | succ n ih =>
      rw [List.range'_1_concat, List.foldl_append, ih]
      show max n (1 + n) = n + 1
      omega
  have hfold : store.lastVersion command = ((store.versions command).map (·.version)).foldl max 0 := by
    rw [List.foldl_map]
    rfl
  rw [hfold, h, version_history, hmax]

theorem versions_saveVersion (store : Store) (command other : Uuid) (graph : Value) (note : Option String) :
    (store.saveVersion command graph note).2.versions other = (store.versions other).map (retire command) ++
      [(store.saveVersion command graph note).1].filter (·.command = other) := by
  have hcommand : (fun snapshot : Snapshot => decide (snapshot.command = other)) ∘ retire command =
      fun snapshot => decide (snapshot.command = other) := by
    funext snapshot
    simp
  show (store.snapshots.map (retire command) ++ _).filter _ = _
  rw [List.filter_append, List.filter_map, hcommand]
  rfl

theorem versions_saveVersion_self (h : store.versions command = history command graphs) (graph : Value) :
    (store.saveVersion command graph none).2.versions command = history command (graphs ++ [graph]) := by
  rw [versions_saveVersion, h, history_concat, ← lastVersion_eq_length h]
  simp [saveVersion]

theorem versions_saveVersion_of_ne {other : Uuid} (h : command ≠ other) (graph : Value) (note : Option String) :
    (store.saveVersion command graph note).2.versions other = store.versions other := by
  have hretire : ∀ snapshot ∈ store.versions other, retire command snapshot = snapshot := by
    intro snapshot hmem
    have hcommand : snapshot.command = other := of_decide_eq_true (List.mem_filter.mp hmem).2
    rw [retire, if_neg fun heq => h (heq.symm.trans hcommand)]
  rw [versions_saveVersion, List.map_congr_left hretire]
  simp [saveVersion, h]

end Store

/-! ## Requests to save a graph -/

namespace Api

def isSave (request : Http.Request) : Bool :=
  match route (methodOf request) (pathOf request) with
  | .endpoint (.saveGraph _) => true
  | _ => false

theorem method_of_route {method : String} {path : List Char} {endpoint : Endpoint}
    (h : route method path = .endpoint endpoint) : endpoint.method = method := by
  unfold route at h
  split at h
  · split at h
    · cases h
      assumption
    · cases h
  · split at h <;> cases h

end Api

namespace App

open Api

variable {σ : Type} (app : App σ)

/-- The command and the document of a request to save a graph, if it has them. -/
def saveOf? (request : Http.Request) : Option (Uuid × GraphDocument) :=
  match route (methodOf request) (pathOf request) with
  | .endpoint (.saveGraph command) => (readPartAndBody app.web.library "command_id" command graphShape request).toOption
  | _ => none

/-- A save is accepted: the store answers, the command exists and the graph has no faults. -/
def accepts (save : Uuid × GraphDocument) : Bool :=
  app.outage.serves .catalogue && (app.store.command? save.1).isSome && save.2.graph.faults.isEmpty

def saved? (command : Uuid) (request : Http.Request) : Option Value :=
  ((app.saveOf? request).filter fun save => save.1 = command && app.accepts save).map (·.2.write)

def respondAll (requests : List Http.Request) : App σ :=
  requests.foldl (fun app request => (app.respond request).2) app

variable {app}

theorem exists_of_saveOf? {request : Http.Request} {save : Uuid × GraphDocument}
    (h : app.saveOf? request = some save) :
    ∃ part, route (methodOf request) (pathOf request) = .endpoint (.saveGraph part) ∧
      readPartAndBody app.web.library "command_id" part graphShape request = .ok save := by
  unfold saveOf? at h
  split at h
  · rename_i part hroute
    exact ⟨part, hroute, toOption_eq_some.mp h⟩
  · cases h

theorem saved?_of_saveOf? {request : Http.Request} {target : Uuid} {document : GraphDocument}
    (h : app.saveOf? request = some (target, document)) (command : Uuid) :
    app.saved? command request =
      if target = command ∧ app.accepts (target, document) = true then some document.write else none := by
  rw [saved?, h, Option.filter_some]
  by_cases htarget : target = command <;> simp [htarget]

theorem saveGraph_of_accepts {command : Uuid} {document : GraphDocument} (h : app.accepts (command, document) = true) :
    app.saveGraph command document =
      (.ok (json 200 (savedValue command (app.store.saveVersion command document.write none).1 document.graph)),
        app.withStore (app.store.saveVersion command document.write none).2) := by
  simp only [accepts, Bool.and_eq_true, Option.isSome_iff_exists, List.isEmpty_iff] at h
  obtain ⟨⟨hserves, found, hfound⟩, hfaults⟩ := h
  have hreach : app.reach .catalogue = .ok app.store := if_pos hserves
  have hsave : app.store.saveGraph command document = .ok (app.store.saveVersion command document.write none) := by
    rw [Store.saveGraph, hfound, hfaults]
  rw [saveGraph, hreach]
  dsimp only
  rw [hsave]

theorem saveGraph_of_not_accepts {command : Uuid} {document : GraphDocument}
    (h : app.accepts (command, document) = false) :
    (app.saveGraph command document).2 = app ∧
      (app.outage.serves .catalogue = true → ∃ response, (app.saveGraph command document).1 = .ok response ∧
        response.status = if (app.store.command? command).isSome then 422 else 404) := by
  rw [saveGraph, reach]
  cases hserves : app.outage.serves .catalogue with
  | false => exact ⟨rfl, fun hserved => nomatch hserved⟩
  | true =>
    rw [if_pos rfl]
    dsimp only
    cases hfound : app.store.command? command with
    | none =>
      rw [Store.saveGraph, hfound]
      exact ⟨rfl, fun _ => ⟨_, rfl, rfl⟩⟩
    | some found =>
      cases hfaults : document.graph.faults with
      | nil =>
        rw [accepts, hserves, hfound, hfaults] at h
        cases h
      | cons fault faults =>
        rw [Store.saveGraph, hfound, hfaults]
        exact ⟨rfl, fun _ => ⟨_, rfl, rfl⟩⟩

/-- A request with a command and a document is answered as they are saved. -/
theorem respond_of_saveOf? {request : Http.Request} {command : Uuid} {document : GraphDocument}
    (h : app.saveOf? request = some (command, document)) :
    app.respond request = ((app.saveGraph command document).1.map (identified request),
      (app.saveGraph command document).2) := by
  obtain ⟨part, hroute, hcontent⟩ := exists_of_saveOf? h
  have hmethod : methodOf request = "PUT" := (method_of_route hroute).symm
  have hbare : app.respondBare request = app.saveGraph command document := by
    unfold respondBare
    rw [hroute]
    show app.withContent (readPartAndBody app.web.library "command_id" part graphShape request) _ = _
    rw [hcontent]
    rfl
  unfold respond
  rw [hbare, hmethod]
  rfl

theorem respond_of_saveOf?_eq_none (app : App σ) {request : Http.Request} (h : app.saveOf? request = none) :
    app.Leaves (app.respond request).2 ∧ (isSave request = true → (app.respond request).2 = app) := by
  have hrespond : (app.respond request).2 = (app.respondBare request).2 := rfl
  rw [hrespond]
  unfold saveOf? at h
  unfold respondBare isSave
  split at h
  · rename_i part hroute
    rw [hroute]
    show app.Leaves (app.withContent (readPartAndBody app.web.library "command_id" part graphShape request) _).2 ∧
      (_ → (app.withContent (readPartAndBody app.web.library "command_id" part graphShape request) _).2 = app)
    cases hcontent : readPartAndBody app.web.library "command_id" part graphShape request with
    | error response => exact ⟨.refl app, fun _ => rfl⟩
    | ok content =>
      rw [hcontent] at h
      cases h
  · rename_i hroute
    cases hwhere : route (methodOf request) (pathOf request) with
    | endpoint endpoint =>
      have hne : ∀ command, endpoint ≠ .saveGraph command := by
        rintro command rfl
        exact hroute command hwhere
      refine ⟨app.leaves_respondTo request hne, fun hsave => ?_⟩
      cases endpoint with
      | saveGraph command => exact absurd rfl (hne command)
      | _ => cases hsave
    | _ => exact ⟨.refl app, fun _ => rfl⟩

/-- A request lengthens the history of the command that it saves a graph for. -/
theorem versions_respond {command : Uuid} {graphs : List Value}
    (h : app.store.versions command = history command graphs) (request : Http.Request) :
    (app.respond request).2.store.versions command =
      history command (graphs ++ (app.saved? command request).toList) := by
  cases hsave : app.saveOf? request with
  | none =>
    have hsaved : app.saved? command request = none := by
      rw [saved?, hsave]
      rfl
    rw [hsaved, Option.toList_none, List.append_nil, ← h, Store.versions,
      (app.respond_of_saveOf?_eq_none hsave).1.snapshots]
    rfl
  | some save =>
    obtain ⟨target, document⟩ := save
    rw [respond_of_saveOf? hsave, saved?_of_saveOf? hsave]
    cases haccepts : app.accepts (target, document) with
    | false => simpa [(saveGraph_of_not_accepts haccepts).1] using h
    | true =>
      rw [saveGraph_of_accepts haccepts]
      show (app.store.saveVersion target document.write none).2.versions command = _
      by_cases htarget : target = command
      · subst htarget
        rw [if_pos ⟨rfl, rfl⟩]
        exact Store.versions_saveVersion_self h document.write
      · rw [if_neg fun hboth => htarget hboth.1, Store.versions_saveVersion_of_ne htarget]
        simpa using h

/-- The services have the same commands, the same parts of the store answer, and the web is the same. -/
structure Alike (other app : App σ) : Prop where
  commands : other.store.commands = app.store.commands
  outage : other.outage = app.outage
  web : other.web = app.web

/-- A request changes neither which commands there are nor which parts of the store answer. -/
theorem alike_respond (app : App σ) (request : Http.Request) : Alike (app.respond request).2 app := by
  cases hsave : app.saveOf? request with
  | none =>
    have hleaves := (app.respond_of_saveOf?_eq_none hsave).1
    exact ⟨hleaves.commands, hleaves.outage, hleaves.web⟩
  | some save =>
    obtain ⟨target, document⟩ := save
    rw [respond_of_saveOf? hsave]
    cases haccepts : app.accepts (target, document) with
    | false =>
      rw [(saveGraph_of_not_accepts haccepts).1]
      exact ⟨rfl, rfl, rfl⟩
    | true =>
      rw [saveGraph_of_accepts haccepts]
      exact ⟨rfl, rfl, rfl⟩

theorem alike_respondAll (app : App σ) (requests : List Http.Request) : Alike (app.respondAll requests) app := by
  induction requests generalizing app with
  | nil => exact ⟨rfl, rfl, rfl⟩
  | cons request requests ih =>
    have hfirst := app.alike_respond request
    have hrest := ih (app.respond request).2
    exact ⟨hrest.commands.trans hfirst.commands, hrest.outage.trans hfirst.outage, hrest.web.trans hfirst.web⟩

section
variable {other : App σ} (h : Alike other app)

include h

theorem Alike.command?_eq (command : Uuid) : other.store.command? command = app.store.command? command := by
  rw [Store.command?, h.commands]
  rfl

theorem Alike.saveOf?_eq : other.saveOf? = app.saveOf? := by
  funext request
  rw [saveOf?, saveOf?, h.web]

theorem Alike.accepts_eq : other.accepts = app.accepts := by
  funext save
  rw [accepts, accepts, h.command?_eq, h.outage]

theorem Alike.saved?_eq : other.saved? = app.saved? := by
  funext command request
  rw [saved?, saved?, h.accepts_eq, h.saveOf?_eq]

end

theorem history_respondAll {command : Uuid} {graphs : List Value}
    (h : app.store.versions command = history command graphs) (requests : List Http.Request) :
    (app.respondAll requests).store.versions command =
      history command (graphs ++ requests.filterMap (app.saved? command)) := by
  induction requests generalizing app graphs with
  | nil =>
    rw [List.filterMap_nil, List.append_nil]
    exact h
  | cons request requests ih =>
    have hnext := ih (versions_respond h request)
    rw [(app.alike_respond request).saved?_eq] at hnext
    rw [List.filterMap_cons]
    cases hsaved : app.saved? command request with
    | none => simpa [hsaved, respondAll] using hnext
    | some graph => simpa [hsaved, respondAll] using hnext

theorem status_body_identified (request : Http.Request) (response : Http.Response) :
    (identified request response).status = response.status ∧
      (identified request response).body = response.body := by
  unfold identified
  split <;> exact ⟨rfl, rfl⟩

/-- The response to a save: what is wrong with it, or which version it is. -/
structure IsSaveResponse (app : App σ) (request : Http.Request) (target : Uuid) (document : GraphDocument)
    (version : Nat) (response : Http.Response) : Prop where
  unknown : app.store.command? target = none → response.status = 404
  faulty : app.store.command? target ≠ none → document.graph.faults ≠ [] → response.status = 422
  accepted : app.store.command? target ≠ none → document.graph.faults = [] →
    response.status = 200 ∧ app.saved? target request = some document.write ∧
      ∃ snapshot, snapshot.version = version ∧
        response.body = .json (savedValue target snapshot document.graph)

theorem IsSaveResponse.of_alike {other : App σ} {request : Http.Request} {target : Uuid} {document : GraphDocument}
    {version : Nat} {response : Http.Response} (halike : Alike other app)
    (h : other.IsSaveResponse request target document version response) :
    app.IsSaveResponse request target document version response := by
  have hcommand := halike.command?_eq target
  exact ⟨hcommand ▸ h.unknown, hcommand ▸ h.faulty, hcommand ▸ halike.saved?_eq ▸ h.accepted⟩

theorem exists_response_of_saveOf? (app : App σ) {request : Http.Request} {target : Uuid} {document : GraphDocument}
    (hsave : app.saveOf? request = some (target, document)) (hserved : app.outage.serves .catalogue = true)
    {graphs : List Value} (hhistory : app.store.versions target = history target graphs) :
    ∃ response, (app.respond request).1 = .ok response ∧
      app.IsSaveResponse request target document (graphs.length + 1) response := by
  rw [respond_of_saveOf? hsave]
  cases haccepts : app.accepts (target, document) with
  | true =>
    have hvalid : app.store.command? target ≠ none ∧ document.graph.faults = [] := by
      simp only [accepts, Bool.and_eq_true, List.isEmpty_iff] at haccepts
      exact ⟨Option.isSome_iff_ne_none.mp haccepts.1.2, haccepts.2⟩
    have hsaved : app.saved? target request = some document.write := by
      rw [saved?_of_saveOf? hsave, if_pos ⟨rfl, haccepts⟩]
    have hversion := congrArg (· + 1) (Store.lastVersion_eq_length hhistory)
    rw [saveGraph_of_accepts haccepts]
    obtain ⟨hstatus, hbody⟩ := status_body_identified request
      (json 200 (savedValue target (app.store.saveVersion target document.write none).1 document.graph))
    exact ⟨_, rfl, fun hnone => absurd hnone hvalid.1, fun _ hfaults => absurd hvalid.2 hfaults,
      fun _ _ => ⟨hstatus, hsaved, _, hversion, hbody⟩⟩
  | false =>
    obtain ⟨response, hresponse, hstatus⟩ := (saveGraph_of_not_accepts haccepts).2 hserved
    have hidentified := (status_body_identified request response).1.trans hstatus
    rw [hresponse]
    refine ⟨_, rfl, fun hnone => ?_, fun hsome _ => ?_, fun hsome hfaults => ?_⟩
    · rw [hidentified, hnone]
      rfl
    · rw [hidentified, if_pos (Option.isSome_iff_ne_none.mpr hsome)]
    · rw [accepts, hserved, Option.isSome_iff_ne_none.mpr hsome, hfaults] at haccepts
      cases haccepts

/-- After any requests to a service without snapshots the versions of a command are the accepted saves of it, in
their order and without a gap, and the last one is active. No request changes an earlier one but for being active;
a save is accepted if the command exists and the graph has no faults, and one that is not changes nothing. -/
theorem versions_respondAll (happ : app.store.snapshots = []) (requests : List Http.Request) (command : Uuid) :
    let after := app.respondAll requests
    let graphs := requests.filterMap (app.saved? command)
    (after.store.versions command).map (·.version) = List.range' 1 graphs.length ∧
    (after.store.versions command).map (·.graph) = graphs ∧
    (∀ graph, graphs.getLast? = some graph → ∃ snapshot,
      (after.store.versions command).filter (·.isActive) = [snapshot] ∧
        after.store.activeSnapshot command = some snapshot ∧
        snapshot.version = graphs.length ∧ snapshot.graph = graph) ∧
    ∀ earlier request later, requests = earlier ++ request :: later →
      let here := app.respondAll earlier
      (here.store.versions command).map (Store.retire command) <+:
        (after.store.versions command).map (Store.retire command) ∧
      (isSave request = true → (∀ target, app.saved? target request = none) → (here.respond request).2 = here) ∧
      ∀ target document, app.saveOf? request = some (target, document) → app.outage.serves .catalogue = true →
        ∃ response, (here.respond request).1 = .ok response ∧ app.IsSaveResponse request target document
          ((earlier.filterMap (app.saved? target)).length + 1) response := by
  intro after graphs
  have hhere : ∀ requests command, (app.respondAll requests).store.versions command =
      history command (requests.filterMap (app.saved? command)) := by
    intro requests command
    have hempty : app.store.versions command = history command [] := by
      rw [Store.versions, happ]
      rfl
    simpa using history_respondAll hempty requests
  have hafter : after.store.versions command = history command graphs := hhere requests command
  refine ⟨by rw [hafter, version_history], by rw [hafter, graph_history], fun graph hlast => ?_,
    fun earlier request later hrequests => ?_⟩
  · obtain ⟨front, hfront⟩ := List.getLast?_eq_some_iff.mp hlast
    have hactive : (after.store.versions command).filter (·.isActive) =
        [{ command, version := front.length + 1, graph }] := by
      rw [hafter, hfront, filter_isActive_history]
    refine ⟨_, hactive, ?_, ?_, rfl⟩
    · rw [Store.activeSnapshot, ← List.head?_filter, hactive]
      rfl
    · rw [hfront, List.length_append]
      rfl
  · intro here
    have halike : Alike here app := app.alike_respondAll earlier
    refine ⟨?_, fun hsave hnone => ?_, fun target document hsave hserved => ?_⟩
    · rw [hhere, hafter, show graphs = _ from congrArg _ hrequests, List.filterMap_append]
      exact retire_history_prefix command _ _
    · cases hof : here.saveOf? request with
      | none => exact (here.respond_of_saveOf?_eq_none hof).2 hsave
      | some save =>
        obtain ⟨target, document⟩ := save
        have hrejected : here.accepts (target, document) = false := by
          have hunsaved := hnone target
          rw [← halike.saved?_eq, saved?_of_saveOf? hof] at hunsaved
          simpa using hunsaved
        rw [respond_of_saveOf? hof]
        exact (saveGraph_of_not_accepts hrejected).1
    · obtain ⟨response, hresponse, hanswer⟩ :=
        here.exists_response_of_saveOf? (halike.saveOf?_eq ▸ hsave) (halike.outage ▸ hserved) (hhere earlier target)
      exact ⟨response, hresponse, hanswer.of_alike halike⟩

/-- A service with one command, whose chat platform is nowhere. -/
def draft : App Http.Network where
  settings := .usual
  client := ⟨"", "", "", 0⟩
  web := Http.Network.web .standIn
  world := { router.store.commands := [{ id := ⟨2⟩, project := ⟨1⟩, name := "ping" }], outside := {} }

/-- A request to save a graph for the second record. -/
def put (body : String) : Http.Request where
  method := "PUT"
  address := { path := "/v1/commands/00000000-0000-0000-0000-000000000002/graph" }
  headers := [(Http.contentType, Http.jsonType)]
  body := .text body

theorem versions_respondAll_draft :
    let start := put "\x7b\"nodes\": [\x7b\"id\": \"s\", \"type\": \"START\"\x7d]\x7d"
    let requests := [start, put "\x7b\"nodes\": []\x7d", start]
    draft.store.snapshots = [] ∧
    ((draft.respondAll requests).store.versions ⟨2⟩).map (·.version) = [1, 2] := by
  intro start requests
  have hversions := (versions_respondAll (show draft.store.snapshots = [] from rfl) requests ⟨2⟩).1
  have hlength : (requests.filterMap (draft.saved? ⟨2⟩)).length = 2 := by decide +kernel
  exact ⟨rfl, hversions.trans (congrArg (List.range' 1) hlength)⟩

end App

end CommandFlow.Service
