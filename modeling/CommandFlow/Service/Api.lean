import CommandFlow.Json.Octets
import CommandFlow.Run.Simulation
import CommandFlow.Service.App
import CommandFlow.Service.Authoring
import CommandFlow.Service.Endpoint
import CommandFlow.Signature.Verify

/-!
# The web interface

* `Api.content` : what the body of a request holds; `Api.readBody` : the body in a shape;
* `App.webhook` : messages of the chat platform, which are signed;
* `App.respondTo` : the response to a request for an endpoint;
* `App.respond` : the response to a request.
-/

namespace CommandFlow.Service

open Schema

namespace Api

/-! ## Responses -/

def json (status : Nat) (v : Value) : Http.Response := { status, body := .json v }

def refuse (status : Nat) (detail : Value) : Http.Response :=
  json status (.object [("detail", detail)])

/-- A response that tells in words what is wrong. -/
def refuseText (status : Nat) (detail : String) : Http.Response := refuse status (.text detail)

def statusWord (status : Nat) (word : String) : Http.Response :=
  json status (.object [("status", .text word)])

def texts (items : List String) : Value := .list (items.map Value.text)

def stepValue : PathStep → Value
  | .key name => .text name
  | .index i => .ofNat i

def faultValue (fault : Schema.Fault) : Value :=
  .object [("loc", .list (fault.path.map stepValue)), ("type", .text fault.kind.name)]

def refuseFaults (faults : List Schema.Fault) : Http.Response :=
  refuse 422 (.list (faults.map faultValue))

def refuseStructure (faults : List StructureFault) : Http.Response :=
  refuse 422 (texts (faults.map StructureFault.message))

/-! ## Bodies -/

def isJsonType (type : String) : Bool :=
  let essence := (Text.stripChars (type.toList.takeWhile (· ≠ ';'))).map Char.toLower
  match essence.splitOn '/' with
  | [main, sub] =>
    main = "application".toList && (sub = "json".toList || "+json".toList.isSuffixOf sub)
  | _ => false

def header (headers : Entries String) (name : String) : String :=
  (Entries.get? headers name).getD ""

def textOfOctets (octets : List Nat) : List Char :=
  match String.fromUTF8? ⟨(octets.map UInt8.ofNat).toArray⟩ with
  | some s => s.toList
  | none => octets.map fun n => if n < 0x80 then Char.ofNat n else '\uFFFD'

/-- What the body of a request holds: nothing, JSON, or else a text. -/
def content (library : Http.Library) (request : Http.Request) : Except Json.Fault (Option Value) :=
  let octets := request.body.octets
  if octets.isEmpty then .ok none
  else if isJsonType (header request.headers Http.contentType) then
    (Json.readOctets library.reading octets).map some
  else .ok (some (.text (String.ofList (textOfOctets (octets.map UInt8.toNat)))))

/-- The response to a body that is no JSON, or none that can be read. -/
def refuseJson (fault : Json.Fault) : Http.Response :=
  if fault.problem.isPlaced then refuseFaults [⟨[.key "body", .index fault.position], .json⟩]
  else refuseText 400 "There was an error parsing the body"

def readContent (shape : Shape) : Option Value → Checked shape.Carrier
  | none => within (.key "body") (fail .missing)
  | some v => within (.key "body") (shape.read .request v)

/-- The body of a request in a shape, or the response to a body that has none. -/
def readBody (library : Http.Library) (shape : Shape) (request : Http.Request) : Except Http.Response shape.Carrier :=
  match content library request with
  | .error fault => .error (refuseJson fault)
  | .ok content => (readContent shape content).mapError refuseFaults

def readPart (name part : String) : Checked Uuid :=
  within (.key "path") (within (.key name) (readUuid (.text part)))

/-- An identifier that is a part of the path, and the body of a request in a shape. -/
def readPartAndBody (library : Http.Library) (name part : String) (shape : Shape) (request : Http.Request) :
    Except Http.Response (Uuid × shape.Carrier) :=
  match content library request with
  | .error fault => .error (refuseJson fault)
  | .ok content => (both (readPart name part) (readContent shape content)).mapError refuseFaults

/-! ## Shapes -/

/-- What a project and a guild for a deployment may look like. -/
def deploymentShape : Shape :=
  .record
    (.cons "project_id" [] .uuid none <|
      .cons "guild_id" [] (.sized 1 32) none .nil) false

/-- What the context of a simulation may look like. -/
def contextFields : Fields :=
  .cons "user_id" [] (.optional .text) (some .null) <|
  .cons "username" [] (.optional .text) (some .null) <|
  .cons "guild_id" [] (.optional .text) (some .null) <|
  .cons "guild_name" [] (.optional .text) (some .null) <|
  .cons "channel_id" [] (.optional .text) (some .null) <|
  .cons "channel_name" [] (.optional .text) (some .null) <|
  .cons "options" [] (.map .anything) (some (.object [])) <|
  .cons "variables" [] (.map .anything) (some (.object [])) <|
  .cons "seed" [] (.optional .integer) (some .null) .nil

/-- What a request for a simulation may look like. -/
def simulationShape : Shape :=
  .record
    (.cons "graph" [] graphShape none <|
      .cons "context" [] (.record contextFields false) (some (.object [])) <|
      .cons "action_stubs" [] (.map .anything) (some (.object [])) .nil) false

/-- A text that says something. -/
def said (text : Option String) : Option String := text.filter fun s => !s.isEmpty

def placeOf (id name : Option String) : Option Place :=
  (said id).map fun id => ⟨id, name.getD ""⟩

/-- The context of a simulation, and numbers for it. What is not given stands in. -/
def contextOf : contextFields.Carrier → Context × Generator
  | (userId, username, guildId, guildName, channelId, channelName, options, bindings, seed, ()) =>
    let user : Option User := (said userId).map fun id =>
      { id, username := (said username).getD Context.standIn.user.username }
    ({ user := user.getD Context.standIn.user
       guild := (placeOf guildId guildName).or Context.standIn.guild
       channel := (placeOf channelId channelName).getD Context.standIn.channel
       options
       bindings },
      Generator.ofSeed (Option.getD seed 0))

def simulatedValue (simulated : Simulated) : Value :=
  finiteOnly (.object [("status", .text simulated.result.status.name),
    ("steps", .list (simulated.result.steps.map Step.toValue)),
    ("outputs", .list (Simulation.recorded simulated.world.outputs)),
    ("finalVariables", .object simulated.result.bindings)])

/-! ## Paths -/

def pathOf (request : Http.Request) : List Char :=
  textOfOctets (Http.unescape request.address.path.toList)

def methodOf (request : Http.Request) : String :=
  String.ofList (request.method.toList.map Char.toUpper)

def identityHeader : String := "x-request-id"

/-- A response with the identity of its request, if that has one. -/
def identified (request : Http.Request) (response : Http.Response) : Http.Response :=
  match Entries.get? request.headers identityHeader with
  | some id => { response with headers := response.headers ++ [(identityHeader, id)] }
  | none => response

/-- The response to a request for the head of a response, which is all it has. -/
def withoutBody (method : String) (response : Http.Response) : Http.Response :=
  if method = "HEAD" then { response with body := .empty } else response

/-! ## Messages of the chat platform -/

/-- The type of a message that asks whether the service is there. -/
def pingType : Int := 1

/-- The type of a message about an invocation of a command. -/
def commandType : Int := 2

/-- What a message of the chat platform asks for. -/
inductive Message where
  | ping
  | command (invocation : Chat.Invocation)
  | unknown (type : Value)

def messageOf (payload : Value) : Except Fault Message :=
  match payload with
  | .object members =>
    let type := Chat.Invocation.member members "type"
    if type.isInteger pingType then .ok .ping
    else if type.isInteger commandType then (Chat.Invocation.read payload).map .command
    else .ok (.unknown type)
  | _ => .error .noMembers

/-- The text that is the type of a message, with a character of choice in the place of each half character. -/
def typeText (library : Http.Library) (octets : List UInt8) (half : Nat → Char) : List Char :=
  match Json.readOctets { library.reading with half } octets with
  | .ok (.object members) =>
    match Chat.Invocation.member members "type" with
    | .text s => s.toList
    | _ => []
  | _ => []

def unsupportedType : String := "unsupported interaction type "

/-- The place at which a type that is refused stands in the response. -/
def typePlace : Nat := "\x7b\"detail\":\"".length + unsupportedType.length

/-- The response to a message of another type, whose text has these code points. Half characters cannot be sent. -/
def refuseType (points : List Nat) (type : Value) : Except ServiceFault Http.Response :=
  match Json.halves? typePlace points with
  | some (place, points) => .error (.fault (.halfCharacters place points))
  | none => .ok (refuseText 400 (unsupportedType ++ type.plain))

/-- A message is signed with the key of the chat platform: the header with the signature fits the header with
the time, followed by the message. -/
def isSigned (settings : Settings) (headers : Entries String) (octets : List UInt8) : Bool :=
  Signature.holds settings.publicKey (header headers "x-signature-ed25519")
    ((header headers "x-signature-timestamp").toUTF8.toList ++ octets)

end Api

namespace App

open Api

variable {σ : Type}

/-! ## Endpoints -/

/-- Takes a message of the chat platform. An invocation is answered in the background, where its faults are
nobody's concern. -/
def take (app : App σ) (octets : List UInt8) : Except ServiceFault Http.Response × App σ :=
  match Json.readOctets app.web.library.reading octets with
  | .error fault =>
    if fault.problem.isTooDeep then (.error (.fault (.json fault)), app)
    else (.ok (refuseText 400 "invalid JSON"), app)
  | .ok payload =>
    match messageOf payload with
    | .error fault => (.error (.fault fault), app)
    | .ok .ping => (.ok (json 200 (.object [("type", .int pingType)])), app)
    | .ok (.unknown type) => (refuseType (Json.pointsOf (typeText app.web.library octets)) type, app)
    | .ok (.command invocation) => (.ok (statusWord 202 "accepted"), (app.dispatch invocation).2)

/-- A message of the chat platform, which has to be signed. -/
def webhook (app : App σ) (headers : Entries String) (octets : List UInt8) :
    Except ServiceFault Http.Response × App σ :=
  if !app.tasks.isStarted then (.ok (refuseText 503 "bot not started"), app)
  else if !isSigned app.settings headers octets then
    (.ok (refuseText 401 "invalid request signature"), app)
  else app.take octets

def deployTo (app : App σ) (project : Uuid) (guild : String) :
    Except ServiceFault Http.Response × App σ :=
  match app.make guild (Procedure.deploy project) with
  | (.ok count, app) =>
    (.ok (json 201 (.object [("project_id", .text project.text), ("guild_id", .text guild),
      ("commands_registered", .ofNat count)])), app)
  | (.error .noCommands, app) =>
    (.ok (refuseText 400 ServiceFault.noCommands.message), app)
  | (.error (.registration cause), app) =>
    (.ok (refuseText 502 (ServiceFault.registration cause).message), app)
  | (.error fault, app) => (.error fault, app)

def undeployFrom (app : App σ) (project : Uuid) (guild : String) :
    Except ServiceFault Http.Response × App σ :=
  match app.make guild (Procedure.undeploy project) with
  | (.ok (), app) => (.ok (statusWord 200 "undeployed"), app)
  | (.error (.registration cause), app) =>
    (.ok (refuseText 502 (ServiceFault.registration cause).message), app)
  | (.error fault, app) => (.error fault, app)

def report (app : App σ) (guild : String) (operation : Operation) :
    Except ServiceFault Http.Response × App σ :=
  (.ok (statusWord 200 "ok"), (app.perform guild operation).2)

def elapse (app : App σ) (milliseconds : Nat) : App σ :=
  let seconds := Binary64.ofRatio false milliseconds 1000
  let (_, outside) := app.web.sleep (ticksOf seconds) app.world.outside
  { app with world := { app.world with outside } }

def simulateRun (app : App σ) : simulationShape.Carrier →
    Except ServiceFault Http.Response × App σ
  | ((document, (context, _), stubs, ()), _) =>
    let (context, generator) := contextOf context
    let settings : Simulation.Settings :=
      { delayCap := app.settings.delayCap, stubs, limit := app.settings.visitLimit }
    match simulate settings (GraphDocument.graph document) context generator with
    | .error .noStart => (.ok (refuseStructure [.noStart]), app)
    | .error refusal => (.error (.refused refusal), app)
    | .ok simulated => (.ok (json 200 (simulatedValue simulated)), app.elapse simulated.world.elapsed)

def reviewGraph (graph : Graph) : Http.Response :=
  json 200 (.object [("valid", .bool graph.faults.isEmpty),
    ("errors", texts (graph.faults.map StructureFault.message)),
    ("warnings", texts (graph.warnings.map Warning.message))])

def savedValue (command : Uuid) (snapshot : Snapshot) (graph : Graph) : Value :=
  .object [("command_id", .text command.text), ("version", .ofNat snapshot.version),
    ("warnings", texts (graph.warnings.map Warning.message))]

def saveGraph (app : App σ) (command : Uuid) (document : GraphDocument) :
    Except ServiceFault Http.Response × App σ :=
  match app.reach .catalogue with
  | .error fault => (.error fault, app)
  | .ok store =>
    match store.saveGraph command document with
    | .error .noCommand => (.ok (refuseText 404 "command not found"), app)
    | .error (.faulty faults) => (.ok (refuseStructure faults), app)
    | .ok (snapshot, store) =>
      (.ok (json 200 (savedValue command snapshot document.graph)), app.withStore store)

/-- Goes on with what a request holds, or refuses it. -/
def withContent {α : Type} (app : App σ) (content : Except Http.Response α)
    (next : α → Except ServiceFault Http.Response × App σ) :
    Except ServiceFault Http.Response × App σ :=
  match content with
  | .error response => (.ok response, app)
  | .ok a => next a

def respondTo (app : App σ) (request : Http.Request) :
    Endpoint → Except ServiceFault Http.Response × App σ
  | .health => (.ok (statusWord 200 "ok"), app)
  | .readiness =>
    (.ok (json 200 (.object [("status", .text "ready"),
      ("bot_started", .bool app.tasks.isStarted)])), app)
  | .interactions => app.webhook request.headers request.body.octets
  | .deploy =>
    app.withContent (readBody app.web.library deploymentShape request) fun ((project, guild, ()), _) =>
      app.deployTo project guild
  | .undeploy project guild =>
    app.withContent ((readPart "project_id" project).mapError refuseFaults) fun project =>
      app.undeployFrom project guild
  | .join guild => app.report guild .join
  | .leave guild => app.report guild .leave
  | .simulate => app.withContent (readBody app.web.library simulationShape request) app.simulateRun
  | .validate =>
    app.withContent (readBody app.web.library graphShape request) fun document =>
      (.ok (reviewGraph (GraphDocument.graph document)), app)
  | .saveGraph command =>
    app.withContent (readPartAndBody app.web.library "command_id" command graphShape request)
      fun (command, document) => app.saveGraph command document

/-- The response to a request, without what it has in common with every response. -/
def respondBare (app : App σ) (request : Http.Request) :
    Except ServiceFault Http.Response × App σ :=
  match route (methodOf request) (pathOf request) with
  | .endpoint endpoint => app.respondTo request endpoint
  | .wrongMethod => (.ok (refuseText 405 "Method Not Allowed"), app)
  | .elsewhere => (.ok { status := 307 }, app)
  | .nowhere => (.ok (refuseText 404 "Not Found"), app)

def respond (app : App σ) (request : Http.Request) :
    Except ServiceFault Http.Response × App σ :=
  let (answer, app) := app.respondBare request
  (answer.map fun response => identified request (withoutBody (methodOf request) response), app)

end App

end CommandFlow.Service
