import CommandFlow.Chat.Snowflake
import CommandFlow.Run.Live

/-!
# The chat platform as a web service

* `Client` : the address of the platform and the credentials of the bot;
* `Client.putCommands`, `Client.respond`, `Client.followUp`, `Client.addRole`, `Client.removeRole`,
  `Client.listMessages` : its calls;
* `Client.awaitMessage` : looks for a message of a user until one is there or the time is over.
-/

namespace CommandFlow.Chat

/-- The address of the platform and the credentials of the bot. -/
structure Client where
  url : String
  applicationId : String
  botToken : String
  /-- The moment at which the clock began, in milliseconds. -/
  start : Int

namespace Client

variable {σ : Type}

def ofSettings (settings : Settings) (start : Int) : Client :=
  ⟨settings.chatUrl, settings.applicationId, settings.botToken, start⟩

def root (client : Client) : String :=
  String.ofList (client.url.toList.reverse.dropWhile (· == '/')).reverse

def authorization (client : Client) : Entries String :=
  [("Authorization", "Bot " ++ client.botToken)]

/-- Makes a request and checks that the response is a success. -/
def request (client : Client) (web : Web σ) (method path : String) (headers : Entries String)
    (body : Http.Body) (parameters : Entries String) (outside : σ) :
    Except Fault Http.Response × σ :=
  match Http.Request.make web.library method (client.root ++ path) headers body parameters with
  | .error fault => (.error (.request fault), outside)
  | .ok request =>
    match web.send request outside with
    | (.error fault, outside) => (.error (.request fault), outside)
    | (.ok response, outside) =>
      match response.check request with
      | .error fault => (.error (.request fault), outside)
      | .ok () => (.ok response, outside)

def content (library : Http.Library) (response : Http.Response) : Except Fault Value :=
  (response.json library).mapError .json

/-- A body of JSON; null is no body. -/
def jsonBody : Value → Http.Body
  | .null => .empty
  | v => .json v

/-- A request whose response is not looked at. -/
def order (client : Client) (web : Web σ) (method path : String) (headers : Entries String)
    (body : Http.Body) (outside : σ) : Except Fault Unit × σ :=
  let (answer, outside) := client.request web method path headers body [] outside
  (answer.map fun _ => (), outside)

def ask (client : Client) (web : Web σ) (method path : String) (headers : Entries String)
    (body : Http.Body) (parameters : Entries String) (outside : σ) : Except Fault Value × σ :=
  let (answer, outside) := client.request web method path headers body parameters outside
  (answer.bind (content web.library), outside)

/-! ## Calls -/

def putCommands (client : Client) (web : Web σ) (guildId : String) (commands : Value) :
    σ → Except Fault Value × σ :=
  client.ask web "PUT" s!"/applications/{client.applicationId}/guilds/{guildId}/commands"
    client.authorization (jsonBody commands) []

def messageResponse : Int := 4

def respond (client : Client) (web : Web σ) (interactionId token : String) (data : Value) :
    σ → Except Fault Unit × σ :=
  client.order web "POST" s!"/interactions/{interactionId}/{token}/callback" []
    (.json (.object [("type", .int messageResponse), ("data", data)]))

def followUp (client : Client) (web : Web σ) (token : String) (data : Value) :
    σ → Except Fault Value × σ :=
  client.ask web "POST" s!"/webhooks/{client.applicationId}/{token}" [] (jsonBody data) []

def rolePath (guildId userId roleId : String) : String :=
  s!"/guilds/{guildId}/members/{userId}/roles/{roleId}"

def addRole (client : Client) (web : Web σ) (guildId userId roleId : String) :
    σ → Except Fault Unit × σ :=
  client.order web "PUT" (rolePath guildId userId roleId) client.authorization .empty

def removeRole (client : Client) (web : Web σ) (guildId userId roleId : String) :
    σ → Except Fault Unit × σ :=
  client.order web "DELETE" (rolePath guildId userId roleId) client.authorization .empty

/-- How many messages are listed. -/
def usualCount : Int := 50

def listMessages (client : Client) (web : Web σ) (channelId : String) (after count : Int) :
    σ → Except Fault Value × σ :=
  client.ask web "GET" s!"/channels/{channelId}/messages" client.authorization .empty
    [("after", Value.integerText after), ("limit", Value.integerText count)]

/-! ## Messages -/

def integerOf : Value → Except Fault Int
  | .int i => .ok i
  | .bool b => .ok (if b then 1 else 0)
  | .float .nan => .error .nanInteger
  | .float (.infinite _) => .error .infiniteInteger
  | .float (.finite negative steps) =>
    .ok (Binary64.signed negative (steps / Binary64.one))
  | .text s =>
    match Text.readInteger? s with
    | some i => .ok i
    | none => .error (.notInteger s)
  | _ => .error .wrongKind

def identified (message : Value) : Except Fault (Int × Entries Value) :=
  match message with
  | .object members =>
    match Entries.get? members "id" with
    | some v => (integerOf v).map fun id => (id, members)
    | none => .error (.missing "id")
  | _ => .error .wrongKind

def sortedMessages (answer : Value) : Except Fault (List (Int × Entries Value)) :=
  match answer with
  | .list items => do
    let messages ← items.mapM identified
    return messages.mergeSort fun a b => a.1 ≤ b.1
  | .object [] => .ok []
  | .text "" => .ok []
  | _ => .error .wrongKind

def authorOf (message : Entries Value) : Except Fault String :=
  match Entries.get? message "author" with
  | none => .ok Value.null.plain
  | some (.object author) => .ok ((Entries.get? author "id").getD .null).plain
  | some _ => .error .noMembers

def contentOf (message : Entries Value) : String :=
  ((Entries.get? message "content").getD (.text "")).plain

/-- The first message of a user, or else the greatest identifier so far. -/
def firstBy (userId : String) : Int → List (Int × Entries Value) → Except Fault (Int ⊕ String)
  | after, [] => .ok (.inl after)
  | after, (id, message) :: rest => do
    let author ← authorOf message
    if author = userId then return .inr (contentOf message)
    else firstBy userId (max after id) rest

def look (client : Client) (web : Web σ) (channelId userId : String) (after : Int)
    (outside : σ) : Except Fault (Int ⊕ String) × σ :=
  let (answer, outside) := client.listMessages web channelId after usualCount outside
  ((answer.bind sortedMessages).bind (firstBy userId after), outside)

/-- The time until the next look, which is at the end of the time at the latest. As long as time remains there is
some. -/
def pauseWithin (poll : Binary64) (remaining : Nat) : Nat :=
  match poll with
  | .infinite false => remaining
  | poll => min (max 1 (ticksOf poll)) remaining

theorem sub_pauseWithin_lt {poll : Binary64} {remaining : Nat} (h : remaining ≠ 0) :
    remaining - pauseWithin poll remaining < remaining := by
  unfold pauseWithin
  split <;> omega

/-- Looks again and again until one look finds something or the deadline is there. The look at the deadline is the
last one. No more time is left than was left before, even if the clock should be put back. -/
def lookFor (look : Int → σ → Except Fault (Int ⊕ String) × σ) (web : Web σ) (poll : Binary64)
    (deadline left : Nat) (after : Int) (outside : σ) : Reply Value × σ :=
  match look after outside with
  | (.error fault, outside) => (.raised fault, outside)
  | (.ok (.inr content), outside) => (.done (.text content), outside)
  | (.ok (.inl after), outside) =>
    let remaining := min left (deadline - (web.clock outside).now)
    if _ : remaining = 0 then (.done .null, outside)
    else
      Run.andThen (web.sleep (pauseWithin poll remaining) outside) fun _ outside =>
        lookFor look web poll deadline (remaining - pauseWithin poll remaining) after outside
termination_by left
decreasing_by exact Nat.lt_of_lt_of_le (sub_pauseWithin_lt (by assumption)) (Nat.min_le_left _ _)

/-- The present moment in milliseconds, as a floating-point number of seconds tells it. -/
def moment (client : Client) (clock : Clock) : Int :=
  let began := Binary64.ofRatio (client.start < 0) client.start.natAbs 1000
  let passed := Binary64.ofSteps false (Binary64.roundSteps clock.now 1)
  (((began.add passed).mul (Binary64.ofInt 1000)).truncate?).getD 0

/-- Waits for a message of a user that is posted from now on. -/
def awaitMessage (client : Client) (web : Web σ) (wait : MessageWait) (outside : σ) :
    Reply Value × σ :=
  let clock := web.clock outside
  let timeout := ticksOf wait.timeout
  lookFor (client.look web wait.channelId wait.userId) web wait.poll (clock.now + timeout) timeout
    (snowflake (client.moment clock)) outside

end Client

end CommandFlow.Chat
