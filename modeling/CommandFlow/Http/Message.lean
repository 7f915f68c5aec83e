import CommandFlow.Http.Fault
import CommandFlow.Http.Library
import CommandFlow.Json.Writer

/-!
# Requests and responses

* `Body`, `Request`, `Response` : what is sent and what comes back; `Body.octets` : a body on its way;
* `Request.make` : a request, or why it cannot be written; `Request.record` : how it is recorded;
* `Response.check` : the fault of a response that is no success;
* `Response.json`, `Response.content` : the body as a value.
-/

namespace CommandFlow.Http

/-! ## Bodies -/

/-- The body of a request or of a response. -/
inductive Body where
  | empty
  | json (v : Value)
  | text (s : String)
  | raw (octets : List UInt8)

def Body.octets : Body → List UInt8
  | empty => []
  | json v => (Json.write v).toUTF8.toList
  | text s => s.toUTF8.toList
  | raw octets => octets

/-! ## Headers -/

def lower (s : String) : String := String.ofList (s.toList.map Char.toLower)

/-- The name of the header that says what a body is. -/
def contentType : String := "content-type"

def jsonType : String := "application/json"

/-- Headers with their names in lower case; the values of one name are joined. -/
def joinHeaders (headers : Entries String) : Entries String :=
  headers.foldl
    (fun joined (name, value) =>
      let name := lower name
      match Entries.get? joined name with
      | some old => Entries.insert joined name (old ++ ", " ++ value)
      | none => Entries.insert joined name value)
    []

def isAscii (c : Char) : Bool := c.toNat < 0x80

def foreignHeader? : Entries String → Option String
  | [] => none
  | (name, value) :: rest =>
    if !name.toList.all isAscii then some name
    else if !value.toList.all isAscii then some value
    else foreignHeader? rest

/-! ## Credentials in addresses -/

def unescape : List Char → List Nat
  | [] => []
  | '%' :: high :: low :: rest =>
    match Text.hexValue? high, Text.hexValue? low with
    | some h, some l => (h * 16 + l) :: unescape rest
    | _, _ => 0x25 :: unescape (high :: low :: rest)
  | c :: rest => (String.singleton c).toUTF8.toList.map UInt8.toNat ++ unescape rest

def sextetSign (n : Nat) : Char :=
  if n < 26 then Char.ofNat (65 + n)
  else if n < 52 then Char.ofNat (97 + n - 26)
  else if n < 62 then Char.ofNat (48 + n - 52)
  else if n = 62 then '+' else '/'

/-- Bytes in signs of six bits, filled up to groups of four. -/
def base64 : List Nat → List Char
  | [] => []
  | [a] => [sextetSign (a / 4), sextetSign (a % 4 * 16), '=', '=']
  | [a, b] =>
    [sextetSign (a / 4), sextetSign (a % 4 * 16 + b / 16), sextetSign (b % 16 * 4), '=']
  | a :: b :: c :: rest =>
    sextetSign (a / 4) :: sextetSign (a % 4 * 16 + b / 16) ::
      sextetSign (b % 16 * 4 + c / 64) :: sextetSign (c % 64) :: base64 rest

def credentials (address : Address) : Entries String :=
  let user := address.user.toList
  let name := user.takeWhile (· != ':')
  let secret := user.drop (name.length + 1)
  if name.isEmpty && secret.isEmpty then []
  else
    let signs := base64 (unescape name ++ 0x3A :: unescape secret)
    [("authorization", "Basic " ++ String.ofList signs)]

/-! ## Requests -/

/-- A request; its headers have names in lower case. -/
structure Request where
  method : String
  address : Address
  headers : Entries String
  body : Body

mutual

/-- The value holds no infinite number and no not-a-number. -/
def isWritable : Value → Bool
  | .float x => x.isFinite
  | .list items => areWritable items
  | .object members => membersWritable members
  | _ => true

/-- No item holds an infinite number or not-a-number. -/
def areWritable : List Value → Bool
  | [] => true
  | v :: rest => isWritable v && areWritable rest

def membersWritable : List (String × Value) → Bool
  | [] => true
  | (_, v) :: rest => isWritable v && membersWritable rest

end

def Body.headers : Body → Entries String
  | json _ => [(contentType, jsonType)]
  | _ => []

/-- A request that is ready to be sent, or why it cannot be written. -/
def Request.make (library : Library) (method url : String) (headers : Entries String) (body : Body)
    (parameters : Entries String) : Except Fault Request := do
  let address ← (library.readAddress url).mapError .address
  match foreignHeader? headers with
  | some text => .error (.header text)
  | none =>
    let writable := match body with
      | .json v => isWritable v
      | _ => true
    if !writable then .error .unwritable
    else return {
      method
      address := if parameters.isEmpty then address else address.withQuery parameters
      headers := Entries.merge (Entries.merge body.headers (joinHeaders headers))
        (credentials address)
      body }

def plainHeaders : List String :=
  ["accept", "accept-encoding", "connection", "user-agent", "host", "content-length",
    "transfer-encoding"]

/-- The body of a request as it is recorded: read if it is said to be JSON and is. -/
def Request.recordedBody (request : Request) : Value :=
  match request.body with
  | .empty => .null
  | .json v => v
  | .text s =>
    if s.isEmpty then .null
    else if Entries.get? request.headers contentType = some jsonType then
      match Json.readOctets .usual s.toUTF8.toList with
      | .ok v => v
      | .error _ => .text s
    else .text s
  | .raw _ => .null

def Request.record (request : Request) : Value :=
  let headers := request.headers.filter fun header => !plainHeaders.contains header.1
  .object [("method", .text request.method), ("url", .text request.address.text),
    ("headers", .object (Entries.mapValues Value.text headers)),
    ("body", request.recordedBody)]

/-! ## Responses -/

structure Response where
  status : Nat := 200
  headers : Entries String := []
  body : Body := .empty

namespace Response

def redirects : List Nat := [301, 302, 303, 307, 308]

/-- Where a response leads. -/
def location? (response : Response) : Option String :=
  if redirects.contains response.status then
    Entries.get? (joinHeaders response.headers) "location"
  else none

def check (response : Response) (request : Request) : Except Fault Unit :=
  if 200 ≤ response.status && response.status < 300 then .ok ()
  else .error (.status response.status request.address.text response.location?)

def json (library : Library) (response : Response) : Except Json.Fault Value :=
  Json.readOctets library.reading response.body.octets

/-- The body as JSON if it is that, or else as a text. JSON that is too deep is neither. -/
def content (library : Library) (response : Response) : Except Json.Fault Value :=
  match response.json library with
  | .ok v => .ok v
  | .error fault =>
    if fault.problem.isTooDeep then .error fault
    else .ok (.text (library.textOf response.headers response.body.octets))

end Response

end CommandFlow.Http
