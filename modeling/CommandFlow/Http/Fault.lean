import CommandFlow.Text.Quoted

/-!
# What goes wrong with a request

* `Fault` : the address or a header cannot be written, the transport fails, or the answer is no success;
* `Fault.isTransport` : the faults of a request that was made;
* `reason` : the phrase of a status;
* `Fault.message` : a fault in words.
-/

namespace CommandFlow.Http

inductive Fault where
  /-- The library does not read the address, and says why. -/
  | address (text : String)
  /-- A header is not ASCII. -/
  | header (text : String)
  /-- A body holds a number that JSON has no form for. -/
  | unwritable
  /-- The transport fails, in a way that has a name. -/
  | transport (name text : String)
  /-- The status is no success. -/
  | status (code : Nat) (url : String) (location : Option String)
  deriving DecidableEq

/-- The ways of failing that are no failures of the transport. -/
def otherFailures : List String :=
  ["InvalidURL", "CookieConflict", "StreamError", "StreamConsumed", "StreamClosed",
    "ResponseNotRead", "RequestNotRead"]

/-- A fault of a request that was made, or of its answer. -/
def Fault.isTransport : Fault → Bool
  | address _ => false
  | header _ => false
  | unwritable => false
  | transport name _ => !otherFailures.contains name
  | status _ _ _ => true

def reasons : List (Nat × String) := [
  (100, "Continue"), (101, "Switching Protocols"), (102, "Processing"), (103, "Early Hints"),
  (200, "OK"), (201, "Created"), (202, "Accepted"), (203, "Non-Authoritative Information"),
  (204, "No Content"), (205, "Reset Content"), (206, "Partial Content"), (207, "Multi-Status"),
  (208, "Already Reported"), (226, "IM Used"), (300, "Multiple Choices"),
  (301, "Moved Permanently"), (302, "Found"), (303, "See Other"), (304, "Not Modified"),
  (305, "Use Proxy"), (307, "Temporary Redirect"), (308, "Permanent Redirect"),
  (400, "Bad Request"), (401, "Unauthorized"), (402, "Payment Required"), (403, "Forbidden"),
  (404, "Not Found"), (405, "Method Not Allowed"), (406, "Not Acceptable"),
  (407, "Proxy Authentication Required"), (408, "Request Timeout"), (409, "Conflict"),
  (410, "Gone"), (411, "Length Required"), (412, "Precondition Failed"),
  (413, "Request Entity Too Large"), (414, "Request-URI Too Long"),
  (415, "Unsupported Media Type"), (416, "Requested Range Not Satisfiable"),
  (417, "Expectation Failed"), (418, "I'm a teapot"), (421, "Misdirected Request"),
  (422, "Unprocessable Entity"), (423, "Locked"), (424, "Failed Dependency"), (425, "Too Early"),
  (426, "Upgrade Required"), (428, "Precondition Required"), (429, "Too Many Requests"),
  (431, "Request Header Fields Too Large"), (451, "Unavailable For Legal Reasons"),
  (500, "Internal Server Error"), (501, "Not Implemented"), (502, "Bad Gateway"),
  (503, "Service Unavailable"), (504, "Gateway Timeout"), (505, "HTTP Version Not Supported"),
  (506, "Variant Also Negotiates"), (507, "Insufficient Storage"), (508, "Loop Detected"),
  (510, "Not Extended"), (511, "Network Authentication Required")]

/-- The phrase of a status, empty if it has none. -/
def reason (code : Nat) : String := (reasons.lookup code).getD ""

def statusClass (code : Nat) : String :=
  match code / 100 with
  | 1 => "Informational response"
  | 3 => "Redirect response"
  | 4 => "Client error"
  | 5 => "Server error"
  | _ => "Invalid status code"

/-- The first character that is not ASCII and those that follow it, with the place of the first. -/
def foreignRun (s : String) : Nat × List Char :=
  let isForeign (c : Char) : Bool := 0x80 ≤ c.toNat
  let ascii := s.toList.takeWhile (!isForeign ·)
  (ascii.length, (s.toList.drop ascii.length).takeWhile isForeign)

/-- The complaint about a text that is not ASCII. -/
def foreignMessage (s : String) : String :=
  let (place, run) := foreignRun s
  let part :=
    match run with
    | [c] => s!"character '{String.ofList (Text.escapeHidden c)}' in position {place}"
    | run => s!"characters in position {place}-{place + run.length - 1}"
  s!"'ascii' codec can't encode {part}: ordinal not in range(128)"

def Fault.message : Fault → String
  | address text => text
  | header text => foreignMessage text
  | unwritable => "Out of range float values are not JSON compliant"
  | transport _ text => text
  | status code url location =>
    let place :=
      match location with
      | some target => s!"Redirect location: '{target}'\n"
      | none => ""
    s!"{statusClass code} '{code} {reason code}' for url '{url}'\n{place}" ++
      s!"For more information check: https://developer.mozilla.org/en-US/docs/Web/HTTP/Status/{code}"

end CommandFlow.Http
