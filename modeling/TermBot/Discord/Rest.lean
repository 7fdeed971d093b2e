import TermBot.Bot.Basic
import TermBot.Discord.Inbound
import TermBot.Discord.Payload
import TermBot.Discord.Route

/-!
# Requests

What the bot asks of the service is a request, and the service replies. A reply of success is a status
of 200, 201 or 204; after a bad gateway the request is made again, a few times.
-/

namespace TermBot.Discord

open TermBot.Bot

/-- A request. -/
structure Request where
  method : String
  path : String
  body : Option Json

/-- What the service replies. -/
structure Reply where
  status : Int := 200
  body : String := ""

/-- The standard reasons for statuses. -/
def reasons : List (Int × String) :=
  [(100, "Continue"), (101, "Switching Protocols"), (102, "Processing"), (103, "Early Hints"),
   (200, "OK"), (201, "Created"), (202, "Accepted"), (203, "Non-Authoritative Information"),
   (204, "No Content"), (205, "Reset Content"), (206, "Partial Content"), (207, "Multi-Status"),
   (208, "Already Reported"), (226, "IM Used"),
   (300, "Multiple Choices"), (301, "Moved Permanently"), (302, "Found"), (303, "See Other"),
   (304, "Not Modified"), (305, "Use Proxy"), (307, "Temporary Redirect"),
   (308, "Permanent Redirect"),
   (400, "Bad Request"), (401, "Unauthorized"), (402, "Payment Required"), (403, "Forbidden"),
   (404, "Not Found"), (405, "Method Not Allowed"), (406, "Not Acceptable"),
   (407, "Proxy Authentication Required"), (408, "Request Timeout"), (409, "Conflict"), (410, "Gone"),
   (411, "Length Required"), (412, "Precondition Failed"), (413, "Request Entity Too Large"),
   (414, "Request URI Too Long"), (415, "Unsupported Media Type"),
   (416, "Requested Range Not Satisfiable"), (417, "Expectation Failed"), (418, "I'm a teapot"),
   (421, "Misdirected Request"), (422, "Unprocessable Entity"), (423, "Locked"),
   (424, "Failed Dependency"), (425, "Too Early"), (426, "Upgrade Required"),
   (428, "Precondition Required"), (429, "Too Many Requests"),
   (431, "Request Header Fields Too Large"), (451, "Unavailable For Legal Reasons"),
   (500, "Internal Server Error"), (501, "Not Implemented"), (502, "Bad Gateway"),
   (503, "Service Unavailable"), (504, "Gateway Timeout"), (505, "HTTP Version Not Supported"),
   (506, "Variant Also Negotiates"), (507, "Insufficient Storage"), (508, "Loop Detected"),
   (510, "Not Extended"), (511, "Network Authentication Required")]

/-- A status with its reason. -/
def Reply.statusLine (r : Reply) : String :=
  toString r.status ++ " " ++ (reasons.lookup r.status).getD ""

/-- Why a request has no answer. -/
inductive RestError where
  | route (r : BadRoute)
  | status (r : Reply)
  /-- The gateway stays bad. -/
  | retries (r : Reply)
  /-- Too many requests were made, and the reply does not say for how long. -/
  | limit (e : DecodeError)
  | decode (e : DecodeError)

/-- The wording of an error. -/
def RestError.message : RestError → String
  | .route r => r.message
  | .status r => "HTTP " ++ r.statusLine ++ ", " ++ r.body
  | .retries r => "Exceeded Max retries HTTP " ++ r.statusLine ++ ", " ++ r.body
  | .limit e => e.message
  | .decode e => "json unmarshal: " ++ e.message

/-- How often a request is made again after a bad gateway. -/
def maxRetries : Nat := 3

/-- The connection to the service: how it replies and which requests were made. -/
structure Link where
  reply : Request → Reply
  made : List Request := []

/-- Makes a request once. -/
def once (r : Request) : StateM Link Reply := fun link =>
  (link.reply r, { link with made := link.made ++ [r] })

/-- The body of a reply of success. -/
def Reply.verdict (reply : Reply) : Except RestError String :=
  if [200, 201, 204].contains reply.status then .ok reply.body
  else if reply.status = 502 then .error (.retries reply)
  else if reply.status = 429 then
    match readAs .limit reply.body with
    | .error e => .error (.limit e)
    | .ok _ => .error (.status reply)
  else .error (.status reply)

/-- Makes a request, and at most `retries` times again while the gateway is bad. -/
def exchange (r : Request) : (retries : Nat) → StateM Link (Except RestError String)
  | 0 => Reply.verdict <$> once r
  | n + 1 => do
    let reply ← once r
    if reply.status = 502 then exchange r n else return reply.verdict

/-- Makes a request along a route. -/
def request (method route : String) (body : Option Json) : StateM Link (Except RestError String) := do
  match wirePath route with
  | .error r => return .error (.route r)
  | .ok path => exchange { method, path, body } maxRetries

/-- Decodes the message in the body of an answer. -/
def answeredMessage (body : String) : Except RestError Message :=
  ((readAs .message body).map messageOf).mapError .decode

/-- What failed. -/
inductive Deal where
  | send (channel : String)
  | edit (message : String)
  | delete (message : String)
  | react (message : String)
  | respond (interaction : String)
  deriving DecidableEq, Repr

/-- The wording for what failed. -/
def Deal.describe : Deal → String
  | .send c => "send message to " ++ c
  | .edit m => "edit message " ++ m
  | .delete m => "delete message " ++ m
  | .react m => "react to " ++ m
  | .respond i => "respond to interaction " ++ i

/-- Why the service does not do what the bot asks. -/
inductive LinkError where
  | rest (d : Deal) (e : RestError)
  /-- A presence goes over a connection of its own, which is not open. -/
  | notConnected

/-- The wording of an error. -/
def LinkError.message : LinkError → String
  | .rest d e => d.describe ++ ": " ++ e.message
  | .notConnected => "update presence: no websocket connection exists"

/-- Sends a message. -/
def sendMessage (channel : String) (m : Outgoing) : StateM Link (Except LinkError Sent) := do
  let r ← request "POST" (messagesRoute channel) (Payload.ofMessage channel m).toJson
  return ((r >>= answeredMessage).mapError (.rest (.send channel))).map fun m =>
    ⟨m.id, m.channel, m.time⟩

/-- Asks for something else. -/
def perform (d : Deed) : StateM Link (Except LinkError Unit) := do
  match d with
  | .edit c m out =>
    let r ← request "PATCH" (messageRoute c m) (editJson c m out)
    return ((r >>= answeredMessage).mapError (.rest (.edit m))).map fun _ => ()
  | .delete c m => plain (.delete m) (← request "DELETE" (messageRoute c m) none)
  | .react c m e => plain (.react m) (← request "PUT" (reactionRoute c m e) none)
  | .acknowledge p => respond p acknowledgement
  | .whisper p text => respond p (whisperJson text)
  | .presence _ => return .error .notConnected
where
  /-- An answer whose body does not count. -/
  plain (d : Deal) (r : Except RestError String) : StateM Link (Except LinkError Unit) :=
    return (r.mapError (.rest d)).map fun _ => ()
  /-- Answers an interaction. -/
  respond (p : Press) (body : Json) : StateM Link (Except LinkError Unit) := do
    plain (.respond p.interaction) (← request "POST" (callbackRoute p.interaction p.token) body)

/-- Why the owners of the application are not known. -/
inductive OwnersError where
  | rest (e : RestError)
  | decode (e : DecodeError)
  | noOwner

/-- The wording of an error. -/
def OwnersError.message : OwnersError → String
  | .rest e => "get application info: " ++ e.message
  | .decode e => "decode application info: " ++ e.message
  | .noOwner => Discord.noOwner

/-- The owners of the application. -/
def owners : StateM Link (Except OwnersError (List String)) := do
  match ← request "GET" applicationRoute none with
  | .error e => return .error (.rest e)
  | .ok body =>
    match readAs .application body with
    | .error e => return .error (.decode e)
    | .ok app =>
      match (applicationOf app).owner? with
      | some id => return .ok [id]
      | none => return .error .noOwner

end TermBot.Discord
