import TermBot.Discord.Account
import TermBot.Discord.Conform
import TermBot.Json.Reader

/-!
# What the service sends

Decodes the events and the answers of the service. A member that is not there or is `null` leaves the
empty value; one of another shape than expected spoils the whole, except in the event that a session
is ready, where it is passed over.
-/

namespace TermBot.Discord

open TermBot.Bot
open Json (Members membersOf textOf boolOf partOf? lastOf? valuesOf)

/-- Why an answer or an event is not decoded. -/
inductive DecodeError where
  | unreadable (f : Json.Fault)
  | refused (r : Refusal)
  deriving DecidableEq, Repr

/-- The wording of an error. -/
def DecodeError.message : DecodeError → String
  | .unreadable f => f.wholeMessage
  | .refused r => r.message

/-- The members of a value that has to be an object of a kind; `null` has none. -/
def membersAs (k : Kind) (j : Json) : Except DecodeError Members := do
  (conformWhole k j).mapError .refused
  return membersOf j

/-- The members of a text that has to be an object of a kind. -/
def readAs (k : Kind) (s : String) : Except DecodeError Members := do
  membersAs k (← (Json.read s).mapError .unreadable)

/-- The account that members describe. -/
def accountOf (ms : Members) : Account where
  id := textOf "id" ms
  username := textOf "username" ms
  discriminator := textOf "discriminator" ms
  isBot := boolOf "bot" ms

/-- The account that a member describes. -/
def accountIn? (name : String) (ms : Members) : Option Account := (partOf? name ms).map accountOf

/-- The point in time that a member says. -/
def timeOf (name : String) (ms : Members) : Int :=
  (lastOf? (fun v => v.str?.bind fun s => (Text.timestamp s).toOption) name ms).getD Text.noTime

/-- The message that members describe. -/
def messageOf (ms : Members) : Message where
  id := textOf "id" ms
  channel := textOf "channel_id" ms
  guild := textOf "guild_id" ms
  author := userOf (accountIn? "author" ms)
  content := textOf "content" ms
  time := timeOf "timestamp" ms

/-- The application that members describe. -/
def applicationOf (ms : Members) : Application where
  owner := accountIn? "owner" ms
  teamOwner := (partOf? "team" ms).map (textOf "owner_user_id")

/-- The permissions that a member says, a number in a text. -/
def permissionsOf (ms : Members) : Int64 :=
  let read? (v : Json) := v.str?.bind fun s => (Text.decimal s).toOption
  ((lastOf? read? "permissions" ms).map Int64.ofInt).getD 0

/-- The member of a guild that members describe. -/
def memberFrom (ms : Members) : Member where
  account := accountIn? "user" ms
  permissions := permissionsOf ms

/-- An interaction with a part of a message is about a component, one of the kinds 2 and 4 about a
command. -/
def subjectOf? (kind : Int) (ms : Members) : Option Subject :=
  if kind = componentKind then do
    let data ← (membersAs .press (← (valuesOf "data" ms).getLast?)).toOption
    return .component (textOf "custom_id" data)
  else if kind = 2 || kind = 4 then some .command
  else none

/-- The interaction that members describe. Of several messages in it the last counts as a whole. -/
def interactionOf (ms : Members) : Interaction :=
  let kind := (lastOf? Json.int? "type" ms).getD 0
  { id := textOf "id" ms
    token := textOf "token" ms
    channel := textOf "channel_id" ms
    kind
    subject := subjectOf? kind ms
    message := (Json.member? "message" (.obj ms)).map fun j => textOf "id" (membersOf j)
    member := (partOf? "member" ms).map memberFrom
    account := accountIn? "user" ms }

/-- The start of a session that members describe. -/
def readyOf (ms : Members) : Ready where
  user := userOf (accountIn? "user" ms)
  guilds := ((lastOf? Json.arr? "guilds" ms).getD []).length

/-- What the service tells. -/
inductive Event where
  | ready (r : Ready)
  | message (m : Message)
  | interaction (i : Interaction)
  | disconnect

/-- The event of a name with its data. -/
def Event.ofWire? (name : String) (data : Json) : Option Event :=
  match name with
  | "READY" => some (.ready (readyOf (membersOf data)))
  | "MESSAGE_CREATE" => (membersAs .message data).toOption.map (.message ∘ messageOf)
  | "INTERACTION_CREATE" => (membersAs .interaction data).toOption.map (.interaction ∘ interactionOf)
  | "DISCONNECT" => some .disconnect
  | _ => none

end TermBot.Discord
