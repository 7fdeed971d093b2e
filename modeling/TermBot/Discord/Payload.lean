import TermBot.Discord.Account
import TermBot.Json.Basic

/-!
# Messages as the service takes them

A payload is a message in the form that the service takes: what is empty is left out, buttons stand
in one row, and an answer refers to the message that it answers.
-/

namespace TermBot.Discord

open TermBot.Bot

/-- A reference to a message. -/
structure Reference where
  message : String
  channel : String
  deriving DecidableEq, Repr

/-- A message to be sent. -/
structure Payload where
  content : String
  cards : List Card
  /-- The rows of buttons. -/
  rows : List (List Button)
  reference : Option Reference
  deriving DecidableEq, Repr

/-- The payload of a message to a channel. -/
def Payload.ofMessage (channel : String) (m : Outgoing) : Payload where
  content := m.content
  cards := m.cards
  rows := if m.buttons.isEmpty then [] else [m.buttons]
  reference := (filled? m.replyTo).map fun message => ⟨message, channel⟩

/-- The number of the style of a button that destroys something. -/
def dangerStyle : Nat := 4

/-- A member that is left out when it is empty. -/
def optional (name value : String) : List (String × Json) :=
  if value = "" then [] else [(name, .str value)]

/-- A field of a card. -/
def fieldJson (f : Field) : Json :=
  .obj ([("name", .str f.name), ("value", .str f.value)] ++
    if f.inLine then [("inline", .bool true)] else [])

/-- A card. -/
def cardJson (c : Card) : Json :=
  .obj ([("type", .str "rich")] ++ optional "title" c.title ++ optional "description" c.description ++
    (if c.color = 0 then [] else [("color", .int c.color)]) ++
    (if c.fields.isEmpty then [] else [("fields", .arr (c.fields.map fieldJson))]) ++
    if c.footer = "" then [] else [("footer", .obj [("text", .str c.footer)])])

/-- A button. -/
def buttonJson (b : Button) : Json :=
  .obj ([("type", .nat 2), ("style", .nat dangerStyle), ("disabled", .bool false),
    ("label", .str b.label)] ++ optional "custom_id" b.customId ++
    if b.emoji = "" then [] else [("emoji", .obj [("name", .str b.emoji)])])

/-- A row of buttons. -/
def rowJson (bs : List Button) : Json :=
  .obj [("type", .nat 1), ("components", .arr (bs.map buttonJson))]

/-- A reference. -/
def referenceJson (r : Reference) : Json :=
  .obj ([("message_id", .str r.message)] ++ optional "channel_id" r.channel)

/-- A message to be sent. -/
def Payload.toJson (p : Payload) : Json :=
  .obj ([("tts", .bool false), ("sticker_ids", .null),
    ("components", if p.rows.isEmpty then .null else .arr (p.rows.map rowJson)),
    ("embeds", .arr (p.cards.map cardJson))] ++ optional "content" p.content ++
    (p.reference.toList.map fun r => ("message_reference", referenceJson r)))

/-- The new form of a message. Its buttons stay. -/
def editJson (channel message : String) (m : Outgoing) : Json :=
  .obj ([("ID", .str message), ("Channel", .str channel), ("embeds", .arr (m.cards.map cardJson))] ++
    optional "content" m.content)

/-- Accepts a press without an answer that shows. -/
def acknowledgement : Json := .obj [("type", .nat 6)]

/-- Answers a press with a text that only the user sees. -/
def whisperJson (text : String) : Json :=
  .obj [("type", .nat 4), ("data", .obj [("tts", .bool false), ("content", .str text),
    ("components", .null), ("embeds", .null), ("flags", .nat 64)])]

end TermBot.Discord
