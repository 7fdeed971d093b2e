import TermBot.Bot.Basic
import TermBot.Discord.Payload
import TermBot.Json.Shape
import TermBot.Json.Trees
import TermBot.Lifecycle.Manager
import TermBot.Surface.Token

/-!
# Views of values as JSON

How tokens, actors, reports, events, configurations and messages look as JSON values. The views of
configurations and messages are read back by `ofView`, where what is missing is empty.
-/

namespace TermBot

/-- The fields of an object. -/
abbrev Json.Fields := List (String × Json)

/-- Fields by their names, which a text lists. -/
def Json.named (names : String) (values : List Json) : Fields := (names.splitOn " ").zip values

/-- A list of objects. -/
def Json.each {α : Type} (xs : List α) (view : α → Fields) : Json :=
  .arr (xs.map fun x => .obj (view x))

/-- The text of a field. -/
def Json.textAt (j : Json) (name : String) : String := ((j.member? name).bind str?).getD ""

/-- The integer of a field. -/
def Json.intAt (j : Json) (name : String) : Int := ((j.member? name).bind int?).getD 0

/-- The truth value of a field. -/
def Json.boolAt (j : Json) (name : String) : Bool := ((j.member? name).bind bool?).getD false

/-- The list of a field. -/
def Json.listAt (j : Json) (name : String) : List Json := ((j.member? name).bind arr?).getD []

open Json (Fields named each orNull)

/-- A token: its kind, how it is described, its text and where it stands. -/
def Surface.Token.view (t : Token) : Json :=
  .arr [t.kind.code, t.kind.label, t.describe, t.lit, t.pos]

/-- A section of what a run found. -/
def Pipeline.Section.view (s : Section) : Fields :=
  named "title body code" [s.title, s.body, s.code]

/-- An actor and how it does. -/
def Actor.Cell.view {P R E S : Type} (c : Cell P R E S) : Fields :=
  named "id name state processed mailbox had_message"
    [c.id, c.name, c.state.label, c.processed, c.mailbox.size, decide (0 < c.processed)]

/-- An answer of an actor, its failure aside. -/
def Actor.Response.view {E : Type} (r : Response Json E) : Fields :=
  named "type source target session payload"
    [r.kind.label, r.source, r.target, r.session, r.payload.getD .null]

/-- A detail of a report. -/
def Lifecycle.Detail.view : Detail → Json
  | .count n => n
  | .text s => s
  | .texts ss => ss

/-- A report. -/
def Lifecycle.Health.view (h : Health) : Fields :=
  named "state message ok" [h.state, h.message, h.ok] ++
    if h.data.isEmpty then [] else [("data", .obj (h.data.map fun (k, d) => (k, d.view)))]

/-- An event of the lifecycle. -/
def Lifecycle.Event.view {ε : Type} (describe : ε → String) (e : Event ε) : Fields :=
  named "type service" [e.happening.label, e.service] ++ match e.happening with
    | .registered deps => [("dependencies", .strs deps)]
    | .allStarting order => [("order", .strs order)]
    | .startFailed e | .stopFailed e => [("error", .str (describe e))]
    | _ => []

/-- An activity. -/
def Activity.view (a : Activity) : Fields := named "name type url" [a.name, a.kind, a.url]

/-- Reads an activity back. -/
def Activity.ofView (j : Json) : Activity := ⟨j.textAt "name", j.textAt "type", j.textAt "url"⟩

/-- A configuration. -/
def Config.view (c : Config) : Json :=
  .obj (named "token appid status log log_format prefix owners width"
    [c.token, c.appId.toNat, .obj c.status.view, c.logLevel, c.logFormat, c.commandPrefix, c.owners,
      c.width])

/-- Reads a configuration back. -/
def Config.ofView (j : Json) : Config where
  token := j.textAt "token"
  appId := ((j.member? "appid").bind fun v => Config.wordOver? v 0).getD 0
  status := .ofView ((j.member? "status").getD .null)
  logLevel := j.textAt "log"
  logFormat := j.textAt "log_format"
  commandPrefix := j.textAt "prefix"
  owners := (j.listAt "owners").filterMap Json.str?
  width := j.intAt "width"

namespace Bot

/-- A user. -/
def User.view (u : User) : Fields := named "id tag bot" [u.id, u.tag, u.isBot]

/-- A field of a card. -/
def Field.view (f : Field) : Fields := named "name value inline" [f.name, f.value, f.inLine]

/-- A card, with a given view of its footer. -/
def Card.view (footer : String → Json) (c : Card) : Fields :=
  named "title description color footer fields"
    [c.title, c.description, c.color, footer c.footer, each c.fields Field.view]

/-- A button. -/
def Button.view (b : Button) : Fields :=
  named "label emoji custom_id" [b.label, b.emoji, b.customId]

/-- A message that goes out. -/
def Outgoing.view (m : Outgoing) : Json :=
  .obj (named "content reply_to embeds buttons"
    [m.content, m.replyTo, each m.cards (Card.view .str), each m.buttons Button.view])

/-- Reads a field of a card back. -/
def Field.ofView (j : Json) : Field := ⟨j.textAt "name", j.textAt "value", j.boolAt "inline"⟩

/-- Reads a card back. -/
def Card.ofView (j : Json) : Card where
  title := j.textAt "title"
  description := j.textAt "description"
  color := j.intAt "color"
  fields := (j.listAt "fields").map Field.ofView
  footer := j.textAt "footer"

/-- Reads a button back. -/
def Button.ofView (j : Json) : Button := ⟨j.textAt "label", j.textAt "emoji", j.textAt "custom_id"⟩

/-- Reads a message that goes out back. -/
def Outgoing.ofView (j : Json) : Outgoing where
  content := j.textAt "content"
  cards := (j.listAt "embeds").map Card.ofView
  buttons := (j.listAt "buttons").map Button.ofView
  replyTo := j.textAt "reply_to"

/-- A press. -/
def Press.view (p : Press) : Fields :=
  named "interaction token custom_id user channel message manage"
    [p.interaction, p.token, p.customId, .obj p.user.view, p.channel, p.message, p.moderates]

/-- What is asked of the chat: the name of the deed and what it concerns. -/
def Deed.view : Deed → String × List Json
  | .edit c m out => ("edit", [c, m, out.view])
  | .delete c m => ("delete", [c, m])
  | .react c m e => ("react", [c, m, e])
  | .acknowledge p => ("ack", [p.interaction])
  | .whisper p t => ("ephemeral", [p.interaction, t])
  | .presence a => ("presence", [.obj a.view])

end Bot

namespace Discord

/-- A text, or null when it is empty. -/
def filledView (s : String) : Json := orNull .str (filled? s)

/-- A button in a row. -/
def buttonView (b : Bot.Button) : Fields :=
  named "label style custom_id emoji" [b.label, dangerStyle, b.customId, filledView b.emoji]

/-- A reference to a message. -/
def Reference.view (r : Reference) : Json := .obj (named "message channel" [r.message, r.channel])

/-- A message in the form that the service takes. -/
def Payload.view (p : Payload) : Fields :=
  named "content embeds reference rows" [p.content, each p.cards (Bot.Card.view filledView),
    orNull Reference.view p.reference, p.rows.length] ++
    p.rows.map fun bs => ("buttons", each bs buttonView)

end Discord

end TermBot
