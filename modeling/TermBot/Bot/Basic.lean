import TermBot.Bot.Card
import TermBot.Bot.Command
import TermBot.Config.Draft
import TermBot.Pipeline.Run
import TermBot.Text.Utf8

/-!
# The bot

The bot answers messages and presses of its button. All that it does to the chat is an effect that is
written down with its outcome, in the order in which things were done. The chat and the stages act on
a world of type `σ` and fail with errors of type `ε`.
-/

namespace TermBot.Bot

/-- What is asked of the chat besides sending. -/
inductive Deed where
  | edit (channel message : String) (m : Outgoing)
  | delete (channel message : String)
  | react (channel message emoji : String)
  /-- Accepts a press without an answer that shows. -/
  | acknowledge (p : Press)
  /-- Answers a press with a text that only the user sees. -/
  | whisper (p : Press) (text : String)
  | presence (a : Activity)
  deriving DecidableEq, Repr

/-- What the bot does. -/
inductive Effect where
  | send (channel : String) (m : Outgoing)
  | deed (d : Deed)
  | shutdown
  deriving DecidableEq, Repr

/-- An effect with its outcome. -/
structure Done where
  effect : Effect
  succeeded : Bool
  deriving DecidableEq, Repr

/-- The world and what was done to it. -/
structure Scene (σ : Type) where
  world : σ
  done : List Done := []

/-- What the bot works with. -/
structure Env (σ ε : Type) where
  engine : Pipeline.Engine σ
  render : Render.Value → σ → Except ε String × σ
  send : String → Outgoing → σ → Except ε Sent × σ
  perform : Deed → σ → Except ε Unit × σ
  /-- The owners of the application. -/
  owners : List String

/-- A collaborator that the bot cannot do without. -/
inductive Part where
  | pipeline
  | transport
  | config
  | shutdown
  deriving DecidableEq, Repr

/-- The wording for a missing part. -/
def Part.missing (p : Part) : String :=
  "bot: missing dependency: " ++ match p with
    | .pipeline => "pipeline"
    | .transport => "transport"
    | .config => "config"
    | .shutdown => "shutdown"

/-- All parts, in the order in which they are looked for. -/
def Part.all : List Part := [.pipeline, .transport, .config, .shutdown]

/-- The bot between two events: the settings in force and, once it is ready, its own user. -/
structure State where
  config : Config
  self : Option User := none

/-- Why a command fails. -/
inductive CommandError (ε : Type) where
  | chat (e : ε)
  | pipeline (e : Pipeline.RunError ε)
  | activity (e : Config.ActivityError)
  | presence (e : ε)

/-- Why the bot fails to handle an event. -/
inductive BotError (ε : Type) where
  | command (name : String) (e : CommandError ε)
  | component (e : ComponentError)
  | acknowledge (e : ε)
  | delete (e : ε)
  | chat (e : ε)

variable {σ ε : Type}

/-- The wording of an error. -/
def CommandError.message (describe : ε → String) : CommandError ε → String
  | .chat e => describe e
  | .pipeline e => e.message describe
  | .activity e => "parse activity: " ++ e.message
  | .presence e => "set presence: " ++ describe e

/-- The wording of an error. -/
def BotError.message (describe : ε → String) : BotError ε → String
  | .command name e => name ++ ": " ++ e.message describe
  | .component e => e.message
  | .acknowledge e => "acknowledge cleanup: " ++ describe e
  | .delete e => "delete message in cleanup: " ++ describe e
  | .chat e => describe e

/-- Answers what a user may not do. -/
def noPermission : String := "You don't have permission to do this!"

/-- Shows that a command was carried out. -/
def checkMark : String := "✅"

/-- Handling an event. -/
abbrev Handle (σ : Type) := StateM (Scene σ)

/-- Does something and writes it down. -/
def doing {α : Type} (effect : Effect) (act : σ → Except ε α × σ) : Handle σ (Except ε α) := fun s =>
  let (r, w) := act s.world
  (r, ⟨w, s.done ++ [⟨effect, r.toOption.isSome⟩]⟩)

/-- A part of the engine that leaves what was done alone. -/
def lift {α : Type} (act : σ → α × σ) (s : Scene σ) : α × Scene σ :=
  let (a, w) := act s.world
  (a, { s with world := w })

/-- Takes the prefix off a text, up to case; as many bytes as the prefix has. -/
def afterPrefix? (start : String) (cs : List Char) : Option String :=
  let bytes := Text.bytesOf cs
  let n := start.utf8ByteSize
  if n ≤ bytes.length &&
      Text.sameFold ((Text.decode (bytes.take n)).map Text.Scalar.char) start.toList then
    some (Text.shown (Text.decode (bytes.drop n)))
  else none

/-- Takes a mention of the bot off a text. -/
def afterMention? (self : User) (cs : List Char) : Option String :=
  ["<@" ++ self.id ++ ">", "<@!" ++ self.id ++ ">"].findSome? fun m =>
    if m.toList.isPrefixOf cs then some (String.ofList (cs.drop m.length)) else none

/-- What a message asks of the bot: what stands behind the command prefix or a mention. A direct message
needs neither. -/
def State.strip (b : State) (content : String) (direct : Bool) : Option String :=
  let cs := content.toList.dropWhile isBlank
  match afterPrefix? b.config.commandPrefix cs with
  | some rest => some rest
  | none =>
    match b.self.bind fun u => afterMention? u cs with
    | some rest => some rest
    | none => if direct then some (String.ofList cs) else none

namespace Env

variable (env : Env σ ε) (b : State)

/-- The user is an owner of the application or listed as one. -/
def isOwner (id : String) : Bool := env.owners.contains id || b.config.isOwner id

/-- Sends a message. -/
def sending (channel : String) (m : Outgoing) : Handle σ (Except ε Sent) :=
  doing (.send channel m) (env.send channel m)

/-- Asks the chat for something else. -/
def deed (d : Deed) : Handle σ (Except ε Unit) := doing (.deed d) (env.perform d)

/-- Shows a report in the channel of a message. -/
def reporting (channel : String) (r : Pipeline.Section) (s : Scene σ) : Except ε Unit × Scene σ :=
  let body := if r.code then codeBlock r.body else r.body
  let (sent, s) := env.sending channel { cards := [failure r.title body] } s
  (sent.map fun _ => (), s)

/-- The stages, which report to the channel of a message. -/
def stages (channel : String) : Pipeline.Collaborators (Scene σ) ε where
  engine := {
    parse := fun t => lift (env.engine.parse t)
    resolve := fun t => lift (env.engine.resolve t)
    infer := fun e => lift (env.engine.infer e) }
  render v := lift (env.render v)
  report := env.reporting channel

/-- The latency in whole milliseconds; a duration has 64 bits. -/
def latency (received sent : Int) : Int :=
  let bound : Int := Nat.pow 2 63
  (max (-bound) (min (bound - 1) (sent - received))).tdiv 1000000

/-- Sends a card, and edits it to show how long that took. -/
def ping (m : Message) : Handle σ (Except (CommandError ε) Unit) := do
  let card := success "Ping... 🏓" "One second, I'm gathering data."
  match ← env.sending m.channel { cards := [card] } with
  | .error e => return .error (.chat e)
  | .ok sent =>
    let text := s!"**Command Recv-Response Latency**:\n{latency m.time sent.time}ms"
    let done ← env.deed (.edit sent.channel sent.id { cards := [success "Ping... Pong! 🏓" text] })
    return done.mapError .chat

/-- The card that lists the commands. -/
def helpOverview (groups : List Group) : Card :=
  let field (g : Group) : Field :=
    let names := " ".intercalate (g.commands.map fun c => inCode (g.qualified c))
    { name := g.name, value := if g.summary = "" then names else g.summary ++ "\n" ++ names }
  { success "Help"
      "If you want more information about a specific command, just pass the command as an argument." with
    fields := groups.map field
    footer := "Prefix: " ++ b.config.commandPrefix }

/-- The card that describes a command. -/
def helpCommand (g : Group) (c : Command) : Card :=
  let name := g.qualified c
  let usage := b.config.commandPrefix ++ name ++ if c.usage = "" then "" else " " ++ c.usage
  let aliases : List Field :=
    if c.aliases.isEmpty then []
    else [⟨"Aliases", inCode ("`, `".intercalate c.aliases), true⟩]
  { success name c.description with
    fields := [⟨"Usage", inCode usage, false⟩] ++ aliases ++ [⟨"Group", g.name, true⟩] }

/-- Shows the commands, or one of them. -/
def help (m : Message) (args : String) : Handle σ (Except (CommandError ε) Unit) := do
  let query := Text.trim args
  let card :=
    if query = "" then helpOverview b visibleGroups
    else
      match helpTarget? visibleGroups query with
      | some (g, c) => helpCommand b g c
      | none => failure "Help" (notFound visibleGroups query)
  let sent ← env.sending m.channel { cards := [card] }
  return (sent.map fun _ => ()).mapError .chat

/-- Marks the message and shuts the bot down. -/
def stop (m : Message) : Handle σ (Except (CommandError ε) Unit) := do
  match ← env.deed (.react m.channel m.id checkMark) with
  | .error e => return .error (.chat e)
  | .ok _ =>
    modify fun s => { s with done := s.done ++ [⟨.shutdown, true⟩] }
    return .ok ()

/-- Sets the presence that a message gives. -/
def status (m : Message) (args : String) : Handle σ (Except (CommandError ε) Unit) := do
  match Config.readActivity args with
  | .error e =>
    let reply := { content := "Bad parse: " ++ inCode e.message, replyTo := m.id }
    match ← env.sending m.channel reply with
    | .error se => return .error (.chat se)
    | .ok _ => return .error (.activity e)
  | .ok a =>
    match ← env.deed (.presence a) with
    | .error e => return .error (.presence e)
    | .ok _ => return (← env.deed (.react m.channel m.id checkMark)).mapError .chat

/-- Runs the stages on a term and shows what they found. What has been reported is no failure. -/
def stage [Text.Measure] (m : Message) (args : String) (depth : Pipeline.Depth) :
    Handle σ (Except (CommandError ε) Unit) := do
  let ((res, err), journal) := (Pipeline.run (env.stages m.channel) args depth).run ⟨← get, []⟩
  set journal.world
  match err with
  | some e => if !e.reported then return .error (.pipeline e)
  | none => pure ()
  let sections := (res.map (·.sections)).getD []
  if sections.isEmpty then return .ok ()
  let cards := sections.map fun s => success s.title (if s.code then codeBlock s.body else s.body)
  let sent ← env.sending m.channel { cards, buttons := [cleanupButton m.author.id] }
  return (sent.map fun _ => ()).mapError .chat

/-- Carries a command out. -/
def invoke [Text.Measure] (m : Message) (args : String) : Action → Handle σ (Except (CommandError ε) Unit)
  | .ping => env.ping m
  | .help => env.help b m args
  | .stop => env.stop m
  | .status => env.status m args
  | .stage depth => env.stage m args depth

/-- Carries out the command that a message names. Messages of bots, messages without a command and
commands of owners by others are passed over. -/
def message [Text.Measure] (m : Message) : Handle σ (Except (BotError ε) Unit) := do
  if m.author.isBot then return .ok ()
  match (b.strip m.content m.isDirect).bind (lookup? groups) with
  | none => return .ok ()
  | some (g, c, args) =>
    if (g.ownersOnly || c.ownersOnly) && !env.isOwner b m.author.id then return .ok ()
    return (← env.invoke b m args c.action).mapError (.command (g.qualified c))

/-- Deletes a reply for the user it was for, a moderator or an owner. -/
def cleanup (p : Press) (issuer : String) : Handle σ (Except (BotError ε) Unit) := do
  if p.user.id ≠ issuer && !p.moderates && !env.isOwner b p.user.id then
    return (← env.deed (.whisper p noPermission)).mapError .chat
  match ← env.deed (.acknowledge p) with
  | .error e => return .error (.acknowledge e)
  | .ok _ => return (← env.deed (.delete p.channel p.message)).mapError .delete

/-- Handles a press. -/
def press (p : Press) : Handle σ (Except (BotError ε) Unit) :=
  match parseCustomId p.customId with
  | .error e => pure (.error (.component e))
  | .ok issuer => env.cleanup b p issuer

/-- Knows its own user from now on, and sets the presence. -/
def ready (r : Ready) : Handle σ (Except (BotError ε) Unit × State) := do
  let done ← env.deed (.presence b.config.status)
  return (done.mapError .chat, { b with self := some r.user })

/-- Takes a new configuration. A presence that differs from the one before is set once the bot is
ready. -/
def apply (c : Config) : Handle σ (Except (BotError ε) Unit × State) := do
  let next := { b with config := c }
  if b.config.status = c.status || b.self.isNone then return (.ok (), next)
  return ((← env.deed (.presence c.status)).mapError .chat, next)

/-- What the bot reacts to. -/
inductive Event where
  | message (m : Message)
  | press (p : Press)
  | ready (r : Ready)
  | apply (c : Config)

/-- Handles an event. -/
def handle [Text.Measure] (e : Event) : Handle σ (Except (BotError ε) Unit × State) :=
  match e with
  | .message m => do return (← env.message b m, b)
  | .press p => do return (← env.press b p, b)
  | .ready r => env.ready b r
  | .apply c => env.apply b c

end Env

end TermBot.Bot
