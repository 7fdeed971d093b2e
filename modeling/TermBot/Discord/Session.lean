import TermBot.Discord.Rest
import TermBot.Lifecycle.Health
import TermBot.Render.Service

/-!
# Sessions

A session takes the events of the service to the bot, and what the bot does to the service. Failures
to handle an event change nothing else.
-/

namespace TermBot.Discord

open TermBot.Bot

/-- What the bot acts on: the rendering and the connection. -/
structure World where
  renderer : Render.RenderSystem
  link : Link

/-- Why something that the bot does fails. -/
inductive WorldError where
  | render (e : Render.RequestError)
  | link (e : LinkError)

/-- A connected bot renders with its own actor and talks over the connection. -/
def connected [Text.Measure] (width : Int64) (owners : List String) : Env World WorldError where
  engine := Pipeline.systemF Typing.ampleDepth
  render v w :=
    let h := Render.handler Render.standardBuilder width false
    let (r, renderer) := Render.render h 0 v false w.renderer
    (r.mapError .render, { w with renderer })
  send c m w :=
    let (r, link) := (sendMessage c m).run w.link
    (r.mapError .link, { w with link })
  perform d w :=
    let (r, link) := (perform d).run w.link
    (r.mapError .link, { w with link })
  owners

/-- The name of the service in the lifecycle. -/
def serviceName : String := "discord"

/-- A session: whether the service has said that it is ready, whether the bot is to be shut down, and
the bot, if one is attached. -/
structure Session where
  world : World
  isReady : Bool := false
  isDone : Bool := false
  bot : Option State := none

namespace Session

/-- Asks for the bot to be shut down. -/
def requestShutdown (s : Session) : Session := { s with isDone := true }

/-- Closes the connection. -/
def stop (s : Session) : Session := { s with isReady := false }

/-- The report on a session: healthy once the service is ready. -/
def health (s : Session) : Lifecycle.Health :=
  { state := if s.isReady then Lifecycle.healthy else "starting" }

/-- The bot handles an event. -/
def handle [Text.Measure] (env : Env World WorldError) (e : Env.Event) (s : Session) : Session :=
  match s.bot with
  | none => s
  | some b =>
    let ((_, b), scene) := env.handle b e { world := s.world }
    { s with
      world := scene.world, bot := some b
      isDone := s.isDone || scene.done.any (·.effect = .shutdown) }

/-- Takes an event of the service to the bot. -/
def deliver [Text.Measure] (env : Env World WorldError) (e : Event) (s : Session) : Session :=
  if s.bot.isNone then s
  else
    match e with
    | .ready r => { s with isReady := true }.handle env (.ready r)
    | .message m => s.handle env (.message m)
    | .interaction i =>
      match i.press? with
      | some p => s.handle env (.press p)
      | none => s
    | .disconnect => s.stop

end Session

end TermBot.Discord
