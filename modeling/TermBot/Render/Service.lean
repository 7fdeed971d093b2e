import TermBot.Actor.System
import TermBot.Doc.Arena
import TermBot.Render.Value

/-!
# The rendering service

One actor owns the arena and lays values out one at a time, in the order in which they were enqueued.
The arena is reset after every value, also when building its document panics, so no layout depends on
what was rendered before.
-/

namespace TermBot.Render

open Actor
open Text (Measure)

/-- What a request carries: a value, or something else of a named type. -/
inductive Payload where
  | value (v : Value)
  | foreign (typeName : String)
  deriving DecidableEq, Repr

/-- Why a payload is not rendered. -/
inductive RenderError where
  | unknownValue (typeName : String)
  deriving DecidableEq, Repr

/-- The wording of an error. -/
def RenderError.message : RenderError → String
  | .unknownValue t => "render: unknown value kind: " ++ t

/-- Builds the document of a value, or panics for a reason. -/
abbrev Builder := Value → Except String Doc

/-- The builder of the documents of all values. -/
def standardBuilder : Builder := fun v => .ok v.doc

/-- Renders one payload. -/
def handle [Measure] (build : Builder) (width : Int64) (p : Payload) (arena : Doc.Arena) :
    Outcome String RenderError × Doc.Arena :=
  match p with
  | .foreign t => (.returned none (some (.unknownValue t)), arena)
  | .value v =>
    match build v with
    | .error reason => (.panicked reason, arena.reset)
    | .ok d =>
      let (h, arena) := (Doc.Arena.build d).run arena
      let (text, arena) := (Doc.Arena.pretty width h).run arena
      (.returned (some text) none, arena.reset)

/-- A system in which values are rendered. -/
abbrev RenderSystem := System Payload String RenderError Doc.Arena

/-- The handler of a rendering service. While `held` it waits before it builds a document. -/
def handler [Measure] (build : Builder) (width : Int64) (held : Bool) :
    Handler Payload String RenderError Doc.Arena where
  run := handle build width
  held
    | .value _ => held
    | .foreign _ => false

/-- The name under which the service is registered. -/
def serviceName : String := "renderer"

/-- The width of lines unless another one is asked for. -/
def defaultWidth : Int := 80

/-- The width of lines for a wish; only a positive one counts. -/
def lineWidth (wish : Int) : Int := if 0 < wish then wish else defaultWidth

/-- The wording of a failure to start the service. -/
def startMessage (e : SpawnError) : String := "render: start service: " ++ e.message

/-- Starts the service in a system; returns its actor. -/
def start (h : Handler Payload String RenderError Doc.Arena) (sys : RenderSystem) :
    Except SpawnError Nat × RenderSystem :=
  sys.spawnService h serviceName "" true {}

/-- A rendering job and whether the service has accepted it. -/
structure Request where
  payload : Payload
  outlet : Outlet
  queued : Bool := false

/-- Why a request has no text. -/
inductive RequestError where
  | refused (r : Refusal)
  | notQueued
  | canceled
  | failed (f : Failure RenderError)
  /-- The answer will never come. -/
  | stuck
  deriving DecidableEq, Repr

/-- The wording of an error. -/
def RequestError.message : RequestError → String
  | .refused r => r.message
  | .notQueued => "render: request was not enqueued"
  | .canceled => "context canceled"
  | .failed f => f.message RenderError.message
  | .stuck => "no answer"

/-- A request with a slot of its own. -/
def newRequest (v : Value) (sys : RenderSystem) : Request × RenderSystem :=
  let (n, sys) := sys.newSlot
  (⟨.value v, .slot n, false⟩, sys)

/-- Enqueues a request, which never waits. -/
def enqueue (h : Handler Payload String RenderError Doc.Arena) (cell : Nat) (req : Option Request)
    (sys : RenderSystem) : Except Refusal Request × RenderSystem :=
  match req with
  | none => (.error .noMessage, sys)
  | some req =>
    match sys.send h cell { payload := req.payload, outlet := req.outlet } with
    | (.ok _, sys) => (.ok { req with queued := true }, sys)
    | (.error e, sys) => (.error e, sys)

/-- The text of a response. -/
def textOf (r : Response String RenderError) : Except RequestError String :=
  match r.failure with
  | some f => .error (.failed f)
  | none => .ok (r.payload.getD "")

/-- Waits for the text of a request, unless the caller has given up. -/
def await (h : Handler Payload String RenderError Doc.Arena) (req : Request) (canceled : Bool)
    (sys : RenderSystem) : Except RequestError String × RenderSystem :=
  if !req.queued then (.error .notQueued, sys)
  else if canceled then (.error .canceled, sys)
  else
    match (sys.settle h).takeReply req.outlet with
    | (some r, sys) => (textOf r, sys)
    | (none, sys) => (.error .stuck, sys)

/-- Enqueues a value and waits for its text. -/
def render (h : Handler Payload String RenderError Doc.Arena) (cell : Nat) (v : Value)
    (canceled : Bool) (sys : RenderSystem) : Except RequestError String × RenderSystem :=
  let (req, sys) := newRequest v sys
  match enqueue h cell (some req) sys with
  | (.error e, sys) => (.error (.refused e), sys)
  | (.ok req, sys) => await h req canceled sys

end TermBot.Render
