import TermBot.Lifecycle.Health
import TermBot.Lifecycle.Order

/-!
# The lifecycle manager

Services are started in dependency order and stopped in the reverse of the order in which they were
started. When one fails to start, those already started are stopped again. Services act on a world of
type `σ` and fail with errors of type `ε`. Every registration and change is an event: all events are
logged, and the first hundred that nobody has taken are buffered.
-/

namespace TermBot.Lifecycle

variable {σ ε : Type}

/-- A component with a managed lifetime. Starting and stopping learn whether the caller has given
up. -/
structure Service (σ ε : Type) where
  start : (canceled : Bool) → σ → Except ε Unit × σ
  stop : (canceled : Bool) → σ → Except ε Unit × σ
  health : σ → Except ε Health

/-- A registered service. -/
structure Registration (σ ε : Type) where
  node : Node
  service : Service σ ε

/-- Why a lifecycle operation fails. -/
inductive Cause (ε : Type) where
  | emptyName
  | noService
  | alreadyStarted
  | duplicate
  | order (e : OrderError)
  | service (e : ε)
  deriving Repr

/-- The wording of a cause. -/
def Cause.message (describe : ε → String) : Cause ε → String
  | .emptyName => "service name cannot be empty"
  | .noService => "service cannot be nil"
  | .alreadyStarted => "lifecycle manager already started"
  | .duplicate => "service already registered"
  | .order e => e.message
  | .service e => describe e

/-- A failure with its operation and, unless empty, the service concerned. -/
structure LifecycleError (ε : Type) where
  operation : String
  service : String := ""
  cause : Cause ε
  deriving Repr

/-- The wording of a failure. -/
def LifecycleError.message (describe : ε → String) (e : LifecycleError ε) : String :=
  let whom := if e.service.isEmpty then "" else " for service " ++ e.service
  e.operation ++ " failed" ++ whom ++ ": " ++ e.cause.message describe

/-- The wording of several failures, one a line. -/
def joinMessages (describe : ε → String) (es : List (LifecycleError ε)) : String :=
  String.intercalate "\n" (es.map (·.message describe))

/-- What happened. -/
inductive Happening (ε : Type) where
  | registered (deps : List String)
  | starting
  | started
  | startFailed (error : ε)
  | stopping
  | stopped
  | stopFailed (error : ε)
  | allStarting (order : List String)
  | allStarted
  | allStopping
  | allStopped

/-- The name of a happening. -/
def Happening.label : Happening ε → String
  | .registered _ => "service.registered"
  | .starting => "service.starting"
  | .started => "service.started"
  | .startFailed _ => "service.start_failed"
  | .stopping => "service.stopping"
  | .stopped => "service.stopped"
  | .stopFailed _ => "service.stop_failed"
  | .allStarting _ => "lifecycle.starting"
  | .allStarted => "lifecycle.started"
  | .allStopping => "lifecycle.stopping"
  | .allStopped => "lifecycle.stopped"

/-- A happening and the service it concerns. -/
structure Event (ε : Type) where
  service : String := ""
  happening : Happening ε

/-- The number of events that are buffered. -/
def bufferSize : Nat := 100

/-- A manager and the world of its services. -/
structure Manager (σ ε : Type) where
  world : σ
  registrations : List (Registration σ ε) := []
  startOrder : List String := []
  started : Bool := false
  log : List (Event ε) := []
  buffer : List (Event ε) := []

namespace Manager

/-- Announces an event. -/
def emit (m : Manager σ ε) (service : String) (h : Happening ε) : Manager σ ε :=
  let e : Event ε := ⟨service, h⟩
  { m with
    log := m.log ++ [e]
    buffer := if m.buffer.length < bufferSize then m.buffer ++ [e] else m.buffer }

/-- Takes the buffered events. -/
def takeEvents (m : Manager σ ε) : List (Event ε) × Manager σ ε :=
  (m.buffer, { m with buffer := [] })

/-- The service registered under a name. -/
def find? (m : Manager σ ε) (name : String) : Option (Service σ ε) :=
  (m.registrations.find? (·.node.name = name)).map (·.service)

/-- Registers a service. -/
def register (m : Manager σ ε) (name : String) (service : Option (Service σ ε))
    (deps : List String) : Except (LifecycleError ε) Unit × Manager σ ε :=
  let fail service cause := (.error { operation := "register", service, cause }, m)
  if name.isEmpty then fail "" .emptyName
  else
    match service with
    | none => fail name .noService
    | some service =>
      if m.started then fail name .alreadyStarted
      else if m.registrations.any (·.node.name = name) then fail name .duplicate
      else
        let entry : Registration σ ε := ⟨⟨name, deps⟩, service⟩
        let m := { m with registrations := m.registrations ++ [entry] }
        (.ok (), m.emit name (.registered deps))

/-- Stops the service with a name; returns its failure. -/
def stopOne (m : Manager σ ε) (canceled : Bool) (name : String) :
    List (LifecycleError ε) × Manager σ ε :=
  let m := m.emit name .stopping
  match m.find? name with
  | none => ([], m.emit name .stopped)
  | some s =>
    match s.stop canceled m.world with
    | (.ok _, w) => ([], { m with world := w }.emit name .stopped)
    | (.error e, w) =>
      ([{ operation := "stop", service := name, cause := .service e }],
        { m with world := w }.emit name (.stopFailed e))

/-- Stops services in the order given, all of them even if some fail. -/
def stopAll (m : Manager σ ε) (canceled : Bool) :
    List String → List (LifecycleError ε) × Manager σ ε
  | [] => ([], m)
  | name :: rest =>
    let (es, m) := m.stopOne canceled name
    let (more, m) := m.stopAll canceled rest
    (es ++ more, m)

/-- Stops what is started, newest first. -/
def stopStarted (m : Manager σ ε) (canceled : Bool) : List (LifecycleError ε) × Manager σ ε :=
  let (es, m) := m.stopAll canceled m.startOrder.reverse
  (es, { m with startOrder := [] })

/-- Starts the service with a name. -/
def startOne (m : Manager σ ε) (canceled : Bool) (name : String) :
    Except ε Unit × Manager σ ε :=
  let m := m.emit name .starting
  match m.find? name with
  | none => (.ok (), m)
  | some s =>
    match s.start canceled m.world with
    | (.error e, w) => (.error e, { m with world := w }.emit name (.startFailed e))
    | (.ok _, w) =>
      (.ok (), { m with world := w, startOrder := m.startOrder ++ [name] }.emit name .started)

/-- Starts services in the order given. The first failure stops those started and ends the run. -/
def startAll (m : Manager σ ε) (canceled : Bool) :
    List String → Except (List (LifecycleError ε)) Unit × Manager σ ε
  | [] => (.ok (), m)
  | name :: rest =>
    match m.startOne canceled name with
    | (.ok _, m) => m.startAll canceled rest
    | (.error e, m) =>
      let (es, m) := m.stopStarted canceled
      (.error ({ operation := "start", service := name, cause := .service e } :: es), m)

/-- Starts all services in dependency order. -/
def start (m : Manager σ ε) (canceled : Bool) :
    Except (List (LifecycleError ε)) Unit × Manager σ ε :=
  if m.started then (.error [{ operation := "start", cause := .alreadyStarted }], m)
  else
    match Lifecycle.startOrder (m.registrations.map (·.node)) with
    | .error e => (.error [{ operation := "start", cause := .order e }], m)
    | .ok order =>
      match (m.emit "" (.allStarting order)).startAll canceled order with
      | (.error es, m) => (.error es, m)
      | (.ok _, m) => (.ok (), { m with started := true }.emit "" .allStarted)

/-- Stops all services; the failures of all that fail are returned. -/
def stop (m : Manager σ ε) (canceled : Bool) :
    Except (List (LifecycleError ε)) Unit × Manager σ ε :=
  if !m.started then (.ok (), m)
  else
    let (es, m) := (m.emit "" .allStopping).stopStarted canceled
    let m := { m with started := false }.emit "" .allStopped
    (if es.isEmpty then .ok () else .error es, m)

/-- The reports of all services. One that cannot be asked is unhealthy. -/
def health (describe : ε → String) (m : Manager σ ε) : List (String × Health) :=
  m.registrations.map fun r =>
    match r.service.health m.world with
    | .ok h => (r.node.name, h)
    | .error e => (r.node.name, { state := unhealthy, message := describe e })

/-- The names of all services, in order. -/
def names (m : Manager σ ε) : List String := sortNames (m.registrations.map (·.node.name))

end Manager

end TermBot.Lifecycle
