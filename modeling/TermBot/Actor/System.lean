import TermBot.Actor.Cell
import TermBot.Actor.Directory

/-!
# Systems of actors

A system spawns actors, finds services by name and stops everything. Its operations are written as
steps of the actors in it: a caller runs until it returns or has to wait, and while it waits the
message loops and the tasks in the background run. `System.settle` lets them run until nothing is
left to do.
-/

namespace TermBot.Actor

variable {P R E S : Type}

/-- What the handlers of a system do with a payload, and which payloads they are kept waiting on. -/
structure Handler (P R E S : Type) where
  run : P → S → Outcome R E × S
  held : P → Bool := fun _ => false

/-- Work in the background. -/
inductive Task (P : Type) where
  /-- Stopping one actor. -/
  | stop (cell : Nat) (caller : Caller P)
  /-- Stopping actors one after the other. -/
  | sweep (caller : Option (Nat × Caller P)) (rest : List Nat)

/-- A system: its actors in the order of creation, those registered, and the slots for answers. -/
structure System (P R E S : Type) where
  cells : Array (Cell P R E S) := #[]
  directory : Directory Nat := {}
  closed : Bool := false
  slots : Array (Option (Response R E)) := #[]
  tasks : Array (Task P) := #[]

/-- Why an actor is not spawned. -/
inductive SpawnError where
  | noName
  | shutDown
  | noHandler
  | refused (cause : DirectoryError)
  | service (name : String) (cause : SpawnError)
  deriving Repr

/-- The wording of a spawn error. -/
def SpawnError.message : SpawnError → String
  | .noName => "service name cannot be empty"
  | .shutDown => "actor system is shutting down"
  | .noHandler => "cannot spawn actor without a handler"
  | .refused e => e.message
  | .service name e => "service " ++ name ++ ": " ++ e.message

/-- The system no longer spawns. -/
def SpawnError.isShutDown : SpawnError → Bool
  | .shutDown => true
  | .service _ e => e.isShutDown
  | _ => false

/-- The wording for a service that is not there. -/
def noSuchService (name : String) : String := "service not found: " ++ name

/-- The result of waiting for something. -/
inductive Waited (α : Type) where
  | done (result : α)
  /-- The caller gave up before. -/
  | canceled
  /-- Nothing moves any more. -/
  | stuck

namespace System

/-- Puts an answer into its slot, unless the slot holds one. -/
def deliver (sys : System P R E S) : Option (Answer R E) → System P R E S
  | some (.slot n, r) =>
    match sys.slots[n]? with
    | some none => { sys with slots := sys.slots.setIfInBounds n (some r) }
    | _ => sys
  | _ => sys

/-- A new slot. -/
def newSlot (sys : System P R E S) : Nat × System P R E S :=
  (sys.slots.size, { sys with slots := sys.slots.push none })

/-- Takes the answer out of a slot. -/
def takeReply (sys : System P R E S) (outlet : Outlet) : Option (Response R E) × System P R E S :=
  match outlet with
  | .slot n =>
    match sys.slots[n]? with
    | some (some r) => (some r, { sys with slots := sys.slots.setIfInBounds n none })
    | _ => (none, sys)
  | _ => (none, sys)

/-- Replaces an actor. -/
def setCell (sys : System P R E S) (i : Nat) (c : Cell P R E S) : System P R E S :=
  { sys with cells := sys.cells.setIfInBounds i c }

/-- One step of the loop of actor `i`. -/
def stepLoop (h : Handler P R E S) (sys : System P R E S) (i : Nat) : Option (System P R E S) := do
  let c ← sys.cells[i]?
  let (c, a) ← c.loopStep h.run h.held
  return (sys.setCell i c).deliver a

/-- One step of a caller of actor `i`. -/
def stepCaller (sys : System P R E S) (i : Nat) (caller : Caller P) :
    Option (System P R E S × Caller P) := do
  let c ← sys.cells[i]?
  let (c, caller, a) ← c.callerStep caller
  return ((sys.setCell i c).deliver a, caller)

/-- One step of a task. -/
def stepTask (sys : System P R E S) : Task P → Option (System P R E S × Task P)
  | .stop i caller => do
    let (sys, caller) ← sys.stepCaller i caller
    return (sys, .stop i caller)
  | .sweep (some (_, .returned _)) rest => some (sys, .sweep none rest)
  | .sweep (some (i, caller)) rest => do
    let (sys, caller) ← sys.stepCaller i caller
    return (sys, .sweep (some (i, caller)) rest)
  | .sweep none (i :: rest) => some (sys, .sweep (some (i, .stopCheck)) rest)
  | .sweep none [] => none

/-- One step of task `k`. -/
def stepTaskAt (sys : System P R E S) (k : Nat) : Option (System P R E S) := do
  let t ← sys.tasks[k]?
  let (sys, t) ← sys.stepTask t
  return { sys with tasks := sys.tasks.setIfInBounds k t }

/-- The first step that some loop or task can take. -/
def step? (h : Handler P R E S) (sys : System P R E S) : Option (System P R E S) :=
  match (List.range sys.cells.size).findSome? (sys.stepLoop h) with
  | some sys => some sys
  | none => (List.range sys.tasks.size).findSome? sys.stepTaskAt

/-- More steps than the queued messages, the actors and the tasks can take. -/
def budget (sys : System P R E S) : Nat :=
  let queued := (sys.cells.toList.map fun c => c.mailbox.size).foldr (· + ·) 0
  32 * (queued + 2) * (sys.tasks.size + 1) + 32 * (sys.cells.size + 1) * (sys.tasks.size + 2)

/-- Lets loops and tasks run, for `limit` steps at most. -/
def settleFor (h : Handler P R E S) : (limit : Nat) → System P R E S → System P R E S
  | 0, sys => sys
  | n + 1, sys =>
    match sys.step? h with
    | some sys => settleFor h n sys
    | none => sys

/-- Lets loops and tasks run until nothing is left to do. -/
def settle (h : Handler P R E S) (sys : System P R E S) : System P R E S :=
  settleFor h sys.budget sys

/-- Runs a caller of actor `i`; when it has to wait, the system moves. -/
def performFor (h : Handler P R E S) (i : Nat) :
    (limit : Nat) → Caller P → System P R E S → Waited (Except Refusal Unit) × System P R E S
  | 0, _, sys => (.stuck, sys)
  | _ + 1, .returned r, sys => (.done r, sys)
  | n + 1, caller, sys =>
    match sys.stepCaller i caller with
    | some (sys, caller) => performFor h i n caller sys
    | none =>
      match sys.step? h with
      | some sys => performFor h i n caller sys
      | none => (.stuck, sys)

/-- Runs a caller of actor `i` to its end. -/
def perform (h : Handler P R E S) (i : Nat) (caller : Caller P) (sys : System P R E S) :
    Waited (Except Refusal Unit) × System P R E S :=
  performFor h i sys.budget caller sys

/-- Sends a message, which never waits. -/
def send (h : Handler P R E S) (i : Nat) (m : Message P) (sys : System P R E S) :
    Except Refusal Unit × System P R E S :=
  match sys.perform h i (.sendCheck m) with
  | (.done r, sys) => (r, sys)
  | (_, sys) => (.error .noMessage, sys)

/-- Sends a request with a session of its own and waits for the answer, unless the caller has given
up. Returns the outlet that the answer goes to. -/
def call (h : Handler P R E S) (i : Nat) (payload : P) (outlet : Outlet) (canceled : Bool)
    (sys : System P R E S) :
    Outlet × Waited (Except Refusal (Response R E)) × System P R E S :=
  let (outlet, sys) := match outlet with
    | .none => let (n, sys) := sys.newSlot; (Outlet.slot n, sys)
    | p => (p, sys)
  match sys.cells[i]? with
  | none => (outlet, .stuck, sys)
  | some c =>
    let session := c.sessions + 1
    let sys := sys.setCell i { c with sessions := session }
    match sys.send h i { payload, outlet, session } with
    | (.error e, sys) => (outlet, .done (.error e), sys)
    | (.ok _, sys) =>
      if canceled then (outlet, .canceled, sys)
      else
        match (sys.settle h).takeReply outlet with
        | (some r, sys) => (outlet, .done (.ok r), sys)
        | (none, sys) => (outlet, .stuck, sys)

/-- Starts to stop actor `i` in the background. -/
def beginStop (i : Nat) (sys : System P R E S) : System P R E S :=
  { sys with tasks := sys.tasks.push (.stop i .stopCheck) }

/-- The result of a background stop that is over. -/
def stopResult? : Task P → Option (Except Refusal Unit)
  | .stop _ (.returned r) => some r
  | _ => none

/-- The task stops one actor. -/
def isStop : Task P → Bool
  | .stop .. => true
  | .sweep .. => false

/-- Takes the results of the background stops. -/
def takeStops (sys : System P R E S) : List (Except Refusal Unit) × System P R E S :=
  (sys.tasks.toList.filterMap stopResult?, { sys with tasks := sys.tasks.filter (!isStop ·) })

/-- Calls the service of this name, if there is one. -/
def callService (h : Handler P R E S) (name : String) (payload : P) (canceled : Bool)
    (sys : System P R E S) :
    Option (Waited (Except Refusal (Response R E))) × System P R E S :=
  match sys.directory.named? name with
  | none => (none, sys)
  | some (_, i) =>
    let (_, w, sys) := sys.call h i payload .none canceled
    (some w, sys)

/-- Adds an actor that is neither registered nor started. -/
def addCell (sys : System P R E S) (id : UInt32) (name : String) (memory : S) :
    Nat × System P R E S :=
  (sys.cells.size, { sys with cells := sys.cells.push { id, name, memory } })

/-- Spawns an actor, registered under `service` unless that is empty. A number is used up even if the
name is taken. -/
def spawn (h : Handler P R E S) (service name : String) (hasHandler : Bool) (memory : S)
    (sys : System P R E S) : Except SpawnError Nat × System P R E S :=
  if sys.closed then (.error .shutDown, sys)
  else if !hasHandler then (.error .noHandler, sys)
  else
    let (id, dir) := sys.directory.allocate
    let sys := { sys with directory := dir }
    match dir.add (some (id, sys.cells.size)) service with
    | (.error e, dir) => (.error (.refused e), { sys with directory := dir })
    | (.ok _, dir) =>
      let (i, sys) := { sys with directory := dir }.addCell id name memory
      (.ok i, (sys.perform h i .startMark).2)

/-- Spawns a named actor. -/
def spawnService (h : Handler P R E S) (service name : String) (hasHandler : Bool) (memory : S)
    (sys : System P R E S) : Except SpawnError Nat × System P R E S :=
  if service.isEmpty then (.error .noName, sys)
  else
    match sys.spawn h service (if name.isEmpty then service else name) hasHandler memory with
    | (.ok i, sys) => (.ok i, sys)
    | (.error e, sys) => (.error (.service service e), sys)

/-- The task has nothing left to do. -/
def isOver : Task P → Bool
  | .stop _ (.returned _) => true
  | .sweep none [] => true
  | _ => false

/-- Stops all actors in the order of their creation, each one after what it had queued is answered.
A later call finds the system closed and returns at once; a caller that gives up leaves the stopping
to the background. -/
def shutdown (h : Handler P R E S) (canceled : Bool) (sys : System P R E S) :
    Waited Unit × System P R E S :=
  if sys.closed then (.done (), sys)
  else
    let k := sys.tasks.size
    let sys := { sys with
      closed := true
      tasks := sys.tasks.push (.sweep none sys.directory.actors) }
    if canceled then (.canceled, sys)
    else
      let sys := sys.settle h
      (if sys.tasks[k]?.any isOver then .done () else .stuck, sys)

/-- The registered actors, oldest first. -/
def registered (sys : System P R E S) : List (Cell P R E S) :=
  sys.directory.actors.filterMap (sys.cells[·]?)

/-- The names of registered actors that have failed. -/
def failedNames (sys : System P R E S) : List String :=
  (sys.registered.filter (·.state = .failed)).map (·.name)

end System

end TermBot.Actor
