/-!
# Messages between actors

A message carries a payload and says where its answer goes: nowhere, or into a slot that holds one
answer. The answer to a message is a response, with a failure if handling it failed.
-/

namespace TermBot.Actor

/-- What an actor is doing. -/
inductive State where
  | idle
  | running
  | stopping
  | stopped
  | failed
  deriving DecidableEq, Repr

/-- The name of a state. -/
def State.label : State → String
  | .idle => "idle"
  | .running => "running"
  | .stopping => "stopping"
  | .stopped => "stopped"
  | .failed => "failed"

/-- The states in the order of their numbers. -/
def State.all : List State := [.idle, .running, .stopping, .stopped, .failed]

/-- The kind of a message. -/
inductive MessageKind where
  | text
  | response
  | request
  | error
  deriving DecidableEq, Repr

/-- The name of a kind. -/
def MessageKind.label : MessageKind → String
  | .text => "text"
  | .response => "response"
  | .request => "request"
  | .error => "error"

/-- The kinds in the order of their numbers. -/
def MessageKind.all : List MessageKind := [.text, .response, .request, .error]

/-- Where the answer to a message goes. -/
inductive Outlet where
  /-- No answer is wanted. -/
  | none
  /-- An answer is wanted but there is no room for it. -/
  | unbuffered
  /-- The slot with this number, which holds one answer. -/
  | slot (n : Nat)
  deriving DecidableEq, Repr

/-- Has room for an answer. -/
def Outlet.hasRoom : Outlet → Bool
  | .slot _ => true
  | _ => false

/-- A message with a payload of type `P`. -/
structure Message (P : Type) where
  kind : MessageKind := .request
  source : UInt32 := 0
  session : UInt32 := 0
  payload : P
  outlet : Outlet

/-- Why a message was not answered with a result; `E` are the handler's own errors. -/
inductive Failure (E : Type) where
  /-- The actor was stopped before it handled the message. -/
  | stopped (actor : UInt32)
  /-- The actor had failed before it handled the message. -/
  | failed (actor : UInt32)
  /-- The handler panicked on the message. -/
  | panicked (actor : UInt32) (reason : String)
  /-- The handler returned an error. -/
  | handler (error : E)
  deriving DecidableEq, Repr

/-- Texts of the errors of actors. -/
def notAccepting : String := "actor is not accepting messages"

/-- The wording of a failure. -/
def Failure.message {E : Type} (describe : E → String) : Failure E → String
  | .stopped id => s!"actor {id}: " ++ notAccepting
  | .failed id => s!"actor {id}: actor failed"
  | .panicked id reason => s!"actor {id}: actor failed: " ++ reason
  | .handler e => describe e

/-- The answer to a message, with a result of type `R`. -/
structure Response (R E : Type) where
  source : UInt32
  target : UInt32
  session : UInt32
  payload : Option R := none
  failure : Option (Failure E) := none

/-- The kind of a response. -/
def Response.kind {R E : Type} (r : Response R E) : MessageKind :=
  if r.failure.isSome then .error else .response

/-- What a handler does with a payload: it returns, with a result or an error or both, or it
panics. -/
inductive Outcome (R E : Type) where
  | returned (payload : Option R) (error : Option E)
  | panicked (reason : String)

/-- Why an operation on an actor is refused. -/
inductive Refusal where
  | noMessage
  | noReplySlot
  | failed (actor : UInt32)
  /-- The actor no longer accepts messages; the state is given when it was seen. -/
  | stopped (actor : UInt32) (state : Option State)
  | alreadyStarted (actor : UInt32)
  deriving DecidableEq, Repr

/-- The wording of a refusal. -/
def Refusal.message : Refusal → String
  | .noMessage => "cannot route nil message"
  | .noReplySlot => "request has no buffered reply channel"
  | .failed id => s!"actor {id}: actor failed"
  | .stopped id (some s) => s!"actor {id} (state: " ++ s.label ++ "): " ++ notAccepting
  | .stopped id none => s!"actor {id}: " ++ notAccepting
  | .alreadyStarted id => s!"actor {id}: actor is already started"

end TermBot.Actor
