import TermBot.Actor.Mailbox
import TermBot.Actor.Message

/-!
# One actor

A cell is an actor with its mailbox and its message loop. The loop and every caller of the actor
advance by atomic steps: one access to shared state each. `Cell.loopStep` is a step of the loop,
`Cell.callerStep` a step of a caller that sends a message, stops or starts the actor; a step that
cannot be taken now is `none`. Running steps in any order gives every interleaving.
-/

namespace TermBot.Actor

variable {P R E S : Type}

/-- Where the message loop stands. -/
inductive Loop (P R E : Type) where
  /-- The loop does not run yet. -/
  | unborn
  /-- About to look into the mailbox. -/
  | look
  /-- Found the mailbox empty; about to take the wake-up token. -/
  | asleep
  /-- Took a message; about to mark the actor as running. -/
  | taken (m : Message P)
  /-- In the handler. -/
  | handling (m : Message P)
  /-- The handler returned; about to answer. -/
  | answering (m : Message P) (payload : Option R) (error : Option E)
  /-- About to mark the actor as idle. -/
  | resting
  /-- The handler panicked; about to mark the actor as failed. -/
  | crashed (m : Message P) (reason : String)
  /-- About to answer the message that made the handler panic. -/
  | apologising (m : Message P) (reason : String)
  /-- About to mark the actor as failed for good. -/
  | failing
  /-- About to close the mailbox after a failure. -/
  | closing
  /-- About to leave the token after closing. -/
  | waking
  /-- About to take all that is still queued. -/
  | emptying
  /-- Answering what was still queued. -/
  | refusing (queued : List (Message P))
  /-- About to end. -/
  | exiting
  /-- The loop has ended. -/
  | finished

/-- An actor; `S` is what its handler remembers. -/
structure Cell (P R E S : Type) where
  id : UInt32
  name : String
  memory : S
  state : State := .idle
  started : Bool := false
  mailbox : Mailbox (Message P) := {}
  loop : Loop P R E := .unborn
  processed : Nat := 0
  sessions : UInt32 := 0

/-- An answer on its way to the outlet of a message. -/
abbrev Answer (R E : Type) := Outlet × Response R E

namespace Cell

/-- The answer of this actor to a message. -/
def answer (c : Cell P R E S) (m : Message P) (payload : Option R) (failure : Option (Failure E)) :
    Answer R E :=
  (m.outlet, ⟨c.id, m.source, m.session, payload, failure⟩)

/-- Moves from one state to another, if the actor is in it. -/
def swap (c : Cell P R E S) (old new : State) : Cell P R E S :=
  if c.state = old then { c with state := new } else c

/-- One step of the message loop. The handler does not return while `held` says so. -/
def loopStep (handle : P → S → Outcome R E × S) (held : P → Bool) (c : Cell P R E S) :
    Option (Cell P R E S × Option (Answer R E)) :=
  match c.loop with
  | .unborn => none
  | .look =>
    match c.mailbox.pop with
    | (.item m, mb) => some ({ c with mailbox := mb, loop := .taken m }, none)
    | (.empty, mb) => some ({ c with mailbox := mb, loop := .asleep }, none)
    | (.finished, mb) => some ({ c with mailbox := mb, loop := .exiting }, none)
  | .asleep =>
    if c.mailbox.token then
      some ({ c with mailbox := { c.mailbox with token := false }, loop := .look }, none)
    else none
  | .taken m =>
    some ({ c.swap .idle .running with processed := c.processed + 1, loop := .handling m }, none)
  | .handling m =>
    if held m.payload then none
    else
      match handle m.payload c.memory with
      | (.returned p e, s) => some ({ c with memory := s, loop := .answering m p e }, none)
      | (.panicked reason, s) => some ({ c with memory := s, loop := .crashed m reason }, none)
  | .answering m p e => some ({ c with loop := .resting }, some (c.answer m p (e.map .handler)))
  | .resting => some ({ c.swap .running .idle with loop := .look }, none)
  | .crashed m reason => some ({ c with state := .failed, loop := .apologising m reason }, none)
  | .apologising m reason =>
    some ({ c with loop := .failing }, some (c.answer m none (some (.panicked c.id reason))))
  | .failing => some ({ c with state := .failed, loop := .closing }, none)
  | .closing => some ({ c with mailbox := c.mailbox.close, loop := .waking }, none)
  | .waking => some ({ c with mailbox := c.mailbox.wake, loop := .emptying }, none)
  | .emptying =>
    some ({ c with mailbox := c.mailbox.drain.2, loop := .refusing c.mailbox.drain.1 }, none)
  | .refusing [] => some ({ c with loop := .exiting }, none)
  | .refusing (m :: ms) =>
    some ({ c with loop := .refusing ms }, some (c.answer m none (some (.failed c.id))))
  | .exiting => some ({ c with loop := .finished }, none)
  | .finished => none

/-- The loop has ended. -/
def isDone (c : Cell P R E S) : Bool :=
  match c.loop with
  | .finished => true
  | _ => false

end Cell

/-- Where a caller of an actor stands. In the steps of stopping, `settle` says that the actor had not
failed before. -/
inductive Caller (P : Type) where
  /-- About to read the state before sending. -/
  | sendCheck (m : Message P)
  /-- About to append the message. -/
  | sendPush (m : Message P)
  /-- About to leave the token after appending. -/
  | sendWake
  /-- The mailbox refused; about to read the state again. -/
  | sendRefused
  /-- About to read the state before stopping. -/
  | stopCheck
  /-- About to mark the actor as stopping, if it is still as seen. -/
  | stopMark (seen : State)
  /-- About to close the mailbox. -/
  | stopClose (settle : Bool)
  /-- About to leave the token after closing. -/
  | stopWake (settle : Bool)
  /-- About to find out whether the loop was started. -/
  | stopWait (settle : Bool)
  /-- About to take what is queued for a loop that never ran. -/
  | stopDrain (settle : Bool)
  /-- Answering what was queued for a loop that never ran. -/
  | stopAnswer (settle : Bool) (queued : List (Message P))
  /-- Waiting for the end of the loop. -/
  | stopJoin (settle : Bool)
  /-- About to mark the actor as stopped. -/
  | stopSettle (settle : Bool)
  /-- About to mark the actor as started. -/
  | startMark
  /-- About to start the loop. -/
  | startSpawn
  /-- The operation has returned. -/
  | returned (result : Except Refusal Unit)

namespace Cell

/-- One step of a caller. -/
def callerStep (c : Cell P R E S) :
    Caller P → Option (Cell P R E S × Caller P × Option (Answer R E))
  | .sendCheck m =>
    match c.state with
    | .failed => some (c, .returned (.error (.failed c.id)), none)
    | .stopping => some (c, .returned (.error (.stopped c.id (some .stopping))), none)
    | .stopped => some (c, .returned (.error (.stopped c.id (some .stopped))), none)
    | .idle | .running =>
      if m.kind = .request && !m.outlet.hasRoom then
        some (c, .returned (.error .noReplySlot), none)
      else some (c, .sendPush m, none)
  | .sendPush m =>
    match c.mailbox.push m with
    | (true, mb) => some ({ c with mailbox := mb }, .sendWake, none)
    | (false, _) => some (c, .sendRefused, none)
  | .sendWake => some ({ c with mailbox := c.mailbox.wake }, .returned (.ok ()), none)
  | .sendRefused =>
    if c.state = .failed then some (c, .returned (.error (.failed c.id)), none)
    else some (c, .returned (.error (.stopped c.id none)), none)
  | .stopCheck =>
    match c.state with
    | .stopped => some (c, .returned (.ok ()), none)
    | .failed => some (c, .stopClose false, none)
    | s => some (c, .stopMark s, none)
  | .stopMark seen =>
    if c.state = seen then some ({ c with state := .stopping }, .stopClose true, none)
    else some (c, .stopCheck, none)
  | .stopClose settle => some ({ c with mailbox := c.mailbox.close }, .stopWake settle, none)
  | .stopWake settle => some ({ c with mailbox := c.mailbox.wake }, .stopWait settle, none)
  | .stopWait settle => some (c, if c.started then .stopJoin settle else .stopDrain settle, none)
  | .stopDrain settle =>
    some ({ c with mailbox := c.mailbox.drain.2 }, .stopAnswer settle c.mailbox.drain.1, none)
  | .stopAnswer settle [] => some (c, .stopSettle settle, none)
  | .stopAnswer settle (m :: ms) =>
    some (c, .stopAnswer settle ms, some (c.answer m none (some (.stopped c.id))))
  | .stopJoin settle => if c.isDone then some (c, .stopSettle settle, none) else none
  | .stopSettle settle =>
    some (if settle then c.swap .stopping .stopped else c, .returned (.ok ()), none)
  | .startMark =>
    if c.started then some (c, .returned (.error (.alreadyStarted c.id)), none)
    else some ({ c with started := true }, .startSpawn, none)
  | .startSpawn => some ({ c with loop := .look }, .returned (.ok ()), none)
  | .returned _ => none

end Cell

end TermBot.Actor
