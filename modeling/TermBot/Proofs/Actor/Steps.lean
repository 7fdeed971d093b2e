import TermBot.Proofs.Actor.Replies

/-!
# The steps of an actor and of its callers

What one atomic step does to the messages that an actor has accepted. A message is waiting until it is
decided on, in the handler or by its failure, and the answer is promised until it is given
(`Cell.waiting`, `Cell.promised`). A step of the loop passes, lets the handler begin, or decides on the
first of the waiting messages (`Cell.Progress`); a step of a caller adds at most one message to the waiting
ones (`Call.Moves`), since a stop that has begun finds the loop started and leaves all answers to it.
-/

namespace TermBot.Actor

variable {P R E S : Type}

/-- An operation of a caller: where it started and where it stands. -/
structure Call (P : Type) where
  start : Caller P
  now : Caller P

namespace Call

/-- The message that the call is to send. -/
def message? (k : Call P) : Option (Message P) :=
  match k.start with
  | .sendCheck m => some m
  | _ => none

/-- The call has sent its message: it has returned without an error, or has only the token to leave, after
which it does so (`callerStep_sendWake`). -/
def sent : Caller P → Bool
  | .sendWake => true
  | .returned (.ok _) => true
  | _ => false

/-- The message that a step of the call adds to the mailbox. -/
def pushed (k : Call P) (now : Caller P) : List (Message P) :=
  match k.now, now with
  | .sendPush m, .sendWake => [m]
  | _, _ => []

/-- The call is about to begin to stop the actor. -/
def beginsStop (k : Call P) : Bool :=
  match k.now with
  | .stopCheck => true
  | _ => false

/-- The message of a call that was accepted. -/
def accepted? (k : Call P) : Option (Message P) := if sent k.now then k.message? else none

end Call

namespace Loop

/-- The message that the loop is about to hand to the handler. -/
def reaching : Loop P R E → List (Message P)
  | .taken m => [m]
  | _ => []

/-- The loop has closed the mailbox, or found it closed. -/
def hasClosed : Loop P R E → Bool
  | .waking | .emptying | .refusing _ | .exiting | .finished => true
  | _ => false

/-- The loop has emptied the mailbox, or found it empty and closed. -/
def hasEmptied : Loop P R E → Bool
  | .refusing _ | .exiting | .finished => true
  | _ => false

end Loop

namespace Cell

/-- The accepted messages that are not decided on yet: what the loop has taken and what is queued. -/
def waiting (c : Cell P R E S) : List (Message P) :=
  (match c.loop with
    | .taken m | .handling m => [m]
    | .refusing ms => ms
    | _ => []) ++ c.mailbox.toList

/-- The answer that is decided on but not given yet. -/
def promised (c : Cell P R E S) : List (Answer R E) :=
  match c.loop with
  | .answering m payload error => [c.answer m payload (error.map .handler)]
  | .crashed m reason | .apologising m reason => [c.answer m none (some (.panicked c.id reason))]
  | _ => []

/-- The message that the handler is at. -/
def entered (c : Cell P R E S) : List (Message P) :=
  match c.loop with
  | .handling m => [m]
  | _ => []

theorem entered_isPrefix (c : Cell P R E S) : c.entered <+: c.waiting := by
  rw [entered, waiting]
  cases c.loop <;> simp

/-- What has become of the handler. At the end of the loop that does not matter any more. -/
def phase? (c : Cell P R E S) : Option (Phase S) :=
  match c.loop with
  | .crashed .. | .apologising .. | .failing | .closing | .waking | .emptying | .refusing _ => some .failed
  | .exiting | .finished => none
  | _ => some (.working c.memory)

/-- What the places of the loop say about the mailbox and the state. -/
structure WellFormed (c : Cell P R E S) : Prop where
  mailbox : c.mailbox.WellFormed
  closed : c.loop.hasClosed = true → c.mailbox.closed = true
  emptied : c.loop.hasEmptied = true → c.mailbox.toList = []
  stopped : c.state = .stopped → c.isDone = true

/-- A step in which new messages are accepted and promised answers are given. -/
structure Accepts (c c' : Cell P R E S) (new : List (Message P)) (given : List (Answer R E)) : Prop where
  waiting : c'.waiting = c.waiting ++ new
  promised : c.promised = given ++ c'.promised
  entered : c'.entered = c.entered
  phase : ∀ φ, c'.phase? = some φ → c.phase? = some φ

/-- What a step of the loop does to the messages. -/
inductive Progress (h : Handler P R E S) (c c' : Cell P R E S) (given : List (Answer R E)) : Prop where
  /-- At most a promised answer is given. -/
  | passes (none : c.loop.reaching = []) (accepts : c.Accepts c' [] given)
  /-- The handler begins with a message. -/
  | enters {m : Message P} {s : S} (here : c.loop.reaching = [m]) (phase : c.phase? = some (.working s))
      (kept : c'.phase? = c.phase?) (before : c.entered = []) (after : c'.entered = [m])
      (waiting : c'.waiting = c.waiting) (promised : c.promised = given ++ c'.promised)
  /-- The answer to the first of the waiting messages is decided on. -/
  | decides {m : Message P} {φ : Phase S} (none : c.loop.reaching = []) (phase : c.phase? = some φ)
      (next : ∀ φ', c'.phase? = some φ' → h.next φ m = φ') (first : c.waiting = m :: c'.waiting)
      (answer : given ++ c'.promised = c.promised ++ [(m.outlet, h.response c.id φ m)])
      (seen : h.reached φ c.entered = h.reached φ [m]) (left : c'.entered = [])

/-- The loop was started. -/
def isSpawned (c : Cell P R E S) : Bool :=
  match c.loop with
  | .unborn => false
  | _ => true

/-- What a step of the loop does. -/
structure Moves (h : Handler P R E S) (c c' : Cell P R E S) (a : Option (Answer R E)) : Prop where
  formed : c'.WellFormed
  id : c'.id = c.id
  started : c'.started = c.started
  spawned : c'.isSpawned = c.isSpawned
  running : c.isDone = false
  progress : c.Progress h c' a.toList

section Steps

variable {h : Handler P R E S} {c c' : Cell P R E S} {a : Option (Answer R E)}

theorem swap_eq (c : Cell P R E S) (old new : State) :
    c.swap old new = { c with state := if c.state = old then new else c.state } := by
  rw [Cell.swap]
  split <;> rfl

theorem swap_ne {old new state : State} (new_ne : new ≠ .stopped) (ne : state ≠ .stopped) :
    (if state = old then new else state) ≠ .stopped := by
  split <;> assumption

theorem WellFormed.not_stopped (formed : c.WellFormed) (runs : c.isDone = false) : c.state ≠ .stopped := by
  intro here
  rw [formed.stopped here] at runs
  cases runs

theorem WellFormed.of_open (mailbox : c.mailbox.WellFormed) (closed : c.loop.hasClosed = false)
    (emptied : c.loop.hasEmptied = false) (running : c.state ≠ .stopped) : c.WellFormed :=
  ⟨mailbox, by simp [closed], by simp [emptied], fun here => absurd here running⟩

/-- The loop looks into the mailbox, and takes the first message of the queue. -/
theorem WellFormed.lookStep (formed : c.WellFormed) (here : c.loop = .look)
    (step : c.loopStep h.run h.held = some (c', a)) : c.Moves h c' a := by
  obtain ⟨number, name, memory, state, started, mb, loop, processed, sessions⟩ := c
  obtain rfl : loop = .look := here
  have mailbox : mb.WellFormed := formed.mailbox
  have running := formed.not_stopped
  rw [Cell.loopStep] at step
  rcases popped : mb.pop with ⟨taken, mb'⟩
  cases taken with
  | item m =>
    simp only [popped, Option.some.injEq, Prod.mk.injEq] at step
    obtain ⟨rfl, rfl⟩ := step
    obtain ⟨queue, -, mailbox'⟩ := Mailbox.pop_item popped
    refine ⟨.of_open mailbox' rfl rfl (running rfl),
      rfl, rfl, rfl, rfl, .passes rfl ⟨?_, rfl, rfl, fun _ here => here⟩⟩
    simp [waiting, queue]
  | empty =>
    simp only [popped, Option.some.injEq, Prod.mk.injEq] at step
    obtain ⟨rfl, rfl⟩ := step
    obtain ⟨rfl, -, -⟩ := Mailbox.pop_nothing (.inl popped)
    exact ⟨.of_open mailbox rfl rfl (running rfl),
      rfl, rfl, rfl, rfl, .passes rfl ⟨by simp [waiting], rfl, rfl, fun _ here => here⟩⟩
  | finished =>
    simp only [popped, Option.some.injEq, Prod.mk.injEq] at step
    obtain ⟨rfl, rfl⟩ := step
    obtain ⟨rfl, queue, found⟩ := Mailbox.pop_nothing (.inr popped)
    exact ⟨⟨mailbox, fun _ => found popped, fun _ => queue, fun here => absurd here (running rfl)⟩,
      rfl, rfl, rfl, rfl, .passes rfl ⟨by simp [waiting], rfl, rfl, by simp [phase?]⟩⟩

/-- The handler returns, or panics. -/
theorem WellFormed.handlingStep {m : Message P} (formed : c.WellFormed) (here : c.loop = .handling m)
    (step : c.loopStep h.run h.held = some (c', a)) : c.Moves h c' a := by
  obtain ⟨number, name, memory, state, started, mb, loop, processed, sessions⟩ := c
  obtain rfl : loop = .handling m := here
  have mailbox : mb.WellFormed := formed.mailbox
  have running := formed.not_stopped
  rw [Cell.loopStep] at step
  simp only at step
  split at step
  · cases step
  · rcases run : h.run m.payload memory with ⟨outcome, memory'⟩
    cases outcome with
    | returned payload error =>
      simp only [run, Option.some.injEq, Prod.mk.injEq] at step
      obtain ⟨rfl, rfl⟩ := step
      refine ⟨.of_open mailbox rfl rfl (running rfl),
        rfl, rfl, rfl, rfl, .decides rfl rfl ?_ rfl ?_ rfl rfl⟩
      · rintro φ' ⟨⟩
        simp [Handler.next, run]
      · simp [promised, Handler.response, run, answer]
    | panicked reason =>
      simp only [run, Option.some.injEq, Prod.mk.injEq] at step
      obtain ⟨rfl, rfl⟩ := step
      refine ⟨.of_open mailbox rfl rfl (running rfl),
        rfl, rfl, rfl, rfl, .decides rfl rfl ?_ rfl ?_ rfl rfl⟩
      · rintro φ' ⟨⟩
        simp [Handler.next, run]
      · simp [promised, Handler.response, run, answer]

/-- A step of the loop. -/
theorem WellFormed.loopStep (formed : c.WellFormed) (step : c.loopStep h.run h.held = some (c', a)) :
    c.Moves h c' a := by
  obtain ⟨number, name, memory, state, started, mb, loop, processed, sessions⟩ := c
  have mailbox : mb.WellFormed := formed.mailbox
  have closed := formed.closed
  have emptied := formed.emptied
  have running := formed.not_stopped
  cases loop with
  | unborn | finished => simp [Cell.loopStep] at step
  | look => exact formed.lookStep rfl step
  | asleep =>
    cases token : mb.token with
    | false => simp [Cell.loopStep, token] at step
    | true =>
      simp only [Cell.loopStep, token, if_true, Option.some.injEq, Prod.mk.injEq] at step
      obtain ⟨rfl, rfl⟩ := step
      exact ⟨.of_open mailbox rfl rfl (running rfl),
        rfl, rfl, rfl, rfl, .passes rfl ⟨by simp [waiting, Mailbox.toList], rfl, rfl, fun _ here => here⟩⟩
  | taken m =>
    simp only [Cell.loopStep, swap_eq, Option.some.injEq, Prod.mk.injEq] at step
    obtain ⟨rfl, rfl⟩ := step
    refine ⟨.of_open mailbox rfl rfl ?_, rfl, rfl, rfl, rfl, .enters rfl rfl rfl rfl rfl rfl rfl⟩
    exact swap_ne (by simp) (running rfl)
  | handling m => exact formed.handlingStep rfl step
  | answering m p e =>
    simp only [Cell.loopStep, Option.some.injEq, Prod.mk.injEq] at step
    obtain ⟨rfl, rfl⟩ := step
    exact ⟨.of_open mailbox rfl rfl (running rfl),
      rfl, rfl, rfl, rfl, .passes rfl ⟨by simp [waiting], rfl, rfl, fun _ here => here⟩⟩
  | resting =>
    simp only [Cell.loopStep, swap_eq, Option.some.injEq, Prod.mk.injEq] at step
    obtain ⟨rfl, rfl⟩ := step
    refine ⟨.of_open mailbox rfl rfl ?_, rfl, rfl, rfl, rfl,
      .passes rfl ⟨by simp [waiting], rfl, rfl, fun _ here => here⟩⟩
    exact swap_ne (by simp) (running rfl)
  | crashed m r =>
    simp only [Cell.loopStep, Option.some.injEq, Prod.mk.injEq] at step
    obtain ⟨rfl, rfl⟩ := step
    exact ⟨.of_open mailbox rfl rfl (by simp), rfl, rfl, rfl, rfl,
      .passes rfl ⟨by simp [waiting], rfl, rfl, fun _ here => here⟩⟩
  | apologising m r =>
    simp only [Cell.loopStep, Option.some.injEq, Prod.mk.injEq] at step
    obtain ⟨rfl, rfl⟩ := step
    exact ⟨.of_open mailbox rfl rfl (running rfl),
      rfl, rfl, rfl, rfl, .passes rfl ⟨by simp [waiting], rfl, rfl, fun _ here => here⟩⟩
  | failing =>
    simp only [Cell.loopStep, Option.some.injEq, Prod.mk.injEq] at step
    obtain ⟨rfl, rfl⟩ := step
    exact ⟨.of_open mailbox rfl rfl (by simp), rfl, rfl, rfl, rfl,
      .passes rfl ⟨by simp [waiting], rfl, rfl, fun _ here => here⟩⟩
  | closing =>
    simp only [Cell.loopStep, Option.some.injEq, Prod.mk.injEq] at step
    obtain ⟨rfl, rfl⟩ := step
    exact ⟨⟨mailbox.close, fun _ => rfl, by simp [Loop.hasEmptied], fun here => absurd here (running rfl)⟩,
      rfl, rfl, rfl, rfl, .passes rfl ⟨by simp [waiting], rfl, rfl, fun _ here => here⟩⟩
  | waking =>
    simp only [Cell.loopStep, Option.some.injEq, Prod.mk.injEq] at step
    obtain ⟨rfl, rfl⟩ := step
    exact ⟨⟨mailbox.wake, fun _ => closed rfl, by simp [Loop.hasEmptied],
      fun here => absurd here (running rfl)⟩, rfl, rfl, rfl, rfl,
      .passes rfl ⟨by simp [waiting], rfl, rfl, fun _ here => here⟩⟩
  | emptying =>
    simp only [Cell.loopStep, Option.some.injEq, Prod.mk.injEq] at step
    obtain ⟨rfl, rfl⟩ := step
    refine ⟨⟨.drain, fun _ => closed rfl, fun _ => rfl, fun here => absurd here (running rfl)⟩,
      rfl, rfl, rfl, rfl, .passes rfl ⟨?_, rfl, rfl, fun _ here => here⟩⟩
    simp [waiting, Mailbox.drain, Mailbox.toList]
  | refusing ms =>
    cases ms with
    | nil =>
      simp only [Cell.loopStep, Option.some.injEq, Prod.mk.injEq] at step
      obtain ⟨rfl, rfl⟩ := step
      exact ⟨⟨mailbox, fun _ => closed rfl, fun _ => emptied rfl, fun here => absurd here (running rfl)⟩,
        rfl, rfl, rfl, rfl, .passes rfl ⟨by simp [waiting], rfl, rfl, by simp [phase?]⟩⟩
    | cons m ms =>
      simp only [Cell.loopStep, Option.some.injEq, Prod.mk.injEq] at step
      obtain ⟨rfl, rfl⟩ := step
      refine ⟨⟨mailbox, fun _ => closed rfl, fun _ => emptied rfl, fun here => absurd here (running rfl)⟩,
        rfl, rfl, rfl, rfl, .decides rfl rfl ?_ rfl rfl rfl rfl⟩
      rintro φ' ⟨⟩
      rfl
  | exiting =>
    simp only [Cell.loopStep, Option.some.injEq, Prod.mk.injEq] at step
    obtain ⟨rfl, rfl⟩ := step
    exact ⟨⟨mailbox, fun _ => closed rfl, fun _ => emptied rfl, fun _ => rfl⟩,
      rfl, rfl, rfl, rfl, .passes rfl ⟨by simp [waiting], rfl, rfl, fun _ here => here⟩⟩

end Steps

end Cell

/-- Where a call can stand. A stop that has begun found the actor started, and one that has returned, or is
about to, found its loop ended. -/
inductive Call.Fits (c : Cell P R E S) : Call P → Prop where
  | sendCheck {m : Message P} : Fits c ⟨.sendCheck m, .sendCheck m⟩
  | sendPush {m : Message P} : Fits c ⟨.sendCheck m, .sendPush m⟩
  | sendWake {m : Message P} : Fits c ⟨.sendCheck m, .sendWake⟩
  | sendRefused {m : Message P} : Fits c ⟨.sendCheck m, .sendRefused⟩
  | sendReturned {m : Message P} {r : Except Refusal Unit} : Fits c ⟨.sendCheck m, .returned r⟩
  | stopCheck : Fits c ⟨.stopCheck, .stopCheck⟩
  | stopMark {seen : State} (started : c.started = true) : Fits c ⟨.stopCheck, .stopMark seen⟩
  | stopClose {settle : Bool} (started : c.started = true) : Fits c ⟨.stopCheck, .stopClose settle⟩
  | stopWake {settle : Bool} (started : c.started = true) : Fits c ⟨.stopCheck, .stopWake settle⟩
  | stopWait {settle : Bool} (started : c.started = true) : Fits c ⟨.stopCheck, .stopWait settle⟩
  | stopJoin {settle : Bool} : Fits c ⟨.stopCheck, .stopJoin settle⟩
  | stopSettle {settle : Bool} (done : c.isDone = true) : Fits c ⟨.stopCheck, .stopSettle settle⟩
  | stopReturned (done : c.isDone = true) : Fits c ⟨.stopCheck, .returned (.ok ())⟩
  | startMark : Fits c ⟨.startMark, .startMark⟩
  | startSpawn : Fits c ⟨.startMark, .startSpawn⟩
  | startReturned {r : Except Refusal Unit} : Fits c ⟨.startMark, .returned r⟩

/-- The call has marked the actor as started and is about to start the loop. -/
def Call.isSpawning (k : Call P) : Bool :=
  match k.now with
  | .startSpawn => true
  | _ => false

/-- What a step of a call does. The third line says that there is one start of the loop at most. -/
structure Call.Moves (k : Call P) (c c' : Cell P R E S) (now : Caller P) (a : Option (Answer R E)) :
    Prop where
  formed : c'.WellFormed
  silent : a = none
  id : c'.id = c.id
  accepts : c.Accepts c' (k.pushed now) []
  fits : (Call.mk k.start now).Fits c'
  accepted : (Call.mk k.start now).accepted?.toList = k.accepted?.toList ++ k.pushed now
  started : c.started = true → c'.started = true
  done : c.isDone = true → c'.isDone = true
  spawns : (Call.mk k.start now).isSpawning.toNat + c'.isSpawned.toNat + c.started.toNat =
    k.isSpawning.toNat + c.isSpawned.toNat + c'.started.toNat

section Calls

variable {c c' : Cell P R E S} {k : Call P} {now : Caller P} {a : Option (Answer R E)}

theorem Call.Fits.mono (fits : k.Fits c) (started : c.started = true → c'.started = true)
    (done : c.isDone = true → c'.isDone = true) : k.Fits c' := by
  cases fits with
  | sendCheck => exact .sendCheck
  | sendPush => exact .sendPush
  | sendWake => exact .sendWake
  | sendRefused => exact .sendRefused
  | sendReturned => exact .sendReturned
  | stopCheck => exact .stopCheck
  | stopMark here => exact .stopMark (started here)
  | stopClose here => exact .stopClose (started here)
  | stopWake here => exact .stopWake (started here)
  | stopWait here => exact .stopWait (started here)
  | stopJoin => exact .stopJoin
  | stopSettle here => exact .stopSettle (done here)
  | stopReturned here => exact .stopReturned (done here)
  | startMark => exact .startMark
  | startSpawn => exact .startSpawn
  | startReturned => exact .startReturned

/-- A step that leaves the loop, what the handler remembers and what is queued as they are. -/
theorem Call.Moves.of_kept (formed : c'.WellFormed) (number : c'.id = c.id) (loop : c'.loop = c.loop)
    (memory : c'.memory = c.memory) (queue : c'.mailbox.toList = c.mailbox.toList)
    (started : c'.started = c.started) (pushed : k.pushed now = [])
    (fits : (Call.mk k.start now).Fits c') (accepted : (Call.mk k.start now).accepted? = k.accepted?)
    (spawns : (Call.mk k.start now).isSpawning = k.isSpawning) : k.Moves c c' now none where
  formed := formed
  silent := rfl
  id := number
  accepts := by
    rw [pushed]
    refine ⟨?_, ?_, ?_, fun φ here => ?_⟩
    · rw [Cell.waiting, Cell.waiting, loop, queue, List.append_nil]
    · simp only [Cell.promised, Cell.answer, loop, number, List.nil_append]
    · rw [Cell.entered, Cell.entered, loop]
    · rwa [Cell.phase?, loop, memory] at here
  fits := fits
  accepted := by rw [accepted, pushed, List.append_nil]
  started here := started.trans here
  done here := by rwa [Cell.isDone, loop]
  spawns := by rw [spawns, Cell.isSpawned, loop, started, Cell.isSpawned]

/-- A step that leaves the actor as it is. -/
theorem Call.Moves.of_same (formed : c.WellFormed) (pushed : k.pushed now = [])
    (fits : (Call.mk k.start now).Fits c) (accepted : (Call.mk k.start now).accepted? = k.accepted?)
    (spawns : (Call.mk k.start now).isSpawning = k.isSpawning) : k.Moves c c now none :=
  .of_kept formed rfl rfl rfl rfl rfl pushed fits accepted spawns

/-- The mailbox accepts the message: the loop has not closed it, and so has not emptied it either. -/
theorem Call.Moves.of_push {m : Message P} {mb : Mailbox (Message P)} (formed : c.WellFormed)
    (push : c.mailbox.push m = (true, mb)) :
    (Call.mk (.sendCheck m) (.sendPush m)).Moves c { c with mailbox := mb } .sendWake none := by
  obtain ⟨closed, -, queue, mailbox⟩ := Mailbox.push_accepted formed.mailbox push
  have unclosed : c.loop.hasClosed = false := by
    rw [Bool.eq_false_iff, ne_eq]
    intro here
    simp [formed.closed here] at closed
  have unemptied : c.loop.hasEmptied = false := by
    cases loop : c.loop <;> simp_all [Loop.hasClosed, Loop.hasEmptied]
  have running : c.isDone = false := by
    cases loop : c.loop <;> simp_all [Loop.hasClosed, Cell.isDone]
  exact {
    formed := .of_open mailbox unclosed unemptied (formed.not_stopped running)
    silent := rfl
    id := rfl
    accepts := ⟨by simp [Cell.waiting, queue, Call.pushed], rfl, rfl, fun _ here => here⟩
    fits := .sendWake
    accepted := rfl
    started := fun here => here
    done := fun here => here
    spawns := rfl }

/-- The actor is marked as started. -/
theorem Call.Moves.of_mark (formed : c.WellFormed) (unmarked : c.started = false) :
    (Call.mk (P := P) .startMark .startMark).Moves c { c with started := true } .startSpawn none where
  formed := ⟨formed.mailbox, formed.closed, formed.emptied, formed.stopped⟩
  silent := rfl
  id := rfl
  accepts := ⟨(List.append_nil _).symm, rfl, rfl, fun _ here => here⟩
  fits := .startSpawn
  accepted := rfl
  started _ := rfl
  done here := here
  spawns := by simp [Call.isSpawning, Cell.isSpawned, unmarked, Nat.add_comm]

/-- The loop is started. -/
theorem Call.Moves.of_spawn (formed : c.WellFormed) (unborn : c.loop = .unborn) :
    (Call.mk (P := P) .startMark .startSpawn).Moves c { c with loop := .look } (.returned (.ok ())) none := by
  have idle : c.isDone = false := by rw [Cell.isDone, unborn]
  exact {
    formed := .of_open formed.mailbox rfl rfl (formed.not_stopped idle)
    silent := rfl
    id := rfl
    accepts := by
      refine ⟨?_, ?_, ?_, fun φ here => ?_⟩
      · simp [Cell.waiting, unborn, Call.pushed]
      · simp [Cell.promised, unborn]
      · simp [Cell.entered, unborn]
      · simpa [Cell.phase?, unborn] using here
    fits := .startReturned
    accepted := rfl
    started := fun here => here
    done := fun here => by simp [idle] at here
    spawns := by simp [Call.isSpawning, Cell.isSpawned, unborn] }

/-- A step of a call. -/
theorem Call.Fits.step (fits : k.Fits c) (formed : c.WellFormed)
    (guard : k.beginsStop = true → c.started = true) (spawning : k.isSpawning = true → c.isSpawned = false)
    (step : c.callerStep k.now = some (c', now, a)) : k.Moves c c' now a := by
  cases fits with
  | @sendCheck m =>
    rw [Cell.callerStep] at step
    split at step
    · cases step
      exact .of_same formed rfl .sendReturned rfl rfl
    · cases step
      exact .of_same formed rfl .sendReturned rfl rfl
    · cases step
      exact .of_same formed rfl .sendReturned rfl rfl
    all_goals
      split at step
      · cases step
        exact .of_same formed rfl .sendReturned rfl rfl
      · cases step
        exact .of_same formed rfl .sendPush rfl rfl
  | @sendPush m =>
    rw [Cell.callerStep] at step
    rcases push : c.mailbox.push m with ⟨taken, mb⟩
    rw [push] at step
    cases taken with
    | false =>
      cases step
      exact .of_same formed rfl .sendRefused rfl rfl
    | true =>
      cases step
      exact .of_push formed push
  | sendWake =>
    cases step
    exact .of_kept ⟨formed.mailbox.wake, formed.closed, formed.emptied, formed.stopped⟩ rfl rfl rfl rfl rfl
      rfl .sendReturned rfl rfl
  | sendRefused =>
    rw [Cell.callerStep] at step
    split at step <;> cases step <;> exact .of_same formed rfl .sendReturned rfl rfl
  | sendReturned => cases step
  | stopCheck =>
    have started := guard rfl
    rw [Cell.callerStep] at step
    split at step
    · rename_i stopped
      cases step
      exact .of_same formed rfl (.stopReturned (formed.stopped stopped)) rfl rfl
    · cases step
      exact .of_same formed rfl (.stopClose started) rfl rfl
    · cases step
      exact .of_same formed rfl (.stopMark started) rfl rfl
  | stopMark started =>
    rw [Cell.callerStep] at step
    split at step
    · cases step
      exact .of_kept ⟨formed.mailbox, formed.closed, formed.emptied, by simp⟩ rfl rfl rfl rfl rfl rfl
        (.stopClose started) rfl rfl
    · cases step
      exact .of_same formed rfl .stopCheck rfl rfl
  | stopClose started =>
    cases step
    exact .of_kept ⟨formed.mailbox.close, fun _ => rfl, formed.emptied, formed.stopped⟩ rfl rfl rfl rfl rfl
      rfl (.stopWake started) rfl rfl
  | stopWake started =>
    cases step
    exact .of_kept ⟨formed.mailbox.wake, formed.closed, formed.emptied, formed.stopped⟩ rfl rfl rfl rfl rfl
      rfl (.stopWait started) rfl rfl
  | stopWait started =>
    rw [Cell.callerStep, if_pos started] at step
    cases step
    exact .of_same formed rfl .stopJoin rfl rfl
  | stopJoin =>
    rw [Cell.callerStep] at step
    split at step
    · rename_i done
      cases step
      exact .of_same formed rfl (.stopSettle done) rfl rfl
    · cases step
  | @stopSettle settle done =>
    cases settle with
    | false =>
      cases step
      exact .of_same formed rfl (.stopReturned done) rfl rfl
    | true =>
      rw [Cell.callerStep, Cell.swap_eq] at step
      cases step
      exact .of_kept ⟨formed.mailbox, formed.closed, formed.emptied, fun _ => done⟩ rfl rfl rfl rfl rfl rfl
        (.stopReturned done) rfl rfl
  | stopReturned => cases step
  | startMark =>
    rw [Cell.callerStep] at step
    split at step
    · cases step
      exact .of_same formed rfl .startReturned rfl rfl
    · rename_i unmarked
      cases step
      exact .of_mark formed (by simpa using unmarked)
  | startSpawn =>
    have unborn : c.loop = .unborn := by
      have here := spawning rfl
      cases loop : c.loop <;> simp_all [Cell.isSpawned]
    cases step
    exact .of_spawn formed unborn
  | startReturned => cases step

end Calls

end TermBot.Actor
