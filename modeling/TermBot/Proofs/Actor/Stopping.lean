import TermBot.Proofs.Actor.Interleaving

/-!
# What a stop leaves behind

Here a stop may come before the start of the actor, with it, or after it: `World.freeTurn`. A stop that finds
the actor started waits for the end of the loop; one that finds it not started empties the mailbox itself.
Whatever the order, a final state is not left but for a failure, and a failure is never left
(`State.Leads`).

An actor is over when its mailbox is closed and empty and its loop holds no message (`Cell.Over`). No step
takes it out of that. Every stop leaves the actor so, unless the loop takes a message while a stop that
found the actor not started is about to empty the mailbox (`World.collides`): the start came after the stop
had looked for it. Then the stop returns with the message still in the hands of the loop:
`stop_before_handling`.
-/

namespace TermBot.Actor

variable {P R E S : Type}

/-! ## States -/

namespace State

/-- The actor was stopped or has failed. -/
def isFinal : State → Bool
  | .stopped | .failed => true
  | _ => false

/-- What the state is once a stop has marked it or, as `settle` denies, has found the actor failed. -/
def Marked (s : State) (settle : Bool) : Prop :=
  s = .failed ∨ settle = true ∧ (s = .stopping ∨ s = .stopped)

/-- What a step of the loop or of a caller can make of the state. A stop marks only what is not final. -/
inductive Leads : State → State → Prop where
  | stays {s : State} : Leads s s
  | works : Leads .idle .running
  | rests : Leads .running .idle
  | fails {s : State} : Leads s .failed
  | marks {s : State} (live : s.isFinal = false) : Leads s .stopping
  | settles : Leads .stopping .stopped

variable {s s' : State} {settle : Bool}

theorem Marked.isFinal (marked : s.Marked settle) (ne : s ≠ .stopping) : s.isFinal = true := by
  rcases marked with rfl | ⟨-, rfl | rfl⟩
  · rfl
  · exact absurd rfl ne
  · rfl

theorem Leads.failed (leads : Leads .failed s) : s = .failed := by
  cases leads with
  | stays | fails => rfl
  | marks live => cases live

/-- What is stopped can only fail. -/
theorem Leads.of_final (leads : Leads s s') (final : s.isFinal = true) : s' = s ∨ s' = .failed := by
  cases leads with
  | stays => exact .inl rfl
  | fails => exact .inr rfl
  | works | rests | settles => cases final
  | marks live => simp [final] at live

theorem Leads.isFinal (leads : Leads s s') (final : s.isFinal = true) : s'.isFinal = true := by
  rcases leads.of_final final with rfl | rfl
  · exact final
  · rfl

theorem Leads.marked (leads : Leads s s') (marked : s.Marked settle) : s'.Marked settle := by
  rcases marked with rfl | ⟨rfl, rfl | rfl⟩
  · exact .inl leads.failed
  · cases leads with
    | stays => exact .inr ⟨rfl, .inl rfl⟩
    | fails => exact .inl rfl
    | marks => exact .inr ⟨rfl, .inl rfl⟩
    | settles => exact .inr ⟨rfl, .inr rfl⟩
  · cases leads with
    | stays => exact .inr ⟨rfl, .inr rfl⟩
    | fails => exact .inl rfl
    | marks live => cases live

end State

namespace Cell

variable {h : Handler P R E S} {c c' : Cell P R E S} {a : Option (Answer R E)}

theorem leads_swap {c : Cell P R E S} {old new : State} (leads : old.Leads new) :
    c.state.Leads (c.swap old new).state := by
  rw [swap]
  split
  · rename_i here
    rwa [here]
  · exact .stays

/-- The loop does not stop the actor. -/
theorem loopStep_leads (step : c.loopStep h.run h.held = some (c', a)) :
    c.state.Leads c'.state ∧ (c'.state = .stopped → c.state = .stopped) := by
  have kept : ∀ {s : State}, s = c.state → c.state.Leads s ∧ (s = .stopped → c.state = .stopped) := by
    rintro s rfl
    exact ⟨.stays, fun here => here⟩
  have swapped : ∀ {old new : State}, old.Leads new → new ≠ .stopped →
      c.state.Leads (c.swap old new).state ∧ ((c.swap old new).state = .stopped → c.state = .stopped) := by
    intro old new leads ne
    refine ⟨leads_swap leads, fun here => ?_⟩
    rw [swap] at here
    split at here
    · exact absurd here ne
    · exact here
  rw [Cell.loopStep] at step
  cases loop : c.loop with
  | unborn | finished => simp [loop] at step
  | look =>
    simp only [loop] at step
    split at step <;> cases step <;> exact kept rfl
  | asleep =>
    simp only [loop] at step
    split at step
    · cases step
      exact kept rfl
    · cases step
  | taken m =>
    simp only [loop] at step
    cases step
    exact swapped .works (by simp)
  | handling m =>
    simp only [loop] at step
    split at step
    · cases step
    · split at step <;> cases step <;> exact kept rfl
  | resting =>
    simp only [loop] at step
    cases step
    exact swapped .rests (by simp)
  | crashed | failing =>
    simp only [loop] at step
    cases step
    exact ⟨.fails, by simp⟩
  | refusing ms =>
    cases ms <;> simp only [loop] at step <;> cases step <;> exact kept rfl
  | answering | apologising | closing | waking | emptying | exiting =>
    simp only [loop] at step
    cases step
    exact kept rfl

end Cell

/-! ## Where a stop stands -/

namespace Caller

/-- The caller is about to stop the actor, or on the way. -/
def isStop : Caller P → Bool
  | .stopCheck | .stopMark _ | .stopClose _ | .stopWake _ | .stopWait _ | .stopDrain _ | .stopAnswer _ _
  | .stopJoin _ | .stopSettle _ => true
  | _ => false

/-- The caller has marked the actor as stopping, or has found it failed. -/
def settles? : Caller P → Option Bool
  | .stopClose b | .stopWake b | .stopWait b | .stopDrain b | .stopAnswer b _ | .stopJoin b
  | .stopSettle b => some b
  | _ => none

/-- The caller found the actor not started and is about to empty the mailbox. -/
def isDraining : Caller P → Bool
  | .stopDrain _ => true
  | _ => false

end Caller

/-- What is known of the state where a call stands. -/
inductive Call.Marks (s : State) : Call P → Prop where
  | other {start now : Caller P} (before : start.isStop = false) (here : now.isStop = false) :
    Marks s ⟨start, now⟩
  | stopCheck : Marks s ⟨.stopCheck, .stopCheck⟩
  | stopMark {seen : State} (live : seen.isFinal = false) : Marks s ⟨.stopCheck, .stopMark seen⟩
  | marked {now : Caller P} {settle : Bool} (here : now.settles? = some settle) (marked : s.Marked settle) :
    Marks s ⟨.stopCheck, now⟩
  | returned {r : Except Refusal Unit} (final : s.isFinal = true) : Marks s ⟨.stopCheck, .returned r⟩

section Marks

variable {c c' : Cell P R E S} {k : Call P} {now : Caller P} {a : Option (Answer R E)} {s s' : State}

theorem Call.Marks.mono (marks : k.Marks s) (leads : s.Leads s') : k.Marks s' := by
  cases marks with
  | other before here => exact .other before here
  | stopCheck => exact .stopCheck
  | stopMark live => exact .stopMark live
  | marked here marked => exact .marked here (leads.marked marked)
  | returned final => exact .returned (leads.isFinal final)

/-- A caller changes the state as it may, and knows the state where it then stands. -/
theorem Call.Marks.step (marks : k.Marks c.state) (step : c.callerStep k.now = some (c', now, a)) :
    c.state.Leads c'.state ∧ (Call.mk k.start now).Marks c'.state := by
  cases marks with
  | @other start here before now =>
    cases here with
    | sendCheck m =>
      rw [Cell.callerStep] at step
      split at step <;> try split at step
      all_goals
        cases step
        exact ⟨.stays, .other before rfl⟩
    | sendPush m =>
      rw [Cell.callerStep] at step
      split at step <;> cases step <;> exact ⟨.stays, .other before rfl⟩
    | sendRefused | startMark =>
      rw [Cell.callerStep] at step
      split at step <;> cases step <;> exact ⟨.stays, .other before rfl⟩
    | sendWake | startSpawn =>
      cases step
      exact ⟨.stays, .other before rfl⟩
    | returned r => cases step
    | _ => cases now
  | stopCheck =>
    rw [Cell.callerStep] at step
    split at step
    · rename_i stopped
      cases step
      exact ⟨.stays, .returned (by rw [stopped]; rfl)⟩
    · rename_i failed
      cases step
      exact ⟨.stays, .marked rfl (.inl failed)⟩
    · rename_i ne ne'
      cases step
      refine ⟨.stays, .stopMark ?_⟩
      cases state : c.state <;> first | rfl | exact absurd state ‹_›
  | @stopMark seen live =>
    rw [Cell.callerStep] at step
    split at step
    · rename_i same
      cases step
      exact ⟨.marks (same ▸ live), .marked rfl (.inr ⟨rfl, .inl rfl⟩)⟩
    · cases step
      exact ⟨.stays, .stopCheck⟩
  | @marked here settle place marked =>
    cases here with
    | stopClose | stopWake | stopDrain =>
      cases step
      cases place
      exact ⟨.stays, .marked rfl marked⟩
    | stopWait =>
      rw [Cell.callerStep] at step
      cases step
      cases place
      split
      · exact ⟨.stays, .marked rfl marked⟩
      · exact ⟨.stays, .marked rfl marked⟩
    | stopAnswer b queued =>
      cases place
      cases queued <;> cases step <;> exact ⟨.stays, .marked rfl marked⟩
    | stopJoin =>
      rw [Cell.callerStep] at step
      cases place
      split at step
      · cases step
        exact ⟨.stays, .marked rfl marked⟩
      · cases step
    | stopSettle =>
      cases place
      cases settle with
      | false =>
        cases step
        refine ⟨.stays, .returned (marked.isFinal fun stopping => ?_)⟩
        rcases marked with failed | ⟨settles, -⟩
        · rw [failed] at stopping
          cases stopping
        · cases settles
      | true =>
        cases step
        rw [if_pos rfl, Cell.swap]
        split
        · rename_i stopping
          exact ⟨stopping ▸ .settles, .returned rfl⟩
        · rename_i ne
          exact ⟨.stays, .returned (marked.isFinal ne)⟩
    | _ => cases place
  | returned => cases step

end Marks

/-! ## The end of an actor -/

/-- The loop holds no message and no failure. -/
def Loop.isIdle : Loop P R E → Bool
  | .unborn | .look | .asleep | .exiting | .finished => true
  | _ => false

/-- Nothing comes in, nothing is queued, and the loop is at nothing. -/
structure Cell.Over (c : Cell P R E S) : Prop where
  closed : c.mailbox.closed = true
  empty : c.mailbox.toList = []
  idle : c.loop.isIdle = true

/-- What the places of the loop say about the mailbox and the start, whatever the state. -/
structure Cell.Sane (c : Cell P R E S) : Prop where
  closed : c.loop.hasClosed = true → c.mailbox.closed = true
  emptied : c.loop.hasEmptied = true → c.mailbox.toList = []
  unborn : c.started = false → c.loop = .unborn

namespace Cell

variable {h : Handler P R E S} {c c' : Cell P R E S} {k : Call P} {now : Caller P} {a : Option (Answer R E)}

theorem Over.entered (isOver : c.Over) : c.entered = [] := by
  have idle := isOver.idle
  rw [Cell.entered]
  cases loop : c.loop <;> simp_all [Loop.isIdle]

theorem Sane.isOver (sane : c.Sane) (done : c.isDone = true) : c.Over := by
  have finished : c.loop = .finished := by
    rw [isDone] at done
    split at done
    · assumption
    · cases done
  exact ⟨sane.closed (by rw [finished]; rfl), sane.emptied (by rw [finished]; rfl), by rw [finished]; rfl⟩

/-- The loop is about to take a message. -/
def takes (c : Cell P R E S) : Bool :=
  match c.loop with
  | .look => !c.mailbox.toList.isEmpty
  | _ => false

/-- A loop that holds no message and takes none only looks into the mailbox. -/
theorem idle_loopStep (idle : c.loop.isIdle = true) (calm : c.takes = false)
    (step : c.loopStep h.run h.held = some (c', a)) :
    c'.loop.isIdle = true ∧ c'.mailbox.closed = c.mailbox.closed ∧ c'.mailbox.toList = c.mailbox.toList ∧
      c'.state = c.state ∧ c.loop.reaching = [] := by
  rw [Cell.loopStep] at step
  cases loop : c.loop with
  | unborn | finished => simp [loop] at step
  | look =>
    rcases popped : c.mailbox.pop with ⟨taken, mb⟩
    simp only [loop, popped] at step
    cases taken with
    | item m =>
      obtain ⟨queue, -⟩ := Mailbox.pop_item popped
      simp [takes, loop, queue] at calm
    | empty =>
      obtain ⟨rfl, -⟩ := Mailbox.pop_nothing (.inl popped)
      cases step
      exact ⟨rfl, rfl, rfl, rfl, rfl⟩
    | finished =>
      obtain ⟨rfl, -⟩ := Mailbox.pop_nothing (.inr popped)
      cases step
      exact ⟨rfl, rfl, rfl, rfl, rfl⟩
  | asleep =>
    simp only [loop] at step
    split at step
    · cases step
      exact ⟨rfl, rfl, rfl, rfl, rfl⟩
    · cases step
  | exiting =>
    simp only [loop] at step
    cases step
    exact ⟨rfl, rfl, rfl, rfl, rfl⟩
  | _ => simp [loop, Loop.isIdle] at idle

theorem Over.takes (isOver : c.Over) : c.takes = false := by
  rw [Cell.takes]
  split
  · simp [isOver.empty]
  · rfl

/-- The loop of an actor that is over only goes on to its end. -/
theorem Over.loopStep (isOver : c.Over) (step : c.loopStep h.run h.held = some (c', a)) :
    c'.Over ∧ c'.state = c.state ∧ c.loop.reaching = [] := by
  obtain ⟨idle, closed, queue, state, none⟩ := idle_loopStep isOver.idle isOver.takes step
  exact ⟨⟨closed.trans isOver.closed, queue.trans isOver.empty, idle⟩, state, none⟩

theorem Sane.started (sane : c.Sane) (spawned : c.loop ≠ .unborn) : c.started = true := by
  by_contra unmarked
  exact spawned (sane.unborn (Bool.eq_false_iff.2 unmarked))

theorem Sane.loopStep (sane : c.Sane) (step : c.loopStep h.run h.held = some (c', a)) :
    c'.Sane ∧ c'.started = c.started ∧ (c.mailbox.closed = true → c'.mailbox.closed = true) := by
  have started : c.started = true := by
    refine sane.started fun unborn => ?_
    simp [Cell.loopStep, unborn] at step
  -- what is left to say is what the loop has done to the mailbox, where it says that it did
  have by_places : c'.started = c.started → (c.mailbox.closed = true → c'.mailbox.closed = true) →
      (c'.loop.hasClosed = true → c'.mailbox.closed = true) →
      (c'.loop.hasEmptied = true → c'.mailbox.toList = []) →
      c'.Sane ∧ c'.started = c.started ∧ (c.mailbox.closed = true → c'.mailbox.closed = true) := by
    intro same kept closed emptied
    exact ⟨⟨closed, emptied, fun unmarked => by simp [same, started] at unmarked⟩, same, kept⟩
  have closed := sane.closed
  have emptied := sane.emptied
  rw [Cell.loopStep] at step
  cases loop : c.loop with
  | unborn | finished => simp [loop] at step
  | look =>
    rcases popped : c.mailbox.pop with ⟨taken, mb⟩
    simp only [loop, popped] at step
    cases taken with
    | item m =>
      obtain ⟨-, same, -⟩ := Mailbox.pop_item popped
      cases step
      exact by_places rfl same.trans (by simp [Loop.hasClosed]) (by simp [Loop.hasEmptied])
    | empty =>
      obtain ⟨rfl, -⟩ := Mailbox.pop_nothing (.inl popped)
      cases step
      exact by_places rfl (fun here => here) (by simp [Loop.hasClosed]) (by simp [Loop.hasEmptied])
    | finished =>
      obtain ⟨rfl, empty, found⟩ := Mailbox.pop_nothing (.inr popped)
      cases step
      exact by_places rfl (fun here => here) (fun _ => found popped) (fun _ => empty)
  | asleep =>
    simp only [loop] at step
    split at step
    · cases step
      exact by_places rfl (fun here => here) (by simp [Loop.hasClosed]) (by simp [Loop.hasEmptied])
    · cases step
  | handling m =>
    simp only [loop] at step
    split at step
    · cases step
    · split at step <;> cases step <;>
        exact by_places rfl (fun here => here) (by simp [Loop.hasClosed]) (by simp [Loop.hasEmptied])
  | taken | resting =>
    simp only [loop, swap_eq] at step
    cases step
    exact by_places rfl (fun here => here) (by simp [Loop.hasClosed]) (by simp [Loop.hasEmptied])
  | answering | crashed | apologising | failing =>
    simp only [loop] at step
    cases step
    exact by_places rfl (fun here => here) (by simp [Loop.hasClosed]) (by simp [Loop.hasEmptied])
  | closing =>
    simp only [loop] at step
    cases step
    exact by_places rfl (fun _ => rfl) (fun _ => rfl) (by simp [Loop.hasEmptied])
  | waking =>
    rw [loop] at closed
    simp only [loop] at step
    cases step
    exact by_places rfl (fun here => here) (fun _ => closed rfl) (by simp [Loop.hasEmptied])
  | emptying =>
    rw [loop] at closed
    simp only [loop] at step
    cases step
    exact by_places rfl (fun here => here) (fun _ => closed rfl) (fun _ => rfl)
  | refusing ms =>
    rw [loop] at closed emptied
    cases ms <;> simp only [loop] at step <;> cases step <;>
      exact by_places rfl (fun here => here) (fun _ => closed rfl) (fun _ => emptied rfl)
  | exiting =>
    rw [loop] at closed emptied
    simp only [loop] at step
    cases step
    exact by_places rfl (fun here => here) (fun _ => closed rfl) (fun _ => emptied rfl)

/-- What a step of a caller does to the actor. -/
inductive Changes (c : Cell P R E S) : Caller P → Cell P R E S → Prop where
  | nothing {caller : Caller P} : Changes c caller c
  | push {m : Message P} {mb : Mailbox (Message P)} (pushed : c.mailbox.push m = (true, mb)) :
    Changes c (.sendPush m) { c with mailbox := mb }
  | wake {caller : Caller P} : Changes c caller { c with mailbox := c.mailbox.wake }
  | close {settle : Bool} : Changes c (.stopClose settle) { c with mailbox := c.mailbox.close }
  | drain {settle : Bool} : Changes c (.stopDrain settle) { c with mailbox := c.mailbox.drain.2 }
  | mark {seen : State} (here : c.state = seen) : Changes c (.stopMark seen) { c with state := .stopping }
  | settle (here : c.state = .stopping) : Changes c (.stopSettle true) { c with state := .stopped }
  | start : Changes c .startMark { c with started := true }
  | spawn : Changes c .startSpawn { c with loop := .look }

theorem callerStep_changes {caller : Caller P} (step : c.callerStep caller = some (c', now, a)) :
    c.Changes caller c' := by
  cases caller with
  | sendCheck m =>
    rw [Cell.callerStep] at step
    split at step <;> try split at step
    all_goals
      cases step
      exact .nothing
  | sendPush m =>
    rcases push : c.mailbox.push m with ⟨taken, mb⟩
    rw [Cell.callerStep, push] at step
    cases taken <;> cases step
    · exact .nothing
    · exact .push push
  | stopMark seen =>
    rw [Cell.callerStep] at step
    split at step <;> cases step
    · exact .mark ‹_›
    · exact .nothing
  | stopAnswer settle queued => cases queued <;> cases step <;> exact .nothing
  | stopSettle settle =>
    cases settle <;> cases step
    · exact .nothing
    · rw [if_pos rfl, swap]
      split
      · exact .settle ‹_›
      · exact .nothing
  | startMark =>
    rw [Cell.callerStep] at step
    split at step <;> cases step
    · exact .nothing
    · exact .start
  | sendRefused | stopCheck | stopWait | stopJoin =>
    rw [Cell.callerStep] at step
    split at step <;> cases step <;> exact .nothing
  | sendWake | stopWake =>
    cases step
    exact .wake
  | stopClose =>
    cases step
    exact .close
  | stopDrain =>
    cases step
    exact .drain
  | startSpawn =>
    cases step
    exact .spawn
  | returned => cases step

/-- What no caller takes back: the mailbox is not opened again, nothing gets into a closed one, and the loop
is given no message. -/
structure Keeps (c c' : Cell P R E S) : Prop where
  closed (here : c.mailbox.closed = true) : c'.mailbox.closed = true
  empty (here : c.mailbox.closed = true) (none : c.mailbox.toList = []) : c'.mailbox.toList = []
  idle (here : c.loop.isIdle = true) : c'.loop.isIdle = true
  started (here : c.started = true) : c'.started = true

theorem Keeps.isOver (keeps : c.Keeps c') (isOver : c.Over) : c'.Over :=
  ⟨keeps.closed isOver.closed, keeps.empty isOver.closed isOver.empty, keeps.idle isOver.idle⟩

section Changes

variable {caller : Caller P}

theorem Changes.keeps (changes : c.Changes caller c') : c.Keeps c' := by
  cases changes with
  | push pushed =>
    have opened : c.mailbox.closed ≠ true := by
      intro closed
      simp [Mailbox.push, closed] at pushed
    exact ⟨fun here => absurd here opened, fun here => absurd here opened, fun here => here, fun here => here⟩
  | close => exact ⟨fun _ => rfl, fun _ none => none, fun here => here, fun here => here⟩
  | drain => exact ⟨fun here => here, fun _ _ => rfl, fun here => here, fun here => here⟩
  | start => exact ⟨fun here => here, fun _ none => none, fun here => here, fun _ => rfl⟩
  | spawn => exact ⟨fun here => here, fun _ none => none, fun _ => rfl, fun here => here⟩
  | _ => exact ⟨fun here => here, fun _ none => none, fun here => here, fun here => here⟩

/-- A caller starts the loop, or leaves it where it is. -/
theorem Changes.loop (changes : c.Changes caller c') :
    c'.loop = c.loop ∨ caller = .startSpawn ∧ c'.loop = .look := by
  cases changes with
  | spawn => exact .inr ⟨rfl, rfl⟩
  | _ => exact .inl rfl

/-- Only a stop that is about to return stops the actor. -/
theorem Changes.stopped (changes : c.Changes caller c') (stopped : c'.state = .stopped) :
    c.state = .stopped ∨ ∃ settle, caller = .stopSettle settle := by
  cases changes with
  | settle => exact .inr ⟨_, rfl⟩
  | mark => cases stopped
  | _ => exact .inl stopped

/-- No caller makes the actor fail. -/
theorem Changes.failed (changes : c.Changes caller c') (failed : c'.state = .failed) : c.state = .failed := by
  cases changes with
  | mark | settle => cases failed
  | _ => exact failed

end Changes

end Cell

/-- What is known of the mailbox and the loop where a call stands. -/
def Call.Clears (c : Cell P R E S) (k : Call P) : Prop :=
  match k.now with
  | .stopWake _ | .stopWait _ => c.mailbox.closed = true
  | .stopDrain _ => c.mailbox.closed = true ∧ c.loop.isIdle = true
  | .stopAnswer .. | .stopSettle _ => c.Over
  | .startSpawn => c.started = true
  | .returned _ => k.start = .stopCheck → c.Over
  | _ => True

section Clears

variable {c c' : Cell P R E S} {k : Call P} {now : Caller P} {a : Option (Answer R E)} {s : State}

theorem Call.Marks.now_of_stop (marks : k.Marks s) (start : k.start = .stopCheck) :
    k.now.isStop = true ∨ ∃ r, k.now = .returned r := by
  cases marks with
  | other before =>
    cases start
    cases before
  | stopCheck | stopMark => exact .inl rfl
  | @marked now settle here =>
    refine .inl ?_
    cases now <;> first | rfl | cases here
  | returned => exact .inr ⟨_, rfl⟩

theorem Call.Marks.final {r : Except Refusal Unit} (marks : k.Marks s) (start : k.start = .stopCheck)
    (returned : k.now = .returned r) : s.isFinal = true := by
  cases marks with
  | other before =>
    cases start
    cases before
  | stopCheck | stopMark => cases returned
  | marked here =>
    cases returned
    cases here
  | returned final => exact final

theorem Call.Clears.mono (clears : k.Clears c)
    (closed : c.mailbox.closed = true → c'.mailbox.closed = true) (isOver : c.Over → c'.Over)
    (started : c.started = true → c'.started = true)
    (idle : k.now.isDraining = true → c.loop.isIdle = true → c'.loop.isIdle = true) : k.Clears c' := by
  obtain ⟨start, now⟩ := k
  cases now with
  | stopWake | stopWait => exact closed clears
  | stopDrain => exact ⟨closed clears.1, idle rfl clears.2⟩
  | stopAnswer | stopSettle => exact isOver clears
  | startSpawn => exact started clears
  | returned => exact fun stop => isOver (clears stop)
  | _ => trivial

theorem Cell.Sane.callerStep (sane : c.Sane) (clears : k.Clears c)
    (step : c.callerStep k.now = some (c', now, a)) : c'.Sane := by
  have keeps := (Cell.callerStep_changes step).keeps
  rcases (Cell.callerStep_changes step).loop with same | ⟨spawn, look⟩
  · refine ⟨fun here => ?_, fun here => ?_, fun unmarked => ?_⟩
    · exact keeps.closed (sane.closed (same ▸ here))
    · rw [same] at here
      have closed : c.loop.hasClosed = true := by
        cases loop : c.loop <;> simp_all [Loop.hasClosed, Loop.hasEmptied]
      exact keeps.empty (sane.closed closed) (sane.emptied here)
    · rw [same]
      refine sane.unborn (Bool.eq_false_iff.2 fun started => ?_)
      simp [keeps.started started] at unmarked
  · rw [Call.Clears, spawn] at clears
    refine ⟨by simp [look, Loop.hasClosed], by simp [look, Loop.hasEmptied], fun unmarked => ?_⟩
    simp [keeps.started clears] at unmarked

/-- A step of a call. A stop that finds the actor not started finds the loop unborn, and one that finds the
loop at its end finds the mailbox closed and empty. -/
theorem Call.Clears.step (clears : k.Clears c) (marks : k.Marks c.state) (sane : c.Sane)
    (isOver : c.state = .stopped → c.Over) (step : c.callerStep k.now = some (c', now, a)) :
    (Call.mk k.start now).Clears c' ∧ (c'.state = .stopped → c'.Over) := by
  have keeps := (Cell.callerStep_changes step).keeps
  have stop := marks.now_of_stop
  refine ⟨?_, fun stopped => ?_⟩
  · obtain ⟨start, here⟩ := k
    -- a stop is not on the way of a send or of a start
    have elsewhere : here.isStop = false → (∀ r, here ≠ .returned r) → start ≠ .stopCheck := by
      intro other ne begins
      rcases stop begins with there | ⟨r, there⟩
      · simp [other] at there
      · exact ne r there
    cases here with
    | sendCheck m =>
      rw [Cell.callerStep] at step
      split at step <;> try split at step
      all_goals
        cases step
        first | trivial | exact fun begins => absurd begins (elsewhere rfl (by simp))
    | sendPush m =>
      rw [Cell.callerStep] at step
      split at step <;> cases step <;> trivial
    | sendWake | startSpawn =>
      cases step
      exact fun begins => absurd begins (elsewhere rfl (by simp))
    | sendRefused =>
      rw [Cell.callerStep] at step
      split at step <;> cases step <;> exact fun begins => absurd begins (elsewhere rfl (by simp))
    | startMark =>
      rw [Cell.callerStep] at step
      split at step <;> cases step
      · exact fun begins => absurd begins (elsewhere rfl (by simp))
      · exact (rfl : true = true)
    | stopCheck =>
      rw [Cell.callerStep] at step
      split at step
      · rename_i stopped
        cases step
        exact fun _ => isOver stopped
      · cases step
        trivial
      · cases step
        trivial
    | stopMark seen =>
      rw [Cell.callerStep] at step
      split at step <;> cases step <;> trivial
    | stopClose settle =>
      cases step
      exact (rfl : true = true)
    | stopWake settle =>
      cases step
      exact clears
    | stopWait settle =>
      rw [Cell.callerStep] at step
      cases step
      split
      · trivial
      · rename_i unmarked
        exact ⟨clears, by rw [sane.unborn (Bool.eq_false_iff.2 unmarked)]; rfl⟩
    | stopDrain settle =>
      cases step
      exact ⟨clears.1, rfl, clears.2⟩
    | stopAnswer settle queued =>
      cases queued <;> cases step <;> exact clears
    | stopJoin settle =>
      rw [Cell.callerStep] at step
      split at step
      · rename_i done
        cases step
        exact sane.isOver done
      · cases step
    | stopSettle settle =>
      cases step
      exact fun _ => keeps.isOver clears
    | returned => cases step
  · rcases (Cell.callerStep_changes step).stopped stopped with before | ⟨settle, here⟩
    · exact keeps.isOver (isOver before)
    · rw [Call.Clears, here] at clears
      exact keeps.isOver clears

end Clears

/-! ## Every order of starts, stops and sends -/

namespace World

/-- One turn. Unlike in `World.turn`, a stop may begin whether the actor is started or not. -/
def freeTurn (h : Handler P R E S) (w : World P R E S) : Turn → Option (World P R E S)
  | .loop => w.turn h .loop
  | .call i => do
    let k ← w.calls[i]?
    let (c, now, a) ← w.cell.callerStep k.now
    return { w.answer c a with
      calls := w.calls.set i ⟨k.start, now⟩
      accepted := w.accepted ++ k.pushed now }

/-- The turns of a schedule, all of which can be taken. -/
def playFreely (h : Handler P R E S) (w : World P R E S) (schedule : List Turn) : Option (World P R E S) :=
  schedule.foldlM (freeTurn h) w

/-- Nothing has happened yet: the actor is not started, and each call is about to stop it, to start it or to
send a message. -/
structure Begins (w : World P R E S) : Prop where
  cell : w.cell = { id := w.cell.id, name := w.cell.name, memory := w.cell.memory }
  calls : ∀ k ∈ w.calls, k.now = k.start ∧
    (k.start = .stopCheck ∨ k.start = .startMark ∨ ∃ m, k.start = .sendCheck m)

/-- The turn lets the loop take a message while a stop that found the actor not started is about to empty
the mailbox. -/
def collides (w : World P R E S) : Turn → Bool
  | .loop => w.cell.takes && w.calls.any (·.now.isDraining)
  | .call _ => false

/-- No turn of the schedule collides with a stop. -/
def orderly (h : Handler P R E S) (w : World P R E S) : List Turn → Bool
  | [] => true
  | t :: rest => !w.collides t && (w.freeTurn h t).all (orderly h · rest)

/-- What is known of the state in every world. -/
def Marks (w : World P R E S) : Prop := ∀ k ∈ w.calls, k.Marks w.cell.state

/-- What is known of the mailbox and the loop as long as no turn collides with a stop. -/
structure Clears (w : World P R E S) : Prop where
  sane : w.cell.Sane
  isOver : w.cell.state = .stopped → w.cell.Over
  calls : ∀ k ∈ w.calls, k.Clears w.cell

variable {h : Handler P R E S} {w w' : World P R E S} {schedule : List Turn} {t : Turn}

/-- What a turn is: a step of the loop, or a step of a call that is then where the step has taken it. -/
theorem freeTurn_cases (step : w.freeTurn h t = some w') :
    (∃ a, t = .loop ∧ w.cell.loopStep h.run h.held = some (w'.cell, a) ∧ w'.calls = w.calls ∧
      w'.handled = w.handled ++ w.cell.loop.reaching) ∨
    ∃ i k now a, t = .call i ∧ w.calls[i]? = some k ∧ w.cell.callerStep k.now = some (w'.cell, now, a) ∧
      w'.calls = w.calls.set i ⟨k.start, now⟩ ∧ w'.handled = w.handled := by
  cases t with
  | loop =>
    obtain ⟨⟨c, a⟩, move, done⟩ := Option.bind_eq_some_iff.1 step
    cases done
    exact .inl ⟨a, rfl, move, rfl, rfl⟩
  | call i =>
    obtain ⟨k, here, rest⟩ := Option.bind_eq_some_iff.1 step
    obtain ⟨⟨c, now, a⟩, move, done⟩ := Option.bind_eq_some_iff.1 rest
    cases done
    exact .inr ⟨i, k, now, a, rfl, here, move, rfl, rfl⟩

/-- What every turn keeps, every run keeps. -/
theorem playFreely_keeps (keeps : World P R E S → Prop)
    (turn : ∀ w w' t, keeps w → freeTurn h w t = some w' → keeps w')
    (start : keeps w) (played : w.playFreely h schedule = some w') : keeps w' := by
  induction schedule generalizing w with
  | nil =>
    cases played
    exact start
  | cons t schedule ih =>
    rw [playFreely, List.foldlM_cons] at played
    obtain ⟨w₁, step, rest⟩ := Option.bind_eq_some_iff.1 played
    exact ih (turn w w₁ t start step) rest

theorem Begins.marks (begins : w.Begins) : w.Marks := by
  intro k mem
  obtain ⟨same, kind⟩ := begins.calls k mem
  obtain ⟨start, now⟩ := k
  cases same
  rcases kind with rfl | rfl | ⟨m, rfl⟩
  · exact .stopCheck
  · exact .other rfl rfl
  · exact .other rfl rfl

theorem Begins.clears (begins : w.Begins) : w.Clears := by
  have cell := begins.cell
  refine ⟨⟨?_, ?_, ?_⟩, ?_, fun k mem => ?_⟩
  · rw [cell]; simp [Loop.hasClosed]
  · rw [cell]; simp [Loop.hasEmptied]
  · rw [cell]; simp
  · rw [cell]; simp
  · obtain ⟨same, kind⟩ := begins.calls k mem
    obtain ⟨start, now⟩ := k
    cases same
    rcases kind with rfl | rfl | ⟨m, rfl⟩ <;> trivial

/-- A turn leads the state on, and the calls know it. -/
theorem Marks.turn (marks : w.Marks) (step : w.freeTurn h t = some w') :
    w'.Marks ∧ w.cell.state.Leads w'.cell.state := by
  rcases freeTurn_cases step with ⟨a, -, move, calls, -⟩ | ⟨i, k, now, a, -, here, move, calls, -⟩
  · obtain ⟨leads, -⟩ := Cell.loopStep_leads move
    exact ⟨fun k mem => (marks k (calls ▸ mem)).mono leads, leads⟩
  · obtain ⟨leads, next⟩ := (marks k (List.mem_of_getElem? here)).step move
    refine ⟨fun k' mem => ?_, leads⟩
    rcases List.mem_or_eq_of_mem_set (calls ▸ mem) with old | rfl
    · exact (marks k' old).mono leads
    · exact next

/-- A turn that does not collide with a stop. -/
theorem Clears.turn (clears : w.Clears) (marks : w.Marks) (calm : w.collides t = false)
    (step : w.freeTurn h t = some w') : w'.Clears := by
  rcases freeTurn_cases step with ⟨a, rfl, move, calls, -⟩ | ⟨i, k, now, a, -, here, move, calls, -⟩
  · obtain ⟨sane, started, closed⟩ := clears.sane.loopStep move
    have isOver : w.cell.Over → w'.cell.Over := fun isOver => (isOver.loopStep move).1
    have unstopped := (Cell.loopStep_leads move).2
    refine ⟨sane, fun stopped => isOver (clears.isOver (unstopped stopped)), fun k mem => ?_⟩
    rw [calls] at mem
    refine (clears.calls k mem).mono closed isOver started.trans fun draining idle => ?_
    have none : w.cell.takes = false := by
      rw [collides, Bool.and_eq_false_iff] at calm
      refine calm.resolve_right fun nobody => ?_
      simpa [draining] using List.any_eq_false.1 nobody k mem
    exact (Cell.idle_loopStep idle none move).1
  · have mem := List.mem_of_getElem? here
    have keeps := (Cell.callerStep_changes move).keeps
    obtain ⟨next, isOver⟩ := (clears.calls k mem).step (marks k mem) clears.sane clears.isOver move
    refine ⟨clears.sane.callerStep (clears.calls k mem) move, isOver, fun k' mem' => ?_⟩
    rcases List.mem_or_eq_of_mem_set (calls ▸ mem') with old | rfl
    · exact (clears.calls k' old).mono keeps.closed keeps.isOver keeps.started fun _ => keeps.idle
    · exact next

theorem Clears.play (clears : w.Clears) (marks : w.Marks) (orderly : w.orderly h schedule = true)
    (played : w.playFreely h schedule = some w') : w'.Clears := by
  induction schedule generalizing w with
  | nil =>
    cases played
    exact clears
  | cons t schedule ih =>
    rw [playFreely, List.foldlM_cons] at played
    obtain ⟨w₁, step, rest⟩ := Option.bind_eq_some_iff.1 played
    rw [World.orderly, step, Option.all_some, Bool.and_eq_true, Bool.not_eq_true'] at orderly
    exact ih (clears.turn marks orderly.1 step) (marks.turn step).1 orderly.2 rest

/-- Once the actor is over and its state final, no turn changes the state or lets the handler begin. -/
structure Ended (w w' : World P R E S) : Prop where
  marks : w'.Marks
  isOver : w'.cell.Over
  final : w'.cell.state.isFinal = true
  state : w'.cell.state = w.cell.state
  handled : w'.handled = w.handled

theorem Ended.turn {w₀ : World P R E S} (ended : w₀.Ended w) (step : w.freeTurn h t = some w') :
    w₀.Ended w' := by
  obtain ⟨marks, isOver, final, state, handled⟩ := ended
  obtain ⟨marks', leads⟩ := marks.turn step
  rcases freeTurn_cases step with ⟨a, -, move, -, seen⟩ | ⟨i, k, now, a, -, here, move, -, seen⟩
  · obtain ⟨isOver', same, none⟩ := isOver.loopStep move
    rw [none, List.append_nil] at seen
    exact ⟨marks', isOver', leads.isFinal final, same.trans state, seen.trans handled⟩
  · have changes := Cell.callerStep_changes move
    have same : w'.cell.state = w.cell.state := by
      rcases leads.of_final final with same | failed
      · exact same
      · exact failed.trans (changes.failed failed).symm
    exact ⟨marks', changes.keeps.isOver isOver, leads.isFinal final, same.trans state, seen.trans handled⟩

theorem freeTurn_of_turn (step : w.turn h t = some w') : w.freeTurn h t = some w' := by
  cases t with
  | loop => exact step
  | call i =>
    obtain ⟨k, here, rest⟩ := Option.bind_eq_some_iff.1 step
    split at rest
    · cases rest
    · exact Option.bind_eq_some_iff.2 ⟨k, here, rest⟩

/-- Where every stop begins after the start, no turn collides with a stop. -/
theorem Inv.orderly {w₀ : World P R E S} (inv : w.Inv h w₀) (played : w.play h schedule = some w') :
    w.playFreely h schedule = some w' ∧ w.orderly h schedule = true := by
  induction schedule generalizing w with
  | nil => exact ⟨played, rfl⟩
  | cons t schedule ih =>
    rw [World.play, List.foldlM_cons] at played
    obtain ⟨w₁, step, rest⟩ := Option.bind_eq_some_iff.1 played
    obtain ⟨later, calm⟩ := ih (inv.turn step) rest
    have nobody : w.calls.any (·.now.isDraining) = false := by
      rw [List.any_eq_false]
      intro k mem
      cases inv.fits k mem <;> simp [Caller.isDraining]
    refine ⟨?_, ?_⟩
    · rw [World.playFreely, List.foldlM_cons, freeTurn_of_turn step]
      exact later
    · rw [World.orderly, freeTurn_of_turn step, Option.all_some, calm, Bool.and_true, Bool.not_eq_true']
      cases t <;> simp [collides, nobody]

/-- A stop that no turn has collided with leaves the actor so. -/
theorem Ended.of_returned {k : Call P} {r : Except Refusal Unit} (marks : w.Marks) (clears : w.Clears)
    (mem : k ∈ w.calls) (stop : k.start = .stopCheck) (returned : k.now = .returned r) : w.Ended w where
  marks := marks
  isOver := by
    have isOver := clears.calls k mem
    rw [Call.Clears, returned] at isOver
    exact isOver stop
  final := (marks k mem).final stop returned
  state := rfl
  handled := rfl

end World

/-- In every interleaving of stops, starts, sends and the loop, a failure is never left, and the state is
final once a stop has returned. Unless the loop took a message while a stop that found the actor not started
was about to empty the mailbox, the state then does not change any more, the handler is not running and it
is not called again, whatever comes later. -/
theorem stop_final {h : Handler P R E S} {w₀ w : World P R E S} {schedule : List Turn}
    (begins : w₀.Begins) (played : w₀.playFreely h schedule = some w) :
    (w.cell.state = .failed → ∀ later w', w.playFreely h later = some w' → w'.cell.state = .failed) ∧
    ∀ stop ∈ w.calls, stop.start = .stopCheck → (∃ r, stop.now = .returned r) →
      (w.cell.state = .stopped ∨ w.cell.state = .failed) ∧
      (w₀.orderly h schedule = true → ∀ later w', w.playFreely h later = some w' →
        w'.cell.state = w.cell.state ∧ w'.handled = w.handled ∧ w'.cell.entered = []) := by
  have marks : w.Marks :=
    World.playFreely_keeps World.Marks (fun _ _ _ marks step => (marks.turn step).1) begins.marks played
  refine ⟨fun failed later w' more => ?_, fun stop mem start returned => ?_⟩
  · have kept := World.playFreely_keeps (fun w => w.Marks ∧ w.cell.state = .failed)
      (fun w w' t ⟨marks, failed⟩ step => by
        obtain ⟨marks', leads⟩ := marks.turn step
        rw [failed] at leads
        exact ⟨marks', leads.failed⟩) ⟨marks, failed⟩ more
    exact kept.2
  · obtain ⟨r, returned⟩ := returned
    refine ⟨?_, fun orderly later w' more => ?_⟩
    · have final := (marks stop mem).final start returned
      cases state : w.cell.state <;> simp_all [State.isFinal]
    · have clears := begins.clears.play begins.marks orderly played
      have ended : w.Ended w' := World.playFreely_keeps w.Ended (fun _ _ _ ended step => ended.turn step)
        (.of_returned marks clears mem start returned) more
      exact ⟨ended.state, ended.handled, ended.isOver.entered⟩

/-- The stop finds the actor not started, and the start comes before the mailbox is emptied, but the loop
finds it empty. -/
theorem stop_final_started_within :
    let h : Handler Unit Unit Empty Unit := { run := fun _ _ => (.panicked "bad", ()) }
    let m : Message Unit := { payload := (), outlet := .slot 0 }
    let starts : List (Caller Unit) := [.startMark, .sendCheck m, .stopCheck]
    let w₀ : World Unit Unit Empty Unit := {
      cell := { id := 7, name := "actor", memory := () }
      slots := #[none]
      calls := starts.map fun k => ⟨k, k⟩ }
    let turns : List (Nat × Turn) := [(3, .call 1), (5, .call 2), (2, .call 0), (4, .call 2)]
    let schedule := turns.flatMap fun t => List.replicate t.1 t.2
    ∃ w, w₀.playFreely h schedule = some w ∧ ∀ later w', w.playFreely h later = some w' →
      w'.cell.state = w.cell.state ∧ w'.handled = w.handled ∧ w'.cell.entered = [] := by
  intro h m starts w₀ turns schedule
  have begins : w₀.Begins := by
    refine ⟨rfl, fun k mem => ?_⟩
    obtain ⟨start, here, rfl⟩ := List.mem_map.1 mem
    simp only [starts, List.mem_cons, List.not_mem_nil, or_false] at here
    rcases here with rfl | rfl | rfl
    · exact ⟨rfl, .inr (.inl rfl)⟩
    · exact ⟨rfl, .inr (.inr ⟨m, rfl⟩)⟩
    · exact ⟨rfl, .inl rfl⟩
  let stop : Call Unit := ⟨.stopCheck, .returned (.ok ())⟩
  have calls : (w₀.playFreely h schedule).map World.calls =
      some [⟨.startMark, .returned (.ok ())⟩, ⟨.sendCheck m, .returned (.ok ())⟩, stop] := by cbv
  obtain ⟨w, played, calls⟩ := Option.map_eq_some_iff.1 calls
  obtain ⟨-, stopped⟩ := stop_final begins played
  obtain ⟨-, last⟩ := stopped stop (by simp [calls]) rfl ⟨_, rfl⟩
  exact ⟨w, played, last (by cbv)⟩

/-- The start comes after the stop has found the actor not started, and the loop takes the message before
the stop empties the mailbox. The stop returns, the actor stopped; then the handler is called, and the
actor fails. -/
theorem stop_before_handling :
    let h : Handler Unit Unit Empty Unit := { run := fun _ _ => (.panicked "bad", ()) }
    let m : Message Unit := { payload := (), outlet := .slot 0 }
    let starts : List (Caller Unit) := [.startMark, .sendCheck m, .stopCheck]
    let w₀ : World Unit Unit Empty Unit := {
      cell := { id := 7, name := "actor", memory := () }
      slots := #[none]
      calls := starts.map fun k => ⟨k, k⟩ }
    let turns : List (Nat × Turn) := [(3, .call 1), (5, .call 2), (2, .call 0), (1, .loop), (3, .call 2)]
    let schedule := turns.flatMap fun t => List.replicate t.1 t.2
    w₀.Begins ∧ ∃ w, w₀.playFreely h schedule = some w ∧
      (⟨.stopCheck, .returned (.ok ())⟩ ∈ w.calls ∧ w.cell.state = .stopped ∧ w.handled = []) ∧
      (∃ w', w.playFreely h [.loop] = some w' ∧ w'.cell.entered = [m]) ∧
      ∃ w', w.playFreely h (List.replicate 3 .loop) = some w' ∧ w'.cell.state = .failed ∧
        w'.handled = [m] := by
  intro h m starts w₀ turns schedule
  refine ⟨⟨rfl, fun k mem => ?_⟩, ?_⟩
  · obtain ⟨start, here, rfl⟩ := List.mem_map.1 mem
    simp only [starts, List.mem_cons, List.not_mem_nil, or_false] at here
    rcases here with rfl | rfl | rfl
    · exact ⟨rfl, .inr (.inl rfl)⟩
    · exact ⟨rfl, .inr (.inr ⟨m, rfl⟩)⟩
    · exact ⟨rfl, .inl rfl⟩
  · have run : (w₀.playFreely h schedule).map (fun w => ((w.calls, w.cell.state, w.handled),
        (w.playFreely h [.loop]).map (·.cell.entered),
        (w.playFreely h (List.replicate 3 .loop)).map fun w' => (w'.cell.state, w'.handled))) =
        some (([⟨.startMark, .returned (.ok ())⟩, ⟨.sendCheck m, .returned (.ok ())⟩,
          ⟨.stopCheck, .returned (.ok ())⟩], .stopped, []), some [m], some (.failed, [m])) := by cbv
    obtain ⟨w, played, seen⟩ := Option.map_eq_some_iff.1 run
    simp only [Prod.mk.injEq, Option.map_eq_some_iff] at seen
    obtain ⟨⟨calls, state, handled⟩, handling, failed⟩ := seen
    exact ⟨w, played, ⟨by simp [calls], state, handled⟩, handling, failed⟩

end TermBot.Actor
