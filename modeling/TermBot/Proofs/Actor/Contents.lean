import TermBot.Proofs.Actor.Traffic

/-!
# What a system holds

A policy says which payloads, memories and results a system may hold. A handler obeys it if it makes, of a payload and
a memory that are allowed, a memory and a result that are. Then a system that holds only what is allowed, in its
actors, slots and tasks, goes on to do so: every step of a loop, of a caller and of a task keeps that
(`System.Obeys.step?`), and so does whatever runs them. No answer in such a system has a result that is not allowed
(`System.Obeys.takeReply`).
-/

namespace TermBot.Actor

variable {P R E S : Type}

/-- Which payloads, memories and results are allowed. -/
structure Policy (P R S : Type) where
  payload : P → Prop
  memory : S → Prop
  result : R → Prop

variable {policy : Policy P R S}

/-- Allowed payloads and memories lead to allowed memories and results. -/
structure Handler.Obeys (h : Handler P R E S) (policy : Policy P R S) : Prop where
  memory : ∀ p s, policy.payload p → policy.memory s → policy.memory (h.run p s).2
  result : ∀ p s r e, policy.payload p → policy.memory s → (h.run p s).1 = .returned (some r) e → policy.result r

/-- A result in the response is allowed. -/
def Response.Obeys (r : Response R E) (policy : Policy P R S) : Prop := ∀ a ∈ r.payload, policy.result a

/-- What the loop may still hand to the handler, or has from it, is allowed. -/
def Loop.Obeys (policy : Policy P R S) : Loop P R E → Prop
  | .taken m | .handling m => policy.payload m.payload
  | .answering _ a _ => ∀ r ∈ a, policy.result r
  | _ => True

/-- All that the actor holds is allowed. -/
structure Cell.Obeys (c : Cell P R E S) (policy : Policy P R S) : Prop where
  queued : ∀ m ∈ c.mailbox.items, policy.payload m.payload
  memory : policy.memory c.memory
  loop : c.loop.Obeys policy

/-- A message that the caller is to send is allowed. -/
def Caller.Obeys (policy : Policy P R S) : Caller P → Prop
  | .sendCheck m | .sendPush m => policy.payload m.payload
  | _ => True

/-- What the task's caller is to send is allowed. -/
def Task.Obeys (policy : Policy P R S) : Task P → Prop
  | .stop _ caller => caller.Obeys policy
  | .sweep caller _ => ∀ p ∈ caller, p.2.Obeys policy

/-- All that the system holds is allowed. -/
structure System.Obeys (sys : System P R E S) (policy : Policy P R S) : Prop where
  cells : ∀ c ∈ sys.cells, c.Obeys policy
  slots : ∀ r, some r ∈ sys.slots → r.Obeys policy
  tasks : ∀ t ∈ sys.tasks, t.Obeys policy

/-! ## One actor -/

section Actor

variable {h : Handler P R E S} {c c' : Cell P R E S} {a : Option (Answer R E)} {caller now : Caller P}

theorem Cell.obeys_none : ∀ p ∈ (none : Option (Answer R E)), p.2.Obeys policy := by
  rintro p ⟨⟩

/-- An answer without a result. -/
theorem Cell.obeys_failure (c : Cell P R E S) (m : Message P) (failure : Option (Failure E)) :
    ∀ p ∈ some (c.answer m none failure), p.2.Obeys policy := by
  rintro p ⟨⟩ r ⟨⟩

/-- Nothing that the handler sees is added to the mailbox by taking from it. -/
theorem Mailbox.mem_pop {α : Type} {mb : Mailbox α} {x : α} (mem : x ∈ mb.pop.2.items) : x ∈ mb.items := by
  rw [Mailbox.pop] at mem
  split at mem
  · rw [advance] at mem
    split at mem
    · exact absurd mem (Array.not_mem_empty x)
    · exact mem
  · exact mem

theorem Mailbox.mem_of_pop {α : Type} {mb mb' : Mailbox α} {x : α} (popped : mb.pop = (.item x, mb')) :
    x ∈ mb.items := by
  rw [Mailbox.pop] at popped
  split at popped
  case h_1 y here =>
    cases popped
    exact Array.mem_of_getElem? here
  case h_2 => split at popped <;> cases popped

/-- A step of the loop. -/
theorem Cell.Obeys.loopStep (obeys : c.Obeys policy) (handler : h.Obeys policy)
    (step : c.loopStep h.run h.held = some (c', a)) : c'.Obeys policy ∧ ∀ p ∈ a, p.2.Obeys policy := by
  obtain ⟨queued, memory, loop⟩ := obeys
  obtain ⟨number, name, remembered, state, started, mb, here, processed, sessions⟩ := c
  rw [Cell.loopStep] at step
  cases here with
  | unborn | finished => cases step
  | look =>
    have rest : ∀ m ∈ mb.pop.2.items, policy.payload m.payload := fun m mem => queued m (Mailbox.mem_pop mem)
    rcases popped : mb.pop with ⟨taken, mb'⟩
    rw [popped] at rest
    cases taken with
    | item m =>
      simp only [popped] at step
      cases step
      exact ⟨⟨rest, memory, queued m (Mailbox.mem_of_pop popped)⟩, obeys_none⟩
    | empty | finished =>
      simp only [popped] at step
      cases step
      exact ⟨⟨rest, memory, trivial⟩, obeys_none⟩
  | asleep =>
    simp only at step
    split at step <;> cases step
    exact ⟨⟨queued, memory, trivial⟩, obeys_none⟩
  | taken m =>
    simp only [swap_eq] at step
    cases step
    exact ⟨⟨queued, memory, loop⟩, obeys_none⟩
  | handling m =>
    have next := handler.memory m.payload remembered loop memory
    have results := fun r e => handler.result m.payload remembered r e loop memory
    simp only at step
    split at step
    · cases step
    · rcases run : h.run m.payload remembered with ⟨outcome, after⟩
      rw [run] at next results
      cases outcome with
      | returned result error =>
        simp only [run] at step
        cases step
        refine ⟨⟨queued, next, fun r mem => results r error ?_⟩, obeys_none⟩
        rw [Option.mem_def.1 mem]
      | panicked reason =>
        simp only [run] at step
        cases step
        exact ⟨⟨queued, next, trivial⟩, obeys_none⟩
  | answering m result error =>
    cases step
    refine ⟨⟨queued, memory, trivial⟩, ?_⟩
    rintro p ⟨⟩
    exact loop
  | resting =>
    simp only [swap_eq] at step
    cases step
    exact ⟨⟨queued, memory, trivial⟩, obeys_none⟩
  | apologising m reason =>
    cases step
    exact ⟨⟨queued, memory, trivial⟩, obeys_failure _ _ _⟩
  | emptying =>
    cases step
    exact ⟨⟨fun m mem => absurd mem (Array.not_mem_empty m), memory, trivial⟩, obeys_none⟩
  | refusing ms =>
    cases ms with
    | nil =>
      cases step
      exact ⟨⟨queued, memory, trivial⟩, obeys_none⟩
    | cons m ms =>
      cases step
      exact ⟨⟨queued, memory, trivial⟩, obeys_failure _ _ _⟩
  | crashed | failing | closing | waking | exiting =>
    cases step
    exact ⟨⟨queued, memory, trivial⟩, obeys_none⟩

/-- A step of a caller. -/
theorem Cell.Obeys.callerStep (obeys : c.Obeys policy) (sends : caller.Obeys policy)
    (step : c.callerStep caller = some (c', now, a)) :
    c'.Obeys policy ∧ now.Obeys policy ∧ ∀ p ∈ a, p.2.Obeys policy := by
  have ⟨queued, memory, loop⟩ := obeys
  cases caller with
  | sendCheck m =>
    rw [Cell.callerStep] at step
    split at step
    case h_4 | h_5 =>
      split at step <;> cases step
      · exact ⟨obeys, trivial, obeys_none⟩
      · exact ⟨obeys, sends, obeys_none⟩
    all_goals
      cases step
      exact ⟨obeys, trivial, obeys_none⟩
  | sendPush m =>
    rw [Cell.callerStep, Mailbox.push] at step
    split at step
    case h_1 pushed =>
      cases step
      split at pushed <;> cases pushed
      refine ⟨⟨fun m' mem => ?_, memory, loop⟩, trivial, obeys_none⟩
      rcases Array.mem_push.1 mem with mem | rfl
      · exact queued m' mem
      · exact sends
    case h_2 =>
      cases step
      exact ⟨obeys, trivial, obeys_none⟩
  | sendRefused | stopMark =>
    rw [Cell.callerStep] at step
    split at step <;> cases step
    · exact ⟨⟨queued, memory, loop⟩, trivial, obeys_none⟩
    · exact ⟨obeys, trivial, obeys_none⟩
  | stopCheck =>
    rw [Cell.callerStep] at step
    split at step <;> cases step <;> exact ⟨obeys, trivial, obeys_none⟩
  | stopWait settle =>
    cases step
    refine ⟨obeys, ?_, obeys_none⟩
    split <;> trivial
  | stopDrain settle =>
    cases step
    exact ⟨⟨fun m mem => absurd mem (Array.not_mem_empty m), memory, loop⟩, trivial, obeys_none⟩
  | stopAnswer settle ms =>
    cases ms with
    | nil =>
      cases step
      exact ⟨obeys, trivial, obeys_none⟩
    | cons m ms =>
      cases step
      exact ⟨obeys, trivial, obeys_failure _ _ _⟩
  | stopJoin settle =>
    rw [Cell.callerStep] at step
    split at step <;> cases step
    exact ⟨obeys, trivial, obeys_none⟩
  | stopSettle settle =>
    rw [Cell.callerStep, swap_eq] at step
    cases step
    refine ⟨?_, trivial, obeys_none⟩
    split
    · exact ⟨queued, memory, loop⟩
    · exact obeys
  | startMark =>
    rw [Cell.callerStep] at step
    split at step <;> cases step
    · exact ⟨obeys, trivial, obeys_none⟩
    · exact ⟨⟨queued, memory, loop⟩, trivial, obeys_none⟩
  | sendWake | stopClose | stopWake | startSpawn =>
    cases step
    exact ⟨⟨queued, memory, by trivial⟩, trivial, obeys_none⟩
  | returned => cases step

end Actor

/-! ## The system -/

namespace System.Obeys

variable {h : Handler P R E S} {sys sys' : System P R E S} {c : Cell P R E S} {a : Option (Answer R E)}
  {caller now : Caller P} {i k : Nat}

theorem deliver (obeys : sys.Obeys policy) (given : ∀ p ∈ a, p.2.Obeys policy) : (sys.deliver a).Obeys policy := by
  refine ⟨?cells, fun r mem => ?slots, ?tasks⟩
  case cells => simpa using obeys.cells
  case tasks => simpa using obeys.tasks
  case slots =>
    obtain ⟨n, here⟩ := Array.mem_iff_getElem?.1 mem
    rcases (sys.slots_deliver a).2.2.1 n r here with old | new
    · exact obeys.slots r (Array.mem_of_getElem? old)
    · exact given _ new

theorem setCell (obeys : sys.Obeys policy) (cell : c.Obeys policy) : (sys.setCell i c).Obeys policy := by
  refine ⟨fun d mem => ?_, obeys.slots, obeys.tasks⟩
  rcases Array.mem_or_eq_of_mem_setIfInBounds mem with mem | rfl
  · exact obeys.cells d mem
  · exact cell

theorem stepLoop (obeys : sys.Obeys policy) (handler : h.Obeys policy) (step : sys.stepLoop h i = some sys') :
    sys'.Obeys policy := by
  obtain ⟨c, c', a, here, move, rfl⟩ := stepLoop_eq_some.1 step
  obtain ⟨cell, given⟩ := (obeys.cells c (Array.mem_of_getElem? here)).loopStep handler move
  exact (obeys.setCell cell).deliver given

theorem stepCaller (obeys : sys.Obeys policy) (sends : caller.Obeys policy)
    (step : sys.stepCaller i caller = some (sys', now)) : sys'.Obeys policy ∧ now.Obeys policy := by
  obtain ⟨c, c', a, here, move, rfl⟩ := stepCaller_eq_some.1 step
  obtain ⟨cell, later, given⟩ := (obeys.cells c (Array.mem_of_getElem? here)).callerStep sends move
  exact ⟨(obeys.setCell cell).deliver given, later⟩

theorem stepTask {t t' : Task P} (obeys : sys.Obeys policy) (sends : t.Obeys policy)
    (step : sys.stepTask t = some (sys', t')) : sys'.Obeys policy ∧ t'.Obeys policy := by
  unfold System.stepTask at step
  split at step
  case h_1 i caller =>
    obtain ⟨⟨sys', now⟩, move, done⟩ := Option.bind_eq_some_iff.1 step
    cases done
    exact obeys.stepCaller sends move
  case h_2 =>
    cases step
    exact ⟨obeys, by rintro _ ⟨⟩⟩
  case h_3 i caller rest _ =>
    obtain ⟨⟨sys', now⟩, move, done⟩ := Option.bind_eq_some_iff.1 step
    cases done
    obtain ⟨left, later⟩ := obeys.stepCaller (sends (i, caller) rfl) move
    refine ⟨left, ?_⟩
    rintro p ⟨⟩
    exact later
  case h_4 =>
    cases step
    refine ⟨obeys, ?_⟩
    rintro p ⟨⟩
    trivial
  case h_5 => cases step

theorem stepTaskAt (obeys : sys.Obeys policy) (step : sys.stepTaskAt k = some sys') : sys'.Obeys policy := by
  obtain ⟨t, here, step⟩ := Option.bind_eq_some_iff.1 step
  obtain ⟨⟨sys', t'⟩, move, done⟩ := Option.bind_eq_some_iff.1 step
  cases done
  obtain ⟨left, later⟩ := obeys.stepTask (obeys.tasks t (Array.mem_of_getElem? here)) move
  refine ⟨left.cells, left.slots, fun u mem => ?_⟩
  rcases Array.mem_or_eq_of_mem_setIfInBounds mem with mem | rfl
  · exact left.tasks u mem
  · exact later

theorem step? (obeys : sys.Obeys policy) (handler : h.Obeys policy) (step : sys.step? h = some sys') :
    sys'.Obeys policy := by
  rw [System.step?] at step
  split at step
  case h_1 sys' found =>
    cases step
    obtain ⟨i, -, move⟩ := List.exists_of_findSome?_eq_some found
    exact obeys.stepLoop handler move
  case h_2 =>
    obtain ⟨k, -, move⟩ := List.exists_of_findSome?_eq_some step
    exact obeys.stepTaskAt move

theorem settleFor (obeys : sys.Obeys policy) (handler : h.Obeys policy) (limit : Nat) :
    (System.settleFor h limit sys).Obeys policy := by
  induction limit generalizing sys with
  | zero => exact obeys
  | succ n ih =>
    rw [System.settleFor]
    split
    case h_1 sys' step => exact ih (obeys.step? handler step)
    case h_2 => exact obeys

theorem settle (obeys : sys.Obeys policy) (handler : h.Obeys policy) : (sys.settle h).Obeys policy :=
  obeys.settleFor handler sys.budget

theorem performFor (obeys : sys.Obeys policy) (handler : h.Obeys policy) (sends : caller.Obeys policy)
    (limit : Nat) : (System.performFor h i limit caller sys).2.Obeys policy := by
  induction limit generalizing sys caller with
  | zero => exact obeys
  | succ n ih =>
    unfold System.performFor
    split
    case h_1 => contradiction
    case h_2 => exact obeys
    case h_3 n' same _ =>
      obtain rfl : n = n' := Nat.succ.inj same
      split
      case h_1 step =>
        obtain ⟨left, later⟩ := obeys.stepCaller sends step
        exact ih left later
      case h_2 =>
        split
        case h_1 step => exact ih (obeys.step? handler step) sends
        case h_2 => exact obeys

theorem perform (obeys : sys.Obeys policy) (handler : h.Obeys policy) (sends : caller.Obeys policy) :
    (sys.perform h i caller).2.Obeys policy := obeys.performFor handler sends sys.budget

theorem send {m : Message P} (obeys : sys.Obeys policy) (handler : h.Obeys policy)
    (allowed : policy.payload m.payload) : (sys.send h i m).2.Obeys policy := by
  have left : (sys.perform h i (.sendCheck m)).2.Obeys policy := obeys.perform handler allowed
  rw [System.send]
  split
  case h_1 run => rwa [run] at left
  case h_2 run => rwa [run] at left

theorem newSlot (obeys : sys.Obeys policy) : sys.newSlot.2.Obeys policy := by
  refine ⟨obeys.cells, fun r mem => ?_, obeys.tasks⟩
  rcases Array.mem_push.1 mem with mem | new
  · exact obeys.slots r mem
  · cases new

/-- What is taken from a slot is allowed. -/
theorem takeReply {o : Outlet} {found : Option (Response R E)} (obeys : sys.Obeys policy)
    (taken : sys.takeReply o = (found, sys')) : sys'.Obeys policy ∧ ∀ r ∈ found, r.Obeys policy := by
  unfold System.takeReply at taken
  split at taken
  case h_1 n =>
    split at taken
    case h_1 r here =>
      cases taken
      refine ⟨⟨obeys.cells, fun r mem => ?_, obeys.tasks⟩, ?_⟩
      · rcases Array.mem_or_eq_of_mem_setIfInBounds mem with mem | none
        · exact obeys.slots r mem
        · cases none
      · rintro r ⟨⟩
        exact obeys.slots r (Array.mem_of_getElem? here)
    case h_2 =>
      cases taken
      exact ⟨obeys, by rintro _ ⟨⟩⟩
  case h_2 =>
    cases taken
    exact ⟨obeys, by rintro _ ⟨⟩⟩

theorem addCell (obeys : sys.Obeys policy) (id : UInt32) (name : String) {memory : S}
    (allowed : policy.memory memory) : (sys.addCell id name memory).2.Obeys policy := by
  refine ⟨fun c mem => ?_, obeys.slots, obeys.tasks⟩
  rcases Array.mem_push.1 mem with mem | rfl
  · exact obeys.cells c mem
  · exact ⟨fun m none => absurd none (Array.not_mem_empty m), allowed, trivial⟩

theorem spawn (obeys : sys.Obeys policy) (handler : h.Obeys policy) (service name : String) (hasHandler : Bool)
    {memory : S} (allowed : policy.memory memory) :
    (sys.spawn h service name hasHandler memory).2.Obeys policy := by
  unfold System.spawn
  split
  · exact obeys
  split
  · exact obeys
  dsimp only
  split
  · exact ⟨obeys.cells, obeys.slots, obeys.tasks⟩
  · have added : Caller.Obeys policy .startMark := trivial
    refine perform (addCell ?_ _ name allowed) handler added
    exact ⟨obeys.cells, obeys.slots, obeys.tasks⟩

theorem spawnService (obeys : sys.Obeys policy) (handler : h.Obeys policy) (service name : String)
    (hasHandler : Bool) {memory : S} (allowed : policy.memory memory) :
    (sys.spawnService h service name hasHandler memory).2.Obeys policy := by
  unfold System.spawnService
  split
  · exact obeys
  · have left := obeys.spawn handler service (if name.isEmpty then service else name) hasHandler allowed
    split
    case h_1 run => rwa [run] at left
    case h_2 run => rwa [run] at left

end System.Obeys

end TermBot.Actor
