import Mathlib
import TermBot.Proofs.Actor.Spawning

/-!
# Shutting a system down

Spawns, sends, shutdowns, the loops of all actors and the stopping in the background take their steps in any
order: `Traffic.play`. A spawn holds off every shutdown from the moment it has found the system open until it
returns, so that the first shutdown finds all actors registered and started. It closes the system and has
them stopped in the background, one after the other; it returns when that is over or when its caller gives
up. A later shutdown finds the system closed and returns at once, whether the actors are stopped or not.

So no spawn succeeds after a shutdown has returned, and once the stopping is over, as it is when the first
shutdown returns without its caller giving up, every actor is stopped or has failed and every request that
was accepted is answered.
-/

namespace TermBot.Actor

variable {P R E S : Type}

/-! ## Shutdowns, step by step -/

/-- How a shutdown returns: without an error, or because its caller gave up. -/
inductive ShutdownEnd where
  /-- All that it had stopped is stopped. -/
  | stopped
  /-- The system was closed before. -/
  | already
  | canceled
  deriving DecidableEq

/-- Where a shutdown stands. -/
inductive Closing where
  /-- About to find out whether the system is open, and to close it. -/
  | enter
  /-- Waiting for the end of task `k`. -/
  | waiting (k : Nat)
  | returned (how : ShutdownEnd)
  deriving DecidableEq

/-- Closes the system and begins to stop its actors. -/
def System.close (sys : System P R E S) : System P R E S :=
  { sys with closed := true, tasks := sys.tasks.push (.sweep none sys.directory.actors) }

namespace Closing

/-- The shutdown has returned without an error. -/
def succeeded : Closing → Bool
  | .returned .stopped | .returned .already => true
  | _ => false

/-- One step of a shutdown that does not give up. -/
def step (sys : System P R E S) : Closing → Option (System P R E S × Closing)
  | .enter =>
    if sys.closed then some (sys, .returned .already)
    else some (sys.close, .waiting sys.tasks.size)
  | .waiting k => if sys.tasks[k]?.any System.isOver then some (sys, .returned .stopped) else none
  | .returned _ => none

/-- The step of a shutdown that gives up. -/
def giveUp : Closing → Option Closing
  | .waiting _ => some (.returned .canceled)
  | _ => none

end Closing

/-- A shutdown of the system is these steps: the first one, and then, unless the caller gives up, the second
one after everything else has come to rest. -/
theorem System.shutdown_eq (h : Handler P R E S) (canceled : Bool) (sys : System P R E S) :
    sys.shutdown h canceled =
      match Closing.enter.step sys with
      | some (sys₁, .waiting k) =>
        if canceled then (.canceled, sys₁)
        else ((if ((Closing.waiting k).step (sys₁.settle h)).isSome then .done () else .stuck), sys₁.settle h)
      | some (sys₁, _) => (.done (), sys₁)
      | none => (.stuck, sys) := by
  by_cases closed : sys.closed = true
  · simp only [System.shutdown, Closing.step, if_pos closed]
  · simp only [System.shutdown, Closing.step, if_neg closed]
    cases canceled with
    | true => rfl
    | false =>
      change (if (sys.close.settle h).tasks[sys.tasks.size]?.any isOver = true then _ else _,
        sys.close.settle h) = _
      by_cases finished : (sys.close.settle h).tasks[sys.tasks.size]?.any isOver = true <;> simp [finished]

/-! ## Every order of steps -/

/-- A system with its spawns, its sends, each to an actor, and its shutdowns. -/
structure Traffic (P R E S : Type) where
  system : System P R E S
  spawns : List (Spawn P S)
  sends : List (Nat × Call P)
  shutdowns : List Closing

/-- Whose turn it is. -/
inductive Move where
  /-- The message loop of an actor. -/
  | loop (i : Nat)
  /-- A task in the background. -/
  | task (k : Nat)
  | spawn (j : Nat)
  | send (j : Nat)
  | shutdown (j : Nat)
  /-- The caller of a shutdown gives up. -/
  | giveUp (j : Nat)

namespace Traffic

/-- One turn. A shutdown does not begin while a spawn is inside. -/
def move (h : Handler P R E S) (w : Traffic P R E S) : Move → Option (Traffic P R E S)
  | .loop i => (w.system.stepLoop h i).map fun system => { w with system }
  | .task k => (w.system.stepTaskAt k).map fun system => { w with system }
  | .spawn j => do
    let s ← w.spawns[j]?
    let (system, now) ← s.step w.system
    return { w with system, spawns := w.spawns.set j { s with now } }
  | .send j => do
    let (i, k) ← w.sends[j]?
    let (system, now) ← w.system.stepCaller i k.now
    return { w with system, sends := w.sends.set j (i, ⟨k.start, now⟩) }
  | .shutdown j => do
    let x ← w.shutdowns[j]?
    if x = .enter ∧ w.spawns.any Spawn.isInside then none
    else
      let (system, x) ← x.step w.system
      return { w with system, shutdowns := w.shutdowns.set j x }
  | .giveUp j => do
    let x ← w.shutdowns[j]?
    let x ← x.giveUp
    return { w with shutdowns := w.shutdowns.set j x }

/-- The turns of a schedule, all of which can be taken. -/
def play (h : Handler P R E S) (w : Traffic P R E S) (schedule : List Move) : Option (Traffic P R E S) :=
  schedule.foldlM (move h) w

/-- The messages that were accepted, each with its actor. -/
def accepted (w : Traffic P R E S) : List (Nat × Message P) :=
  w.sends.filterMap fun p => p.2.accepted?.map (Prod.mk p.1)

/-- Nothing has happened yet: the system is open and without actors, all spawns and shutdowns are about to
begin, each send is about to send a request, and each request has a slot of its own, which is empty. -/
structure Fresh (w : Traffic P R E S) : Prop where
  system : w.system = { slots := w.system.slots }
  slots : ∀ n < w.system.slots.size, w.system.slots[n]? = some none
  spawns : ∀ s ∈ w.spawns, s.now = .enter
  sends : ∀ p ∈ w.sends, p.2.now = p.2.start ∧ ∃ m n, p.2.start = .sendCheck m ∧ m.kind = .request ∧
    m.outlet = .slot n ∧ n < w.system.slots.size
  distinct : (w.sends.filterMap fun p => p.2.message?.map (·.outlet)).Nodup
  shutdowns : ∀ x ∈ w.shutdowns, x = .enter

end Traffic

/-! ## What holds in between -/

/-- Actor `i` is stopped or has failed, and its loop has ended. -/
def System.Stopped (sys : System P R E S) (i : Nat) : Prop :=
  ∃ c, sys.cells[i]? = some c ∧ c.isDone = true ∧ c.state.isFinal = true

/-- How far the stopping in the background has come: all actors are stopped but those that it still is to
stop. -/
inductive System.Sweeps (sys : System P R E S) : Task P → Prop where
  | between {rest : List Nat} (inside : ∀ i ∈ rest, i < sys.cells.size)
    (behind : ∀ i < sys.cells.size, i ∈ rest ∨ sys.Stopped i) : Sweeps sys (.sweep none rest)
  | within {i : Nat} {caller : Caller P} {rest : List Nat} {c : Cell P R E S}
    (here : sys.cells[i]? = some c) (fits : (Call.mk .stopCheck caller).Fits c)
    (marks : (Call.mk .stopCheck caller).Marks c.state) (inside : ∀ j ∈ rest, j < sys.cells.size)
    (behind : ∀ j < sys.cells.size, j = i ∨ j ∈ rest ∨ sys.Stopped j) :
    Sweeps sys (.sweep (some (i, caller)) rest)

/-- What a shutdown knows of the stopping in the background. -/
def Closing.Knows (t : Task P) : Closing → Prop
  | .waiting k => k = 0
  | .returned .stopped => System.isOver t = true
  | _ => True

namespace Traffic

/-- Before the first shutdown there is nothing in the background; after it no spawn is inside. -/
inductive Phase (w : Traffic P R E S) : Prop where
  | opened (opened : w.system.closed = false) (nothing : w.system.tasks = #[])
    (waits : ∀ x ∈ w.shutdowns, x = .enter)
  | closed {t : Task P} (closed : w.system.closed = true) (outside : ∀ s ∈ w.spawns, s.isInside = false)
    (task : w.system.tasks = #[t]) (sweeps : w.system.Sweeps t) (knows : ∀ x ∈ w.shutdowns, x.Knows t)

/-- What every turn keeps. -/
structure Inv (w : Traffic P R E S) : Prop where
  formed : ∀ (i : Nat) (c : Cell P R E S), w.system.cells[i]? = some c → c.WellFormed
  sends : ∀ p ∈ w.sends, ∃ m n, p.2.start = .sendCheck m ∧ m.outlet = .slot n ∧ n < w.system.slots.size ∧
    ∀ c : Cell P R E S, p.2.Fits c
  distinct : (w.sends.filterMap fun p => p.2.message?.map (·.outlet)).Nodup
  requests : w.system.Requests w.accepted
  listed : w.system.Listed
  starts : w.system.Starts w.spawns
  phase : w.Phase

end Traffic

/-! ## A step of one actor -/

section Frame

variable {sys sys' : System P R E S} {i : Nat} {c c' : Cell P R E S} {a : Option (Answer R E)} {k : Call P}
  {caller now : Caller P} {new : List (Message P)} {given : List (Answer R E)} {t : Task P}

/-- A send neither stops nor starts the actor. -/
theorem Call.Fits.of_send {m : Message P} (fits : k.Fits c) (start : k.start = .sendCheck m) :
    (∀ d : Cell P R E S, k.Fits d) ∧ k.now.isStop = false ∧ k.beginsStop = false ∧ k.isSpawning = false ∧
      k.now ≠ .startMark := by
  cases fits with
  | sendCheck => exact ⟨fun _ => .sendCheck, rfl, rfl, rfl, by simp⟩
  | sendPush => exact ⟨fun _ => .sendPush, rfl, rfl, rfl, by simp⟩
  | sendWake => exact ⟨fun _ => .sendWake, rfl, rfl, rfl, by simp⟩
  | sendRefused => exact ⟨fun _ => .sendRefused, rfl, rfl, rfl, by simp⟩
  | sendReturned => exact ⟨fun _ => .sendReturned, rfl, rfl, rfl, by simp⟩
  | _ => cases start

/-- A step of a send. -/
theorem Call.Fits.send_step {m : Message P} (fits : k.Fits c) (start : k.start = .sendCheck m)
    (formed : c.WellFormed) (step : c.callerStep k.now = some (c', now, a)) :
    k.Moves c c' now a ∧ c.Steps c' (k.pushed now) [] ∧ c'.started = c.started ∧
      c'.isSpawned = c.isSpawned := by
  obtain ⟨-, going, stop, spawning, unmarked⟩ := fits.of_send start
  have moves := fits.step formed (by simp [stop]) (by simp [spawning]) step
  have marks : k.Marks c.state := by
    obtain ⟨begun, here⟩ := k
    cases start
    exact .other rfl going
  have unborn : k.now ≠ .startSpawn := by
    intro here
    simp [Call.isSpawning, here] at spawning
  exact ⟨moves, moves.steps (marks.step step).1, (Cell.callerStep_changes step).start_eq unmarked unborn⟩

/-- A step of a stop. -/
theorem Call.Fits.stop_step (fits : (Call.mk .stopCheck caller).Fits c)
    (marks : (Call.mk .stopCheck caller).Marks c.state) (formed : c.WellFormed) (started : c.started = true)
    (step : c.callerStep caller = some (c', now, a)) :
    a = none ∧ c.Steps c' [] [] ∧ (Call.mk .stopCheck now).Fits c' ∧ (Call.mk .stopCheck now).Marks c'.state ∧
      c'.started = c.started ∧ c'.isSpawned = c.isSpawned := by
  obtain ⟨spawning, unmarked, unborn, pushed⟩ : (Call.mk .stopCheck caller).isSpawning = false ∧
      caller ≠ .startMark ∧ caller ≠ .startSpawn ∧ (Call.mk .stopCheck caller).pushed now = [] := by
    cases fits <;> simp [Call.isSpawning, Call.pushed]
  have moves := fits.step formed (fun _ => started) (by simp [spawning]) step
  obtain ⟨leads, marks'⟩ := marks.step step
  exact ⟨moves.silent, pushed ▸ moves.steps leads, moves.fits, marks',
    (Cell.callerStep_changes step).start_eq unmarked unborn⟩

theorem System.Stopped.step {j : Nat} (stopped : sys.Stopped j) (here : sys.cells[i]? = some c)
    (steps : c.Steps c' new given) : ((sys.setCell i c').deliver a).Stopped j := by
  obtain ⟨d, there, done, final⟩ := stopped
  by_cases same : j = i
  · subst same
    cases here.symm.trans there
    exact ⟨c', by rw [cells_deliver, getElem?_setCell_self here], steps.done done, steps.leads.isFinal final⟩
  · exact ⟨d, by rw [cells_deliver, getElem?_setCell_ne same, there], done, final⟩

theorem System.Sweeps.step (sweeps : sys.Sweeps t) (here : sys.cells[i]? = some c)
    (steps : c.Steps c' new given) : ((sys.setCell i c').deliver a).Sweeps t := by
  have size : ((sys.setCell i c').deliver a).cells.size = sys.cells.size := by simp
  cases sweeps with
  | between inside behind =>
    refine .between (fun j mem => (inside j mem).trans_eq size.symm) fun j lt => ?_
    exact (behind j (lt.trans_eq size)).imp_right fun stopped => stopped.step here steps
  | @within j caller rest d there fits marks inside behind =>
    have inside' := fun j mem => (inside j mem).trans_eq size.symm
    have behind' : ∀ k < ((sys.setCell i c').deliver a).cells.size,
        k = j ∨ k ∈ rest ∨ ((sys.setCell i c').deliver a).Stopped k := fun k lt =>
      (behind k (lt.trans_eq size)).imp_right fun later => later.imp_right fun stopped =>
        stopped.step here steps
    by_cases same : j = i
    · subst same
      cases here.symm.trans there
      exact .within (by rw [cells_deliver, getElem?_setCell_self here])
        (fits.mono steps.started steps.done) (marks.mono steps.leads) inside' behind'
    · exact .within (by rw [cells_deliver, getElem?_setCell_ne same, there]) fits marks inside' behind'

theorem System.Sweeps.congr {t : Task P} (sweeps : sys.Sweeps t) (cells : sys'.cells = sys.cells) :
    sys'.Sweeps t := by
  obtain ⟨_, _, _, _, _⟩ := sys
  obtain ⟨_, _, _, _, _⟩ := sys'
  cases cells
  cases sweeps with
  | between inside behind => exact .between inside behind
  | within here fits marks inside behind => exact .within here fits marks inside behind

end Frame

namespace Traffic

variable {h : Handler P R E S} {w w' : Traffic P R E S} {t : Move}

theorem Phase.step {i : Nat} {c c' : Cell P R E S} {a : Option (Answer R E)} {new : List (Message P)}
    {given : List (Answer R E)} {sends : List (Nat × Call P)} (phase : w.Phase)
    (here : w.system.cells[i]? = some c) (steps : c.Steps c' new given) :
    Phase { w with system := (w.system.setCell i c').deliver a, sends } := by
  cases phase with
  | opened opened nothing waits =>
    exact .opened ((System.closed_deliver).trans opened) ((System.tasks_deliver).trans nothing) waits
  | closed closed outside task sweeps knows =>
    exact .closed ((System.closed_deliver).trans closed) outside ((System.tasks_deliver).trans task)
      (sweeps.step here steps) knows

/-- A step of one actor in which no message is accepted. -/
theorem Inv.actor {i : Nat} {c c' : Cell P R E S} {a : Option (Answer R E)} (inv : w.Inv)
    (here : w.system.cells[i]? = some c) (steps : c.Steps c' [] a.toList) (started : c'.started = c.started)
    (spawned : c'.isSpawned = c.isSpawned) : Inv { w with system := (w.system.setCell i c').deliver a } where
  formed := System.formed_step inv.formed here steps
  sends p mem := by
    obtain ⟨m, n, start, outlet, lt, fits⟩ := inv.sends p mem
    exact ⟨m, n, start, outlet, lt.trans_eq ((w.system.setCell i c').slots_deliver a).1.symm, fits⟩
  distinct := inv.distinct
  requests := inv.requests.step here steps (by simp [accepted]) (by simp)
  listed := inv.listed.step
  starts := inv.starts.step here started spawned
  phase := inv.phase.step here steps

/-- A step of the loop of an actor. -/
theorem Inv.loop {i : Nat} {system : System P R E S} (inv : w.Inv)
    (step : w.system.stepLoop h i = some system) : Inv { w with system } := by
  obtain ⟨c, c', a, here, move, rfl⟩ := System.stepLoop_eq_some.1 step
  have moves := (inv.formed i c here).loopStep move
  exact inv.actor here ((inv.formed i c here).steps move) moves.started moves.spawned

theorem mem_accepted {p : Nat × Message P} :
    p ∈ w.accepted ↔ ∃ k, (p.1, k) ∈ w.sends ∧ k.accepted? = some p.2 := by
  rw [accepted, List.mem_filterMap]
  constructor
  · rintro ⟨⟨i, k⟩, mem, found⟩
    obtain ⟨m, sent, rfl⟩ := Option.map_eq_some_iff.1 found
    exact ⟨k, mem, sent⟩
  · rintro ⟨k, mem, sent⟩
    exact ⟨(p.1, k), mem, Option.map_eq_some_iff.2 ⟨p.2, sent, rfl⟩⟩

/-- A step of a send. -/
theorem Inv.send {j i : Nat} {k : Call P} {system : System P R E S} {now : Caller P} (inv : w.Inv)
    (there : w.sends[j]? = some (i, k)) (step : w.system.stepCaller i k.now = some (system, now)) :
    Inv { w with system, sends := w.sends.set j (i, ⟨k.start, now⟩) } := by
  obtain ⟨c, c', a, here, move, rfl⟩ := System.stepCaller_eq_some.1 step
  obtain ⟨m, n, start, outlet, lt, fits⟩ := inv.sends (i, k) (List.mem_of_getElem? there)
  obtain ⟨moves, steps, started, spawned⟩ := (fits c).send_step start (inv.formed i c here) move
  obtain rfl : a = none := moves.silent
  obtain ⟨before, after, split, change⟩ := exists_split there
  have size := ((w.system.setCell i c').slots_deliver none).1
  have grown : ∀ p : Nat × Message P, (∃ k', (p.1, k') ∈ w.sends.set j (i, ⟨k.start, now⟩) ∧
      k'.accepted? = some p.2) ↔ (∃ k', (p.1, k') ∈ w.sends ∧ k'.accepted? = some p.2) ∨
        p.1 = i ∧ p.2 ∈ k.pushed now := by
    rintro ⟨i', m'⟩
    have same : (Call.mk k.start now).accepted? = some m' ↔ k.accepted? = some m' ∨ m' ∈ k.pushed now := by
      rw [← Option.mem_toList, moves.accepted, List.mem_append, Option.mem_toList]
    rw [change, split]
    simp only [List.mem_append, List.mem_cons, Prod.mk.injEq]
    constructor
    · rintro ⟨k', mem | ⟨rfl, rfl⟩ | mem, sent⟩
      · exact .inl ⟨k', .inl mem, sent⟩
      · exact (same.1 sent).imp (fun sent => ⟨k, .inr (.inl ⟨rfl, rfl⟩), sent⟩) fun mem => ⟨rfl, mem⟩
      · exact .inl ⟨k', .inr (.inr mem), sent⟩
    · rintro (⟨k', mem | ⟨rfl, rfl⟩ | mem, sent⟩ | ⟨rfl, mem⟩)
      · exact ⟨k', .inl mem, sent⟩
      · exact ⟨_, .inr (.inl ⟨rfl, rfl⟩), same.2 (.inl sent)⟩
      · exact ⟨k', .inr (.inr mem), sent⟩
      · exact ⟨_, .inr (.inl ⟨rfl, rfl⟩), same.2 (.inr mem)⟩
  have room : ∀ m' ∈ k.pushed now, ∃ n, m'.outlet = .slot n ∧ n < w.system.slots.size := by
    intro m' mem
    have sent : (Call.mk k.start now).accepted? = some m' := by
      rw [← Option.mem_toList, moves.accepted]
      exact List.mem_append_right _ mem
    have message := (Call.accepted?_eq_some.1 sent).2
    rw [Call.message?, start] at message
    cases message
    exact ⟨n, outlet, lt⟩
  exact {
    formed := System.formed_step inv.formed here steps
    sends := fun p mem => by
      rcases List.mem_or_eq_of_mem_set mem with old | rfl
      · obtain ⟨m, n, start, outlet, lt, fits⟩ := inv.sends p old
        exact ⟨m, n, start, outlet, lt.trans_eq size.symm, fits⟩
      · exact ⟨m, n, start, outlet, lt.trans_eq size.symm, (moves.fits.of_send start).1⟩
    distinct := by
      have distinct := inv.distinct
      rw [split, List.filterMap_append, List.filterMap_cons] at distinct
      change List.Nodup ((w.sends.set j _).filterMap _)
      rw [change, List.filterMap_append, List.filterMap_cons]
      exact distinct
    requests := inv.requests.step (a := none) here steps
      (fun p => by rw [mem_accepted, mem_accepted]; exact grown p) room
    listed := inv.listed.step (a := none)
    starts := inv.starts.step (a := none) here started spawned
    phase := inv.phase.step here steps }

/-- The stopping in the background has come further. -/
theorem Inv.sweeps {t t' : Task P} (inv : w.Inv) (task : w.system.tasks = #[t]) (sweeps : w.system.Sweeps t')
    (running : System.isOver t = false) :
    Inv { w with system := { w.system with tasks := w.system.tasks.setIfInBounds 0 t' } } where
  formed := inv.formed
  sends := inv.sends
  distinct := inv.distinct
  requests := inv.requests.congr rfl rfl
  listed := inv.listed.congr rfl rfl
  starts := inv.starts.congr rfl
  phase := by
    cases inv.phase with
    | opened opened nothing waits => simp [nothing] at task
    | @closed t₀ closed outside task₀ _ knows =>
      cases task.symm.trans task₀
      refine .closed closed outside (by rw [task]; rfl) (sweeps.congr rfl) fun x mem => ?_
      -- no shutdown that waited for this task has returned
      have known := knows x mem
      cases x with
      | enter => trivial
      | waiting => exact known
      | returned how =>
        cases how with
        | stopped =>
          rw [Closing.Knows, running] at known
          cases known
        | already | canceled => trivial

/-- Once the system is closed, all actors are started. -/
theorem Inv.started {i : Nat} {c : Cell P R E S} (inv : w.Inv) (outside : ∀ s ∈ w.spawns, s.isInside = false)
    (here : w.system.cells[i]? = some c) : c.started = true := by
  refine (inv.starts.started i c here).resolve_right fun mem => ?_
  obtain ⟨s, mem, cell⟩ := List.mem_filterMap.1 mem
  have inside := outside s mem
  cases now : s.now <;> simp [Spawn.cell?, Spawn.isInside, now] at cell inside

/-- A step of the stopping in the background. -/
theorem Inv.task {k : Nat} {system : System P R E S} (inv : w.Inv)
    (step : w.system.stepTaskAt k = some system) : Inv { w with system } := by
  obtain ⟨t, there, step⟩ := Option.bind_eq_some_iff.1 step
  obtain ⟨⟨sys, t'⟩, move, done⟩ := Option.bind_eq_some_iff.1 step
  cases done
  cases inv.phase with
  | opened opened nothing waits =>
    rw [nothing] at there
    simp at there
  | @closed t₀ closed outside task sweeps knows =>
    obtain ⟨rfl, rfl⟩ : k = 0 ∧ t = t₀ := by
      rw [task] at there
      obtain ⟨lt, rfl⟩ := Array.getElem?_eq_some_iff.1 there
      simp only [List.size_toArray, List.length_singleton, Nat.lt_one_iff] at lt
      subst lt
      exact ⟨rfl, rfl⟩
    cases sweeps with
    | @between rest inside behind =>
      cases rest with
      | nil => cases move
      | cons i rest =>
        cases move
        have lt := inside i List.mem_cons_self
        refine inv.sweeps task (.within (Array.getElem?_eq_getElem lt) .stopCheck .stopCheck
          (fun j mem => inside j (List.mem_cons_of_mem i mem)) fun j lt => ?_) rfl
        exact (or_assoc.1 ((behind j lt).imp_left List.mem_cons.1))
    | @within i caller rest c here fits marks inside behind =>
      by_cases returned : ∃ r, caller = .returned r
      · obtain ⟨r, rfl⟩ := returned
        cases move
        refine inv.sweeps task (.between inside fun j lt => ?_) rfl
        rcases behind j lt with rfl | later
        · cases fits with
          | stopReturned done => exact .inr ⟨c, here, done, marks.final rfl rfl⟩
        · exact later
      · obtain ⟨caller', stops, rfl⟩ : ∃ caller', w.system.stepCaller i caller = some (sys, caller') ∧
            t' = .sweep (some (i, caller')) rest := by
          cases caller with
          | returned r => exact absurd ⟨r, rfl⟩ returned
          | _ =>
            obtain ⟨⟨sys', caller'⟩, stops, done⟩ := Option.bind_eq_some_iff.1 move
            cases done
            exact ⟨caller', stops, rfl⟩
        obtain ⟨c₀, c', a, there', move, rfl⟩ := System.stepCaller_eq_some.1 stops
        cases here.symm.trans there'
        obtain ⟨rfl, steps, fits', marks', started, spawned⟩ :=
          fits.stop_step marks (inv.formed i c here) (inv.started outside here) move
        refine (inv.actor (a := none) here steps started spawned).sweeps
          ((System.tasks_deliver).trans task) (.within ?_ fits' marks' ?_ ?_) rfl
        · rw [System.cells_deliver, System.getElem?_setCell_self here]
        · intro j mem
          rw [System.cells_deliver, System.size_setCell]
          exact inside j mem
        · intro j lt
          rw [System.cells_deliver, System.size_setCell] at lt
          exact (behind j lt).imp_right fun later => later.imp_right fun stopped => stopped.step here steps

end Traffic

/-! ## Every turn, and every run -/

namespace Traffic

variable {h : Handler P R E S} {w w' : Traffic P R E S} {t : Move} {schedule : List Move}

/-- A step of a spawn. -/
theorem Inv.spawn {j : Nat} {s : Spawn P S} {system : System P R E S} {now : Spawning P} (inv : w.Inv)
    (there : w.spawns[j]? = some s) (step : s.step w.system = some (system, now)) :
    Inv { w with system, spawns := w.spawns.set j { s with now } } := by
  have steps := Spawn.step_cases step
  obtain ⟨closed', tasks', size⟩ := steps.kept
  obtain ⟨before, after, split, change⟩ := exists_split there
  have phase : Phase { w with system, spawns := w.spawns.set j { s with now } } := by
    cases inv.phase with
    | opened opened nothing waits => exact .opened (closed'.trans opened) (tasks'.trans nothing) waits
    | closed closed outside task sweeps knows =>
      obtain ⟨rfl, e, rfl⟩ := steps.of_outside closed (outside s (List.mem_of_getElem? there))
      refine .closed closed (fun x mem => ?_) task sweeps knows
      rcases List.mem_or_eq_of_mem_set mem with old | rfl
      · exact outside x old
      · rfl
  have sends : ∀ p ∈ w.sends, ∃ m n, p.2.start = .sendCheck m ∧ m.outlet = .slot n ∧ n < system.slots.size ∧
      ∀ c : Cell P R E S, p.2.Fits c := by
    intro p mem
    obtain ⟨m, n, start, outlet, lt, fits⟩ := inv.sends p mem
    exact ⟨m, n, start, outlet, lt.trans_eq size.symm, fits⟩
  have starts := inv.starts
  rw [split] at starts
  have actors : (∀ (i : Nat) (c : Cell P R E S), system.cells[i]? = some c → c.WellFormed) ∧
      system.Requests w.accepted ∧ system.Listed ∧ system.Starts (w.spawns.set j { s with now }) := by
    rw [change]
    cases steps with
    | fails idle => exact ⟨inv.formed, inv.requests, inv.listed, starts.replace idle rfl (by simp)⟩
    | enters enter =>
      exact ⟨inv.formed, inv.requests, inv.listed, starts.replace (by rw [Spawn.cell?, enter]) rfl (by simp)⟩
    | numbers here =>
      refine ⟨inv.formed, inv.requests.congr rfl rfl, ⟨inv.listed.actors, inv.listed.known⟩,
        (starts.replace (by rw [Spawn.cell?, here]) rfl (by simp)).congr rfl⟩
    | @adds id dir here added =>
      have requests : System.Requests { w.system with directory := dir } w.accepted :=
        inv.requests.congr rfl rfl
      have starts : System.Starts { w.system with directory := dir } (before ++ s :: after) :=
        starts.congr rfl
      refine ⟨fun i c there => ?_, requests.add, inv.listed.add added,
        starts.add (by rw [Spawn.cell?, here]) rfl⟩
      rw [System.getElem?_addCell] at there
      split at there
      · cases there
        exact .of_open (Nat.le_refl _) rfl rfl (by simp)
      · exact inv.formed i c there
    | @starts i caller now c c' a place here move =>
      obtain ⟨d, here', starting⟩ := starts.starting s (by simp) i caller place
      cases here.symm.trans here'
      obtain ⟨starting', started, rfl, steps⟩ := starting.step (inv.formed i c here) move
      exact ⟨System.formed_step inv.formed here steps,
        inv.requests.step (a := none) here steps (by simp) (by simp), inv.listed.step (a := none),
        starts.start (a := none) place here starting' started rfl⟩
    | returns place => exact ⟨inv.formed, inv.requests, inv.listed, starts.done place rfl⟩
  obtain ⟨formed, requests, listed, starts'⟩ := actors
  exact ⟨formed, sends, inv.distinct, requests, listed, starts', phase⟩

/-- A step of a shutdown that does not give up. -/
theorem Inv.shutdown {j : Nat} {x x' : Closing} {system : System P R E S} (inv : w.Inv)
    (there : w.shutdowns[j]? = some x) (free : ¬ (x = .enter ∧ w.spawns.any Spawn.isInside = true))
    (step : x.step w.system = some (system, x')) :
    Inv { w with system, shutdowns := w.shutdowns.set j x' } := by
  have mem := List.mem_of_getElem? there
  cases x with
  | enter =>
    rw [Closing.step] at step
    split at step
    · rename_i closed
      cases step
      refine { inv with phase := ?_ }
      cases inv.phase with
      | opened opened => simp [closed] at opened
      | closed closed outside task sweeps knows =>
        refine .closed closed outside task sweeps fun y mem => ?_
        rcases List.mem_or_eq_of_mem_set mem with old | rfl
        · exact knows y old
        · trivial
    · cases step
      cases inv.phase with
      | closed closed => exact absurd closed ‹_›
      | opened opened nothing waits =>
        have outside : ∀ s ∈ w.spawns, s.isInside = false := by
          intro s mem
          by_contra inside
          exact free ⟨rfl, List.any_eq_true.2 ⟨s, mem, Bool.not_eq_false _ ▸ inside⟩⟩
        have none : w.system.tasks.size = 0 := by rw [nothing]; rfl
        exact {
          formed := inv.formed
          sends := inv.sends
          distinct := inv.distinct
          requests := inv.requests.congr rfl rfl
          listed := inv.listed.congr rfl rfl
          starts := inv.starts.congr rfl
          phase := by
            refine .closed (t := .sweep .none w.system.directory.actors) rfl outside ?_ ?_ fun y mem => ?_
            · change w.system.tasks.push _ = _
              rw [nothing]
              rfl
            · refine .between (fun i mem => ?_) fun i lt => .inl ?_
              · rw [inv.listed.actors] at mem
                exact List.mem_range.1 mem
              · rw [inv.listed.actors]
                exact List.mem_range.2 lt
            · rcases List.mem_or_eq_of_mem_set mem with old | rfl
              · rw [waits y old]
                trivial
              · exact none }
  | waiting k =>
    rw [Closing.step] at step
    split at step
    · rename_i finished
      cases step
      refine { inv with phase := ?_ }
      cases inv.phase with
      | opened _ _ waits => cases waits _ mem
      | @closed t closed outside task sweeps knows =>
        refine .closed closed outside task sweeps fun y mem' => ?_
        rcases List.mem_or_eq_of_mem_set mem' with old | rfl
        · exact knows y old
        · obtain rfl : k = 0 := knows _ mem
          simpa [Closing.Knows, task] using finished
    · cases step
  | returned => cases step

theorem Inv.giveUp {j : Nat} {x x' : Closing} (inv : w.Inv) (there : w.shutdowns[j]? = some x)
    (step : x.giveUp = some x') : Inv { w with shutdowns := w.shutdowns.set j x' } := by
  have mem := List.mem_of_getElem? there
  cases x with
  | enter | returned => cases step
  | waiting k =>
    cases step
    refine { inv with phase := ?_ }
    cases inv.phase with
    | opened _ _ waits => cases waits _ mem
    | closed closed outside task sweeps knows =>
      refine .closed closed outside task sweeps fun y mem' => ?_
      rcases List.mem_or_eq_of_mem_set mem' with old | rfl
      · exact knows y old
      · trivial

/-- What a turn is. -/
inductive Moves (h : Handler P R E S) (w : Traffic P R E S) : Traffic P R E S → Prop where
  | loop {i : Nat} {system : System P R E S} (taken : w.system.stepLoop h i = some system) :
    Moves h w { w with system }
  | task {k : Nat} {system : System P R E S} (taken : w.system.stepTaskAt k = some system) :
    Moves h w { w with system }
  | spawn {j : Nat} {s : Spawn P S} {system : System P R E S} {now : Spawning P}
    (there : w.spawns[j]? = some s) (taken : s.step w.system = some (system, now)) :
    Moves h w { w with system, spawns := w.spawns.set j { s with now } }
  | send {j i : Nat} {k : Call P} {system : System P R E S} {now : Caller P}
    (there : w.sends[j]? = some (i, k)) (taken : w.system.stepCaller i k.now = some (system, now)) :
    Moves h w { w with system, sends := w.sends.set j (i, ⟨k.start, now⟩) }
  | shutdown {j : Nat} {x x' : Closing} {system : System P R E S} (there : w.shutdowns[j]? = some x)
    (free : ¬ (x = .enter ∧ w.spawns.any Spawn.isInside = true))
    (taken : x.step w.system = some (system, x')) :
    Moves h w { w with system, shutdowns := w.shutdowns.set j x' }
  | giveUp {j : Nat} {x x' : Closing} (there : w.shutdowns[j]? = some x) (taken : x.giveUp = some x') :
    Moves h w { w with shutdowns := w.shutdowns.set j x' }

theorem move_cases (step : w.move h t = some w') : w.Moves h w' := by
  cases t with
  | loop i =>
    obtain ⟨system, taken, rfl⟩ := Option.map_eq_some_iff.1 step
    exact .loop taken
  | task k =>
    obtain ⟨system, taken, rfl⟩ := Option.map_eq_some_iff.1 step
    exact .task taken
  | spawn j =>
    obtain ⟨s, there, rest⟩ := Option.bind_eq_some_iff.1 step
    obtain ⟨⟨system, now⟩, taken, done⟩ := Option.bind_eq_some_iff.1 rest
    cases done
    exact .spawn there taken
  | send j =>
    obtain ⟨⟨i, k⟩, there, rest⟩ := Option.bind_eq_some_iff.1 step
    obtain ⟨⟨system, now⟩, taken, done⟩ := Option.bind_eq_some_iff.1 rest
    cases done
    exact .send there taken
  | shutdown j =>
    obtain ⟨x, there, rest⟩ := Option.bind_eq_some_iff.1 step
    split at rest
    · cases rest
    · rename_i free
      obtain ⟨⟨system, x'⟩, taken, done⟩ := Option.bind_eq_some_iff.1 rest
      cases done
      exact .shutdown there free taken
  | giveUp j =>
    obtain ⟨x, there, rest⟩ := Option.bind_eq_some_iff.1 step
    obtain ⟨x', taken, done⟩ := Option.bind_eq_some_iff.1 rest
    cases done
    exact .giveUp there taken

theorem Inv.move (inv : w.Inv) (step : w.move h t = some w') : w'.Inv := by
  cases move_cases step with
  | loop taken => exact inv.loop taken
  | task taken => exact inv.task taken
  | spawn there taken => exact inv.spawn there taken
  | send there taken => exact inv.send there taken
  | shutdown there free taken => exact inv.shutdown there free taken
  | giveUp there taken => exact inv.giveUp there taken

/-- What every turn keeps, every run keeps. -/
theorem play_keeps (keeps : Traffic P R E S → Prop)
    (turn : ∀ w w' t, keeps w → w.move h t = some w' → keeps w') (start : keeps w)
    (played : w.play h schedule = some w') : keeps w' := by
  induction schedule generalizing w with
  | nil =>
    cases played
    exact start
  | cons t schedule ih =>
    rw [play, List.foldlM_cons] at played
    obtain ⟨w₁, step, rest⟩ := Option.bind_eq_some_iff.1 played
    exact ih (turn w w₁ t start step) rest

theorem Fresh.inv (fresh : w.Fresh) : w.Inv := by
  obtain ⟨system, slots, spawns, sends, distinct, shutdowns⟩ := fresh
  have cells : w.system.cells = #[] := by rw [system]
  have nowhere : ∀ (i : Nat) (c : Cell P R E S), w.system.cells[i]? ≠ some c := by simp [cells]
  have idle : w.spawns.filterMap Spawn.cell? = [] := by
    rw [List.filterMap_eq_nil_iff]
    intro s mem
    rw [Spawn.cell?, spawns s mem]
  have nothing : w.accepted = [] := by
    rw [accepted, List.filterMap_eq_nil_iff]
    intro p mem
    obtain ⟨now, m, n, start, -⟩ := sends p mem
    rw [Call.accepted?, now, start]
    rfl
  refine ⟨fun i c here => absurd here (nowhere i c), fun p mem => ?_, distinct, ?_, ?_, ?_, ?_⟩
  · obtain ⟨now, m, n, start, -, outlet, lt⟩ := sends p mem
    refine ⟨m, n, start, outlet, lt, fun c => ?_⟩
    obtain ⟨i, begun, there⟩ := p
    cases now
    cases start
    exact .sendCheck
  · rw [nothing]
    refine ⟨fun i m mem => absurd mem List.not_mem_nil, fun i m mem => absurd mem List.not_mem_nil,
      fun i c here => absurd here (nowhere i c), fun i c here => absurd here (nowhere i c), fun n r here => ?_⟩
    obtain ⟨lt, -⟩ := Array.getElem?_eq_some_iff.1 here
    rw [slots n lt] at here
    cases here
  · rw [system]
    exact ⟨rfl, by simp⟩
  · refine ⟨fun s mem i caller now => ?_, fun i c here => absurd here (nowhere i c), ?_, fun s mem i now => ?_⟩
    · cases (spawns s mem).symm.trans now
    · rw [idle]
      exact List.nodup_nil
    · cases (spawns s mem).symm.trans now
  · exact .opened (by rw [system]) (by rw [system]) shutdowns

/-- The accepted requests have slots of their own. -/
theorem Inv.nodup_accepted (inv : w.Inv) : (w.accepted.map (·.2.outlet)).Nodup := by
  have same : w.accepted.map (·.2.outlet) = (w.sends.filter fun p => Call.sent p.2.now).filterMap fun p =>
      p.2.message?.map (·.outlet) := by
    rw [accepted, List.map_filterMap, List.filterMap_filter]
    refine List.filterMap_congr fun p _ => ?_
    rw [Call.accepted?]
    split <;> simp [Function.comp_def]
  rw [same]
  exact inv.distinct.sublist (List.filter_sublist.filterMap _)

/-- A shutdown has begun, and the spawns that have succeeded are those that had before. -/
structure Shut (w w' : Traffic P R E S) : Prop where
  begun : ∃ x ∈ w'.shutdowns, x ≠ .enter
  spawned : ∀ (j : Nat) (s : Spawn P S) (i : Nat), w'.spawns[j]? = some s → s.now = .returned (.ok i) →
    ∃ s, w.spawns[j]? = some s ∧ s.now = .returned (.ok i)

/-- Once a shutdown has begun, all there is in the background is the stopping, and no spawn is inside. -/
theorem Inv.closed (inv : w.Inv) (begun : ∃ x ∈ w.shutdowns, x ≠ .enter) :
    ∃ t, w.system.closed = true ∧ (∀ s ∈ w.spawns, s.isInside = false) ∧ w.system.tasks = #[t] ∧
      w.system.Sweeps t ∧ ∀ x ∈ w.shutdowns, x.Knows t := by
  cases inv.phase with
  | opened _ _ waits =>
    obtain ⟨x, mem, ne⟩ := begun
    exact absurd (waits x mem) ne
  | @closed t closed outside task sweeps knows => exact ⟨t, closed, outside, task, sweeps, knows⟩

theorem Shut.move {w₀ : Traffic P R E S} (shut : w₀.Shut w) (inv : w.Inv) (step : w.move h t = some w') :
    w₀.Shut w' := by
  obtain ⟨begun, spawned⟩ := shut
  cases move_cases step with
  | loop | task | send => exact ⟨begun, spawned⟩
  | @spawn j s system now there taken =>
    obtain ⟨t, closed, outside, -⟩ := inv.closed begun
    obtain ⟨-, e, rfl⟩ := (Spawn.step_cases taken).of_outside closed (outside s (List.mem_of_getElem? there))
    refine ⟨begun, fun j' s' i there' now => ?_⟩
    change (w.spawns.set j _)[j']? = some s' at there'
    by_cases same : j = j'
    · subst same
      obtain ⟨lt, -⟩ := List.getElem?_eq_some_iff.1 there
      rw [List.getElem?_set_self lt] at there'
      cases there'
      cases now
    · rw [List.getElem?_set_ne same] at there'
      exact spawned j' s' i there' now
  | @shutdown j x x' system there free taken =>
    obtain ⟨lt, -⟩ := List.getElem?_eq_some_iff.1 there
    refine ⟨⟨x', List.mem_set lt _, ?_⟩, spawned⟩
    rintro rfl
    cases x <;> rw [Closing.step] at taken <;> first | cases taken | split at taken <;> cases taken
  | @giveUp j x x' there taken =>
    obtain ⟨lt, -⟩ := List.getElem?_eq_some_iff.1 there
    refine ⟨⟨x', List.mem_set lt _, ?_⟩, spawned⟩
    rintro rfl
    cases x <;> cases taken

end Traffic

/-- In every interleaving of spawns, sends, shutdowns and the loops of the actors, no spawn succeeds after a
shutdown has returned without an error. If it was the one that closed the system, or if all that it began to
stop in the background has come to its end, then every actor that was spawned is stopped or has failed, and
the slot of every request that was accepted holds the reply of the actor that accepted it. -/
theorem shutdown_complete {h : Handler P R E S} {w₀ w : Traffic P R E S} {schedule : List Move}
    (fresh : w₀.Fresh) (played : w₀.play h schedule = some w) :
    ∀ x ∈ w.shutdowns, x.succeeded = true →
      (∀ later w', w.play h later = some w' → ∀ (j : Nat) (s : Spawn P S) (i : Nat),
        w'.spawns[j]? = some s → s.now = .returned (.ok i) →
          ∃ s, w.spawns[j]? = some s ∧ s.now = .returned (.ok i)) ∧
      (x = .returned .stopped ∨ (∀ t ∈ w.system.tasks, System.isOver t = true) →
        (∀ s ∈ w.spawns, ∀ i, s.now = .returned (.ok i) →
          ∃ c, w.system.cells[i]? = some c ∧ (c.state = .stopped ∨ c.state = .failed)) ∧
        ∀ p ∈ w.sends, ∀ m, p.2.message? = some m → Call.sent p.2.now = true →
          ∃ c n r, w.system.cells[p.1]? = some c ∧ m.outlet = .slot n ∧
            w.system.slots[n]? = some (some r) ∧ c.Replies m r) := by
  have inv : w.Inv := Traffic.play_keeps Traffic.Inv (fun _ _ _ inv step => inv.move step) fresh.inv played
  intro x mem succeeded
  have begun : ∃ x ∈ w.shutdowns, x ≠ .enter := ⟨x, mem, by rintro rfl; cases succeeded⟩
  refine ⟨fun later w' more => ?_, fun finished => ?_⟩
  · have shut := Traffic.play_keeps (fun w' => w'.Inv ∧ w.Shut w')
      (fun _ _ _ ⟨inv, shut⟩ step => ⟨inv.move step, shut.move inv step⟩)
      ⟨inv, begun, fun j s i there now => ⟨s, there, now⟩⟩ more
    exact shut.2.spawned
  · obtain ⟨t, -, -, task, sweeps, knows⟩ := inv.closed begun
    have ended : System.isOver t = true := by
      rcases finished with rfl | finished
      · exact knows _ mem
      · exact finished t (by simp [task])
    have stopped : ∀ i < w.system.cells.size, w.system.Stopped i := by
      cases sweeps with
      | @between rest inside behind =>
        cases rest with
        | nil => exact fun i lt => (behind i lt).resolve_left List.not_mem_nil
        | cons => cases ended
      | within => cases ended
    refine ⟨fun s mem i now => ?_, fun p mem m message sent => ?_⟩
    · obtain ⟨c, here, -, final⟩ := stopped i (inv.starts.spawned s mem i now)
      refine ⟨c, here, ?_⟩
      cases state : c.state <;> simp_all [State.isFinal]
    · obtain ⟨i, k⟩ := p
      have accepted : (i, m) ∈ w.accepted :=
        Traffic.mem_accepted.2 ⟨k, mem, Call.accepted?_eq_some.2 ⟨sent, message⟩⟩
      obtain ⟨c, here, -⟩ := inv.requests.held i m accepted
      obtain ⟨d, there, done, -⟩ := stopped i (Array.getElem?_eq_some_iff.1 here).1
      cases here.symm.trans there
      obtain ⟨n, r, outlet, slot, replies⟩ :=
        inv.requests.answered inv.nodup_accepted (inv.formed i c here) done here accepted
      exact ⟨c, n, r, here, outlet, slot, replies⟩

/-- An actor with one request, and a shutdown that waits for it. -/
theorem shutdown_complete_waited :
    let h : Handler Unit Unit Empty Unit := { run := fun _ _ => (.returned (some ()) none, ()) }
    let m : Message Unit := { payload := (), outlet := .slot 0 }
    let w₀ : Traffic Unit Unit Empty Unit := {
      system := { slots := #[none] }
      spawns := [{ memory := () }]
      sends := [(0, ⟨.sendCheck m, .sendCheck m⟩)]
      shutdowns := [.enter] }
    let turns : List (Nat × Move) := [(6, .spawn 0), (3, .send 0), (1, .shutdown 0), (6, .task 0), (7, .loop 0),
      (3, .task 0), (1, .shutdown 0)]
    let schedule := turns.flatMap fun t => List.replicate t.1 t.2
    ∃ w, w₀.play h schedule = some w ∧
      (∃ c, w.system.cells[0]? = some c ∧ (c.state = .stopped ∨ c.state = .failed)) ∧
      ∃ c n r, w.system.cells[0]? = some c ∧ m.outlet = .slot n ∧ w.system.slots[n]? = some (some r) ∧
        c.Replies m r := by
  intro h m w₀ turns schedule
  have fresh : w₀.Fresh := by
    have slots : ∀ n < w₀.system.slots.size, w₀.system.slots[n]? = some none
      | 0, _ => rfl
    refine ⟨rfl, slots, fun s mem => ?_, fun p mem => ?_, List.nodup_singleton _, fun x mem => ?_⟩
    · rw [List.mem_singleton.1 mem]
    · rw [List.mem_singleton.1 mem]
      exact ⟨rfl, m, 0, rfl, rfl, rfl, Nat.zero_lt_one⟩
    · exact List.mem_singleton.1 mem
  have run : (w₀.play h schedule).map (fun w => (w.shutdowns, w.spawns.map Spawn.now, w.sends)) =
      some ([.returned .stopped], [.returned (.ok 0)], [(0, ⟨.sendCheck m, .returned (.ok ())⟩)]) := by cbv
  obtain ⟨w, played, seen⟩ := Option.map_eq_some_iff.1 run
  simp only [Prod.mk.injEq] at seen
  obtain ⟨shutdowns, spawns, sends⟩ := seen
  obtain ⟨-, complete⟩ := shutdown_complete fresh played (.returned .stopped) (by simp [shutdowns]) rfl
  obtain ⟨stopped, answered⟩ := complete (.inl rfl)
  obtain ⟨s, mem, now⟩ := List.mem_map.1 (spawns ▸ List.mem_singleton_self _ :
    (Spawning.returned (.ok 0) : Spawning Unit) ∈ w.spawns.map Spawn.now)
  exact ⟨w, played, stopped s mem 0 now, answered (0, _) (by simp [sends]; rfl) m rfl rfl⟩

/-- The first shutdown gives up while the actor still has a request to answer. The second one returns
without an error at once. -/
theorem shutdown_already_unfinished :
    let h : Handler Unit Unit Empty Unit := { run := fun _ _ => (.returned (some ()) none, ()) }
    let m : Message Unit := { payload := (), outlet := .slot 0 }
    let w₀ : Traffic Unit Unit Empty Unit := {
      system := { slots := #[none] }
      spawns := [{ memory := () }]
      sends := [(0, ⟨.sendCheck m, .sendCheck m⟩)]
      shutdowns := [.enter, .enter] }
    let turns : List (Nat × Move) := [(6, .spawn 0), (3, .send 0), (1, .shutdown 0), (1, .giveUp 0),
      (1, .shutdown 1)]
    let schedule := turns.flatMap fun t => List.replicate t.1 t.2
    w₀.Fresh ∧ ∃ w, w₀.play h schedule = some w ∧
      w.shutdowns = [.returned .canceled, .returned .already] ∧
      w.spawns.map Spawn.now = [.returned (.ok 0)] ∧ w.system.cells.map (·.state) = #[.idle] ∧
      w.sends = [(0, ⟨.sendCheck m, .returned (.ok ())⟩)] ∧ w.system.slots = #[none] := by
  intro h m w₀ turns schedule
  refine ⟨?_, ?_⟩
  · have slots : ∀ n < w₀.system.slots.size, w₀.system.slots[n]? = some none
      | 0, _ => rfl
    refine ⟨rfl, slots, fun s mem => ?_, fun p mem => ?_, List.nodup_singleton _, fun x mem => ?_⟩
    · rw [List.mem_singleton.1 mem]
    · rw [List.mem_singleton.1 mem]
      exact ⟨rfl, m, 0, rfl, rfl, rfl, Nat.zero_lt_one⟩
    · rcases List.mem_pair.1 mem with rfl | rfl <;> rfl
  · have run : (w₀.play h schedule).map (fun w => (w.shutdowns, w.spawns.map Spawn.now,
        w.system.cells.map (·.state), w.sends, w.system.slots)) =
        some ([.returned .canceled, .returned .already], [.returned (.ok 0)], #[.idle],
          [(0, ⟨.sendCheck m, .returned (.ok ())⟩)], #[none]) := by cbv
    obtain ⟨w, played, seen⟩ := Option.map_eq_some_iff.1 run
    simp only [Prod.mk.injEq] at seen
    exact ⟨w, played, seen⟩

end TermBot.Actor
