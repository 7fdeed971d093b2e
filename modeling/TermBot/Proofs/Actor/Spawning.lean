import TermBot.Proofs.Actor.Traffic

/-!
# Spawning actors

A spawn, step by step: it finds out whether the system is open, takes a number, registers the new actor and
starts it. From the first of these steps until it returns it is inside, which holds off every shutdown. Taken
in a row, the steps are the spawn of the system (`Spawn.run_eq`); in between, others take theirs. Even so,
the directory lists all actors in the order of their creation (`System.Listed`), and every actor is started,
or is being started by the one spawn that has added it (`System.Starts`).
-/

namespace TermBot.Actor

variable {P R E S : Type}

/-- Where a spawn stands. -/
inductive Spawning (P : Type) where
  /-- About to find out whether the system is open. -/
  | enter
  /-- About to take a number. -/
  | numbering
  /-- About to register the new actor. -/
  | adding (id : UInt32)
  /-- Starting the new actor. -/
  | starting (i : Nat) (caller : Caller P)
  | returned (result : Except SpawnError Nat)

/-- A spawn of an actor, under the name of a service if there is one. -/
structure Spawn (P S : Type) where
  service : Option String := none
  name : String := ""
  hasHandler : Bool := true
  memory : S
  now : Spawning P := .enter

namespace Spawn

/-- The spawn has found the system open and has not returned. -/
def isInside (s : Spawn P S) : Bool :=
  match s.now with
  | .numbering | .adding _ | .starting .. => true
  | _ => false

/-- The actor that is being started. -/
def cell? (s : Spawn P S) : Option Nat :=
  match s.now with
  | .starting i _ => some i
  | _ => none

/-- The name of the new actor. -/
def label (s : Spawn P S) : String := if s.name.isEmpty then s.service.getD "" else s.name

/-- Returns with an error. -/
def fail (s : Spawn P S) (e : SpawnError) : Spawning P :=
  .returned (.error (match s.service with
    | none => e
    | some service => .service service e))

/-- One step of a spawn. -/
def step (sys : System P R E S) (s : Spawn P S) : Option (System P R E S × Spawning P) :=
  match s.now with
  | .enter =>
    if s.service = some "" then some (sys, .returned (.error .noName))
    else if sys.closed then some (sys, s.fail .shutDown)
    else if !s.hasHandler then some (sys, s.fail .noHandler)
    else some (sys, .numbering)
  | .numbering =>
    let (id, dir) := sys.directory.allocate
    some ({ sys with directory := dir }, .adding id)
  | .adding id =>
    match sys.directory.add (some (id, sys.cells.size)) (s.service.getD "") with
    | (.error e, dir) => some ({ sys with directory := dir }, s.fail (.refused e))
    | (.ok _, dir) =>
      let (i, sys) := { sys with directory := dir }.addCell id s.label s.memory
      some (sys, .starting i .startMark)
  | .starting i (.returned _) => some (sys, .returned (.ok i))
  | .starting i caller => do
    let (sys, caller) ← sys.stepCaller i caller
    return (sys, .starting i caller)
  | .returned _ => none

/-- Takes steps, `limit` at most. -/
def run : (limit : Nat) → System P R E S → Spawn P S → System P R E S × Spawning P
  | 0, sys, s => (sys, s.now)
  | n + 1, sys, s =>
    match s.step sys with
    | some (sys, now) => run n sys { s with now }
    | none => (sys, s.now)

end Spawn

section Uninterrupted

variable {h : Handler P R E S} {sys : System P R E S} {s : Spawn P S} {i : Nat} {c : Cell P R E S}

/-- The two steps that start a new actor. -/
theorem stepCaller_start (here : sys.cells[i]? = some c) (unmarked : c.started = false) :
    ∃ sys₁ sys₂, sys.stepCaller i .startMark = some (sys₁, .startSpawn) ∧
      sys₁.stepCaller i .startSpawn = some (sys₂, .returned (.ok ())) := by
  have mark : c.callerStep .startMark = some ({ c with started := true }, .startSpawn, none) := by
    rw [Cell.callerStep, unmarked]
    rfl
  exact ⟨_, _, System.stepCaller_eq_some.2 ⟨c, _, none, here, mark, rfl⟩,
    System.stepCaller_eq_some.2 ⟨_, _, none, System.getElem?_setCell_self here, rfl, rfl⟩⟩

theorem four_le_budget (sys : System P R E S) : 4 ≤ sys.budget := by
  rw [System.budget]
  generalize List.foldr _ _ _ = queued
  exact (show 4 ≤ 32 * (queued + 2) by omega).trans
    ((Nat.le_mul_of_pos_right _ (Nat.succ_pos _)).trans (Nat.le_add_right _ _))

theorem perform_start {sys₁ sys₂ : System P R E S}
    (mark : sys.stepCaller i .startMark = some (sys₁, .startSpawn))
    (spawn : sys₁.stepCaller i .startSpawn = some (sys₂, .returned (.ok ()))) :
    (sys.perform h i .startMark).2 = sys₂ := by
  obtain ⟨n, budget⟩ := Nat.exists_eq_add_of_le' (four_le_budget sys)
  simp only [System.perform, budget, System.performFor, mark, spawn]

theorem Spawn.run_of_step {sys' : System P R E S} {now : Spawning P} {n : Nat}
    (step : s.step sys = some (sys', now)) : s.run (n + 1) sys = { s with now }.run n sys' := by
  rw [run, step]

theorem Spawn.run_of_returned {r : Except SpawnError Nat} {n : Nat} (returned : s.now = .returned r) :
    s.run n sys = (sys, .returned r) := by
  cases n with
  | zero => rw [run, returned]
  | succ n => simp only [run, step, returned]

/-- A spawn that nothing interrupts does what the system does at once, but for the name of the service in
its error. -/
theorem Spawn.run_named (enter : s.now = .enter) (named : s.service ≠ some "") :
    s.run 6 sys = match sys.spawn h (s.service.getD "") s.label s.hasHandler s.memory with
      | (.ok i, sys') => (sys', .returned (.ok i))
      | (.error e, sys') => (sys', s.fail e) := by
  have failed : ∀ {e sys'} {s : Spawn P S}, s.step sys = some (sys', s.fail e) →
      s.run 6 sys = (sys', s.fail e) := fun step => (run_of_step step).trans (run_of_returned rfl)
  obtain ⟨service, name, hasHandler, memory, now⟩ := s
  cases enter
  rw [System.spawn]
  by_cases closed : sys.closed = true
  · rw [if_pos closed]
    exact failed (by rw [step, if_neg named, if_pos closed])
  rw [if_neg closed]
  cases hasHandler with
  | false => exact failed (by rw [step, if_neg named, if_neg closed]; rfl)
  | true =>
    have enter : step sys ⟨service, name, true, memory, .enter⟩ = some (sys, .numbering) := by
      rw [step, if_neg named, if_neg closed]
      rfl
    have number : step sys ⟨service, name, true, memory, .numbering⟩ =
        some ({ sys with directory := sys.directory.allocate.2 }, .adding sys.directory.allocate.1) := rfl
    rw [run_of_step enter, run_of_step number, if_neg (by simp)]
    rcases added : sys.directory.allocate.2.add (some (sys.directory.allocate.1, sys.cells.size))
      (service.getD "") with ⟨e | _, dir⟩
    · simp only [run, step, added, fail]
    · have new := System.getElem?_addCell { sys with directory := dir } sys.directory.allocate.1
        (label (P := P) ⟨service, name, true, memory, .enter⟩) memory sys.cells.size
      obtain ⟨sys₁, sys₂, mark, spawn⟩ := stepCaller_start (new.trans (if_pos rfl)) rfl
      have performed := perform_start (h := h) mark spawn
      have label : label ⟨service, name, true, memory, .adding (P := P) sys.directory.allocate.1⟩ =
        label (P := P) ⟨service, name, true, memory, .enter⟩ := rfl
      simp only [run, step, added, label, System.addCell_fst, mark, spawn, performed, Option.bind_eq_bind,
        Option.bind_some, Option.pure_def]

/-- A spawn that nothing interrupts is the one of the system. -/
theorem Spawn.run_eq (enter : s.now = .enter) :
    let (r, sys') := match s.service with
      | none => sys.spawn h "" s.name s.hasHandler s.memory
      | some service => sys.spawnService h service s.name s.hasHandler s.memory
    s.run 6 sys = (sys', .returned r) := by
  by_cases named : s.service = some ""
  · have refuse : s.step sys = some (sys, .returned (.error .noName)) := by rw [step, enter, if_pos named]
    rw [run_of_step refuse, run_of_returned rfl, named]
    rfl
  have all : s.run 6 sys = _ := run_named (h := h) enter named
  obtain ⟨service, name, hasHandler, memory, now⟩ := s
  cases service with
  | none =>
    have label : (if name.isEmpty = true then "" else name) = name := by
      split
      · rename_i empty
        exact (String.isEmpty_iff.1 empty).symm
      · rfl
    simp only [fail, Spawn.label, Option.getD_none, label] at all
    rw [all]
    rcases sys.spawn h "" name hasHandler memory with ⟨_ | _, _⟩ <;> rfl
  | some service =>
    have filled : ¬ service.isEmpty = true := by
      rw [String.isEmpty_iff]
      exact fun empty => named (by rw [empty])
    simp only [fail, Spawn.label, Option.getD_some] at all
    simp only [System.spawnService, if_neg filled]
    rw [all]
    rcases sys.spawn h service (if name.isEmpty = true then service else name) hasHandler memory with
      ⟨_ | _, _⟩ <;> rfl

end Uninterrupted

/-! ## What holds in between -/

/-- Where the start of an actor stands. -/
inductive Cell.Starting (c : Cell P R E S) : Caller P → Prop where
  | mark (unmarked : c.started = false) (unborn : c.isSpawned = false) : Starting c .startMark
  | spawn (started : c.started = true) (unborn : c.isSpawned = false) : Starting c .startSpawn
  | returned (started : c.started = true) : Starting c (.returned (.ok ()))

/-- The directory lists all actors in the order of their creation. -/
structure System.Listed (sys : System P R E S) : Prop where
  actors : sys.directory.actors = List.range sys.cells.size
  known : ∀ id ∈ sys.directory.order, (sys.directory.byId.lookup id).isSome = true

/-- Every actor is started, or is being started by the one spawn that has added it. -/
structure System.Starts (sys : System P R E S) (spawns : List (Spawn P S)) : Prop where
  starting : ∀ s ∈ spawns, ∀ i caller, s.now = .starting i caller →
    ∃ c, sys.cells[i]? = some c ∧ c.Starting caller
  started : ∀ i c, sys.cells[i]? = some c → c.started = true ∨ i ∈ spawns.filterMap Spawn.cell?
  distinct : (spawns.filterMap Spawn.cell?).Nodup
  spawned : ∀ s ∈ spawns, ∀ i, s.now = .returned (.ok i) → i < sys.cells.size

section Frame

variable {sys sys' : System P R E S} {i : Nat} {c c' : Cell P R E S} {a : Option (Answer R E)}
  {caller now : Caller P} {spawns : List (Spawn P S)}

theorem Cell.Starting.congr (starting : c.Starting caller) (started : c'.started = c.started)
    (spawned : c'.isSpawned = c.isSpawned) : c'.Starting caller := by
  cases starting with
  | mark unmarked unborn => exact .mark (started.trans unmarked) (spawned.trans unborn)
  | spawn here unborn => exact .spawn (started.trans here) (spawned.trans unborn)
  | returned here => exact .returned (started.trans here)

/-- Only a start starts the actor. -/
theorem Cell.Changes.start_eq (changes : c.Changes caller c') (unmarked : caller ≠ .startMark)
    (unborn : caller ≠ .startSpawn) : c'.started = c.started ∧ c'.isSpawned = c.isSpawned := by
  cases changes with
  | start => exact absurd rfl unmarked
  | spawn => exact absurd rfl unborn
  | _ => exact ⟨rfl, rfl⟩

/-- A step of the start of an actor. -/
theorem Cell.Starting.step (starting : c.Starting caller) (formed : c.WellFormed)
    (step : c.callerStep caller = some (c', now, a)) :
    c'.Starting now ∧ c'.started = true ∧ a = none ∧ c.Steps c' [] [] := by
  have fits : (Call.mk .startMark caller).Fits c := by
    cases starting with
    | mark => exact .startMark
    | spawn => exact .startSpawn
    | returned => exact .startReturned
  have marks : (Call.mk .startMark caller).Marks c.state := by
    cases starting <;> exact .other rfl rfl
  have moves := fits.step formed (by cases starting <;> simp [Call.beginsStop])
    (by cases starting <;> simp_all [Call.isSpawning]) step
  have steps := moves.steps (marks.step step).1
  cases starting with
  | mark unmarked unborn =>
    rw [Cell.callerStep, unmarked] at step
    cases step
    exact ⟨.spawn rfl unborn, rfl, rfl, steps⟩
  | spawn started unborn =>
    cases step
    exact ⟨.returned started, started, rfl, steps⟩
  | returned => cases step

theorem System.Listed.step (listed : sys.Listed) : ((sys.setCell i c').deliver a).Listed := by
  refine ⟨?_, ?_⟩
  · rw [cells_deliver, directory_deliver, size_setCell]
    exact listed.actors
  · rw [directory_deliver]
    exact listed.known

theorem System.Starts.step (starts : sys.Starts spawns) (here : sys.cells[i]? = some c)
    (started : c'.started = c.started) (spawned : c'.isSpawned = c.isSpawned) :
    ((sys.setCell i c').deliver a).Starts spawns where
  starting s mem j caller now := by
    obtain ⟨d, there, starting⟩ := starts.starting s mem j caller now
    by_cases same : j = i
    · subst same
      cases here.symm.trans there
      exact ⟨c', by rw [cells_deliver, getElem?_setCell_self here], starting.congr started spawned⟩
    · exact ⟨d, by rw [cells_deliver, getElem?_setCell_ne same, there], starting⟩
  started j d there := by
    rw [cells_deliver] at there
    rcases getElem?_setCell here there with ⟨rfl, rfl⟩ | ⟨-, there⟩
    · exact (starts.started j c here).imp_left started.trans
    · exact starts.started j d there
  distinct := starts.distinct
  spawned s mem j now := by
    rw [cells_deliver, size_setCell]
    exact starts.spawned s mem j now

theorem System.Listed.congr (listed : sys.Listed) (cells : sys'.cells = sys.cells)
    (directory : sys'.directory = sys.directory) : sys'.Listed :=
  ⟨by rw [cells, directory, listed.actors], by rw [directory]; exact listed.known⟩

theorem System.Starts.congr {spawns : List (Spawn P S)} (starts : sys.Starts spawns)
    (cells : sys'.cells = sys.cells) : sys'.Starts spawns := by
  obtain ⟨starting, started, distinct, spawned⟩ := starts
  rw [← cells] at starting started spawned
  exact ⟨starting, started, distinct, spawned⟩

end Frame

/-! ## Steps of a spawn -/

/-- What a step of a spawn does. -/
inductive Spawn.Steps (sys : System P R E S) (s : Spawn P S) : System P R E S → Spawning P → Prop where
  | fails {e : SpawnError} (idle : s.cell? = none) : Steps sys s sys (.returned (.error e))
  | enters (enter : s.now = .enter) (opened : sys.closed = false) : Steps sys s sys .numbering
  | numbers (here : s.now = .numbering) :
    Steps sys s { sys with directory := sys.directory.allocate.2 } (.adding sys.directory.allocate.1)
  | adds {id : UInt32} {dir : Directory Nat} (here : s.now = .adding id)
    (added : sys.directory.add (some (id, sys.cells.size)) (s.service.getD "") = (.ok (), dir)) :
    Steps sys s ({ sys with directory := dir }.addCell id s.label s.memory).2
      (.starting sys.cells.size .startMark)
  | starts {i : Nat} {caller now : Caller P} {c c' : Cell P R E S} {a : Option (Answer R E)}
    (place : s.now = .starting i caller) (here : sys.cells[i]? = some c)
    (move : c.callerStep caller = some (c', now, a)) :
    Steps sys s ((sys.setCell i c').deliver a) (.starting i now)
  | returns {i : Nat} {r : Except Refusal Unit} (place : s.now = .starting i (.returned r)) :
    Steps sys s sys (.returned (.ok i))

section Spawns

variable {sys sys' : System P R E S} {s : Spawn P S} {now : Spawning P}

theorem Spawn.step_cases (step : s.step sys = some (sys', now)) : s.Steps sys sys' now := by
  rw [Spawn.step] at step
  cases place : s.now with
  | enter =>
    have idle : s.cell? = none := by rw [cell?, place]
    rw [place] at step
    simp only at step
    split at step
    · cases step
      exact .fails idle
    · split at step
      · cases step
        exact .fails idle
      · rename_i opened
        split at step <;> cases step
        · exact .fails idle
        · exact .enters place (Bool.eq_false_iff.2 opened)
  | numbering =>
    rw [place] at step
    cases step
    exact .numbers place
  | adding id =>
    rw [place] at step
    simp only at step
    split at step
    · rename_i failed
      cases step
      rw [Directory.add_eq_error failed]
      exact .fails (by rw [cell?, place])
    · cases step
      exact .adds place ‹_›
  | starting i caller =>
    rw [place] at step
    cases caller with
    | returned r =>
      cases step
      exact .returns place
    | _ =>
      obtain ⟨⟨sys₁, caller'⟩, starts, done⟩ := Option.bind_eq_some_iff.1 step
      cases done
      obtain ⟨c, c', a, here, move, rfl⟩ := System.stepCaller_eq_some.1 starts
      exact .starts place here move
  | returned r =>
    rw [place] at step
    cases step

/-- No spawn opens the system, or does anything in the background. -/
theorem Spawn.Steps.kept (steps : s.Steps sys sys' now) :
    sys'.closed = sys.closed ∧ sys'.tasks = sys.tasks ∧ sys'.slots.size = sys.slots.size := by
  cases steps with
  | starts => exact ⟨System.closed_deliver, System.tasks_deliver, (System.slots_deliver _ _).1⟩
  | _ => exact ⟨rfl, rfl, rfl⟩

/-- Once the system is closed, a spawn that is not inside only fails. -/
theorem Spawn.Steps.of_outside (steps : s.Steps sys sys' now) (closed : sys.closed = true)
    (outside : s.isInside = false) : sys' = sys ∧ ∃ e, now = .returned (.error e) := by
  cases steps with
  | fails => exact ⟨rfl, _, rfl⟩
  | enters _ opened => simp [closed] at opened
  | numbers here | adds here => simp [Spawn.isInside, here] at outside
  | starts place | returns place => simp [Spawn.isInside, place] at outside

theorem Directory.add_eq_ok {α : Type} {d d' : Directory α} {id : UInt32} {x : α} {name : String}
    (added : d.add (some (id, x)) name = (.ok (), d')) :
    d.byId.lookup id = none ∧ d'.byId = (id, x) :: d.byId ∧ d'.order = d.order ++ [id] := by
  rw [add] at added
  split at added
  · cases added
  · rename_i fresh
    rw [Option.not_isSome_iff_eq_none] at fresh
    split at added
    · cases added
      exact ⟨fresh, rfl, rfl⟩
    · split at added
      · cases added
      · cases added
        exact ⟨fresh, rfl, rfl⟩

/-- The directory lists a new actor after the others. -/
theorem System.Listed.add {id : UInt32} {name label : String} {memory : S} {dir : Directory Nat}
    (listed : sys.Listed) (added : sys.directory.add (some (id, sys.cells.size)) name = (.ok (), dir)) :
    (({ sys with directory := dir } : System P R E S).addCell id label memory).2.Listed := by
  obtain ⟨fresh, byId, order⟩ := Directory.add_eq_ok added
  have others : ∀ old ∈ sys.directory.order, dir.byId.lookup old = sys.directory.byId.lookup old := by
    intro old mem
    have ne : old ≠ id := by
      rintro rfl
      simpa [fresh] using listed.known old mem
    rw [byId, List.lookup_cons, beq_eq_false_iff_ne.2 ne]
  refine ⟨?_, fun old mem => ?_⟩
  · change dir.order.filterMap (fun old => dir.byId.lookup old) =
      List.range (sys.cells.push { id, name := label, memory }).size
    rw [order, List.filterMap_append, List.filterMap_congr others, Array.size_push, List.range_succ,
      ← listed.actors, byId]
    simp [Directory.actors]
  · change old ∈ dir.order at mem
    change (dir.byId.lookup old).isSome = true
    rw [order, List.mem_append, List.mem_singleton] at mem
    rcases mem with mem | rfl
    · rw [others old mem]
      exact listed.known old mem
    · simp [byId]

theorem Spawn.cell?_eq_some {i : Nat} : s.cell? = some i ↔ ∃ caller, s.now = .starting i caller := by
  rw [Spawn.cell?]
  split <;> simp_all

variable {before after : List (Spawn P S)} {s' : Spawn P S}

/-- The spawns after one of them has taken a step. -/
theorem mem_replace {x : Spawn P S} (mem : x ∈ before ++ s' :: after) :
    x = s' ∨ x ∈ before ++ after ∧ x ∈ before ++ s :: after := by
  simp only [List.mem_append, List.mem_cons] at mem ⊢
  tauto

theorem filterMap_replace (before after : List (Spawn P S)) (s : Spawn P S) :
    (before ++ s :: after).filterMap Spawn.cell? =
      before.filterMap Spawn.cell? ++ (s.cell?.toList ++ after.filterMap Spawn.cell?) := by
  rw [List.filterMap_append, List.filterMap_cons]
  cases s.cell? <;> rfl

/-- A spawn takes a step that starts no actor and leaves the actors as they are. -/
theorem System.Starts.replace (starts : sys.Starts (before ++ s :: after)) (idle : s.cell? = none)
    (idle' : s'.cell? = none) (failed : ∀ i, s'.now ≠ .returned (.ok i)) :
    sys.Starts (before ++ s' :: after) := by
  have cells : (before ++ s' :: after).filterMap Spawn.cell? =
      (before ++ s :: after).filterMap Spawn.cell? := by
    rw [filterMap_replace, filterMap_replace, idle, idle']
  refine ⟨fun x mem i caller now => ?_, fun i c here => ?_, ?_, fun x mem i now => ?_⟩
  · rcases mem_replace (s := s) mem with rfl | ⟨-, old⟩
    · simp [Spawn.cell?, now] at idle'
    · exact starts.starting x old i caller now
  · rw [cells]
    exact starts.started i c here
  · rw [cells]
    exact starts.distinct
  · rcases mem_replace (s := s) mem with rfl | ⟨-, old⟩
    · exact absurd now (failed i)
    · exact starts.spawned x old i now

/-- A spawn has added its actor. -/
theorem System.Starts.add {id : UInt32} {label : String} {memory : S}
    (starts : sys.Starts (before ++ s :: after)) (idle : s.cell? = none)
    (place : s'.now = .starting sys.cells.size .startMark) :
    (sys.addCell id label memory).2.Starts (before ++ s' :: after) := by
  have cell : s'.cell? = some sys.cells.size := Spawn.cell?_eq_some.2 ⟨_, place⟩
  have kept : ∀ {i : Nat} {c : Cell P R E S}, sys.cells[i]? = some c →
      i < sys.cells.size ∧ (sys.addCell id label memory).2.cells[i]? = some c := by
    intro i c here
    obtain ⟨lt, -⟩ := Array.getElem?_eq_some_iff.1 here
    exact ⟨lt, by rw [getElem?_addCell, if_neg (Nat.ne_of_lt lt), here]⟩
  have distinct := starts.distinct
  rw [filterMap_replace, idle] at distinct
  refine ⟨fun x mem i caller now => ?_, fun i c there => ?_, ?_, fun x mem i now => ?_⟩
  · rcases mem_replace (s := s) mem with rfl | ⟨-, old⟩
    · cases place.symm.trans now
      exact ⟨_, (getElem?_addCell ..).trans (if_pos rfl), .mark rfl rfl⟩
    · obtain ⟨c, here, starting⟩ := starts.starting x old i caller now
      exact ⟨c, (kept here).2, starting⟩
  · rw [filterMap_replace, cell]
    rw [getElem?_addCell] at there
    split at there
    · rename_i same
      exact .inr (by simp [same])
    · refine (starts.started i c there).imp_right fun mem => ?_
      rw [filterMap_replace, idle] at mem
      simp only [List.mem_append, Option.toList, List.not_mem_nil, false_or, List.mem_singleton] at mem ⊢
      tauto
  · -- the actors that are being started exist, and this one is new
    have new : sys.cells.size ∉ before.filterMap Spawn.cell? ++ after.filterMap Spawn.cell? := by
      intro mem
      rw [← List.filterMap_append] at mem
      obtain ⟨x, mem, starting⟩ := List.mem_filterMap.1 mem
      obtain ⟨caller, now⟩ := Spawn.cell?_eq_some.1 starting
      have old : x ∈ before ++ s :: after := by
        simp only [List.mem_append, List.mem_cons] at mem ⊢
        tauto
      obtain ⟨c, here, -⟩ := starts.starting x old _ caller now
      exact Nat.lt_irrefl _ (kept here).1
    rw [filterMap_replace, cell]
    exact List.nodup_middle.2 (List.nodup_cons.2 ⟨new, distinct⟩)
  · have size : (sys.addCell id label memory).2.cells.size = sys.cells.size + 1 := Array.size_push ..
    rcases mem_replace (s := s) mem with rfl | ⟨-, old⟩
    · cases place.symm.trans now
    · rw [size]
      exact Nat.lt_succ_of_lt (starts.spawned x old i now)

/-- A step of the start of an actor. -/
theorem System.Starts.start {i : Nat} {caller now : Caller P} {c c' : Cell P R E S} {a : Option (Answer R E)}
    (starts : sys.Starts (before ++ s :: after)) (place : s.now = .starting i caller)
    (here : sys.cells[i]? = some c) (starting : c'.Starting now) (started : c'.started = true)
    (place' : s'.now = .starting i now) : ((sys.setCell i c').deliver a).Starts (before ++ s' :: after) := by
  have cell : s.cell? = some i := Spawn.cell?_eq_some.2 ⟨_, place⟩
  have cell' : s'.cell? = some i := Spawn.cell?_eq_some.2 ⟨_, place'⟩
  have cells : (before ++ s' :: after).filterMap Spawn.cell? =
      (before ++ s :: after).filterMap Spawn.cell? := by
    rw [filterMap_replace, filterMap_replace, cell, cell']
  have distinct := starts.distinct
  rw [filterMap_replace, cell] at distinct
  have alone : i ∉ before.filterMap Spawn.cell? ++ after.filterMap Spawn.cell? :=
    (List.nodup_cons.1 (List.nodup_middle.1 distinct)).1
  refine ⟨fun x mem j caller' there => ?_, fun j d there => ?_, ?_, fun x mem j there => ?_⟩
  · rcases mem_replace (s := s) mem with rfl | ⟨other, old⟩
    · cases place'.symm.trans there
      exact ⟨c', by rw [cells_deliver, getElem?_setCell_self here], starting⟩
    · obtain ⟨d, held, starting⟩ := starts.starting x old j caller' there
      have ne : j ≠ i := by
        rintro rfl
        refine alone ?_
        rw [← List.filterMap_append]
        exact List.mem_filterMap.2 ⟨x, other, Spawn.cell?_eq_some.2 ⟨_, there⟩⟩
      exact ⟨d, by rw [cells_deliver, getElem?_setCell_ne ne, held], starting⟩
  · rw [cells]
    rw [cells_deliver] at there
    rcases getElem?_setCell here there with ⟨rfl, rfl⟩ | ⟨-, there⟩
    · exact .inl started
    · exact starts.started j d there
  · rw [cells]
    exact starts.distinct
  · rw [cells_deliver, size_setCell]
    rcases mem_replace (s := s) mem with rfl | ⟨-, old⟩
    · cases place'.symm.trans there
    · exact starts.spawned x old j there

/-- A spawn returns. -/
theorem System.Starts.done {i : Nat} {r : Except Refusal Unit} (starts : sys.Starts (before ++ s :: after))
    (place : s.now = .starting i (.returned r)) (place' : s'.now = .returned (.ok i)) :
    sys.Starts (before ++ s' :: after) := by
  have cell : s.cell? = some i := Spawn.cell?_eq_some.2 ⟨_, place⟩
  have cell' : s'.cell? = none := by rw [Spawn.cell?, place']
  obtain ⟨c, here, starting⟩ := starts.starting s (by simp) i _ place
  have started : c.started = true := by
    cases starting with
    | returned started => exact started
  have distinct := starts.distinct
  rw [filterMap_replace, cell] at distinct
  refine ⟨fun x mem j caller now => ?_, fun j d there => ?_, ?_, fun x mem j now => ?_⟩
  · rcases mem_replace (s := s) mem with rfl | ⟨-, old⟩
    · cases place'.symm.trans now
    · exact starts.starting x old j caller now
  · by_cases same : j = i
    · subst same
      cases here.symm.trans there
      exact .inl started
    · refine (starts.started j d there).imp_right fun mem => ?_
      rw [filterMap_replace, cell] at mem
      rw [filterMap_replace, cell']
      simp only [List.mem_append, Option.toList, List.mem_singleton, List.not_mem_nil, false_or] at mem ⊢
      tauto
  · rw [filterMap_replace, cell']
    exact (List.nodup_cons.1 (List.nodup_middle.1 distinct)).2
  · rcases mem_replace (s := s) mem with rfl | ⟨-, old⟩
    · cases place'.symm.trans now
      exact (Array.getElem?_eq_some_iff.1 here).1
    · exact starts.spawned x old j now

end Spawns

end TermBot.Actor
