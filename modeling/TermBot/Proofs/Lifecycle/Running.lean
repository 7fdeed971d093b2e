import Mathlib.Data.List.Permutation
import TermBot.Lifecycle.Application
import TermBot.Proofs.Lifecycle.History

/-!
# Runs and shutdowns of an application

Any number of runs and shutdowns of one application take their steps in any order, while contexts end at any
time: `Session.play`. The calls of services are written down (`Manager.recorded`). Whatever the order, no
service is started while it runs, and none is asked to stop that does not run.

That all services are stopped in the end takes more, since the application and its manager each have a flag
of their own: a shutdown that marks the application as not running while a run still starts the services finds
nothing to stop, and the run, once its context ends, has nothing left to shut down. As long as no shutdown
comes in between (`Session.cuts`), numbers tell how the flags are related (`Session.Counts`), and nothing is
left running once all have returned. A run may still return while someone else is about to stop the services
(`Session.overtakes`). Neither happens among runs alone.
-/

namespace TermBot.Lifecycle

variable {σ ε : Type}

/-! ## Starts and stops that match -/

/-- How often the service of this name is asked to stop before it is started again. -/
def stopsBefore (name : String) : List (Call ε) → Nat
  | [] => 0
  | .start other _ :: calls => if other = name then 0 else stopsBefore name calls
  | .stop other _ :: calls => stopsBefore name calls + if other = name then 1 else 0

/-- Each service that was started with success was then asked to stop, once before it was started again. -/
def Matched (calls : List (Call ε)) : Prop :=
  ∀ before name after, calls = before ++ .start name (.ok ()) :: after → stopsBefore name after = 1

/-- Where nothing is left running, a service is asked to stop if it runs, and not if it does not. -/
theorem stopsBefore_eq_count {calls : List (Call ε)} {running : List String}
    (ends : replay calls running = some []) (name : String) : stopsBefore name calls = running.count name := by
  induction calls generalizing running with
  | nil =>
    cases ends
    rfl
  | cons call calls ih =>
    cases call with
    | start other result =>
      obtain ⟨isNew, rest⟩ := replay_start.1 ends
      rw [stopsBefore]
      split
      case isTrue same => exact (List.count_eq_zero.2 (same ▸ isNew)).symm
      case isFalse different =>
        rw [ih rest]
        split
        · exact List.count_cons_of_ne different
        · rfl
    | stop other result =>
      obtain ⟨below, rfl, rest⟩ := replay_stop.1 ends
      rw [stopsBefore, ih rest, List.count_cons]
      simp

theorem matched_of_replay {calls : List (Call ε)} (ends : replay calls [] = some []) : Matched calls := by
  rintro before name after rfl
  rw [replay_append] at ends
  obtain ⟨running, -, ends⟩ := Option.bind_eq_some_iff.1 ends
  obtain ⟨isNew, ends⟩ := replay_start.1 ends
  rw [stopsBefore_eq_count ends, Except.isOk, Except.toBool, if_pos rfl, List.count_cons_self,
    List.count_eq_zero.2 isNew]

/-! ## What the manager does -/

namespace Manager

variable {m : Manager (σ × List (Call ε)) ε}

/-- The services are recorded, and the calls that have been written down are balanced. -/
def Balances (m : Manager (σ × List (Call ε)) ε) : Prop :=
  ∃ plain : Manager σ ε, m = plain.recorded m.world.2 ∧ plain.Sound ∧
    replay m.world.2 [] = some m.startOrder.reverse

/-- Nothing runs while the manager is not started. -/
theorem Balances.idle (balances : m.Balances) (before : m.started = false) :
    replay m.world.2 [] = some [] := by
  obtain ⟨plain, same, sound, balanced⟩ := balances
  have none : m.startOrder = [] := by
    rw [same] at before ⊢
    exact sound.idle before
  rwa [none] at balanced

/-- An operation adds calls to those that were made, and they stay balanced. -/
theorem Balances.perform (balances : m.Balances) (op : Operation σ ε) :
    ∃ (plain plain' : Manager σ ε) (made : List (Call ε)), plain.started = m.started ∧
      Ends plain op (m.perform op.recorded).1 plain' made ∧
      (m.perform op.recorded).2 = plain'.recorded (m.world.2 ++ made) ∧
      (m.perform op.recorded).2.Balances := by
  obtain ⟨plain, same, sound, balanced⟩ := balances
  obtain ⟨made, makes, ends, sound'⟩ := sound.perform op
  have order : m.startOrder = plain.startOrder := congrArg startOrder same
  have run : m.perform op.recorded =
      ((plain.perform op).1, (plain.perform op).2.recorded (m.world.2 ++ made)) := by
    rw [← makes, ← same]
  rw [run]
  refine ⟨plain, _, made, (congrArg started same).symm, ends, rfl, _, rfl, sound', ?_⟩
  change replay (m.world.2 ++ made) [] = _
  rw [replay_append, balanced, Option.bind_some, order]
  exact sound.replay ends

/-- A manager is started by a start that succeeds, which takes one that is not started; one that fails leaves
it as started as it was. -/
theorem Balances.start (balances : m.Balances) (canceled : Bool) :
    (m.start canceled).2.Balances ∧ m.world.2 <+: (m.start canceled).2.world.2 ∧
      match (m.start canceled).1 with
      | .ok _ => m.started = false ∧ (m.start canceled).2.started = true
      | .error _ => (m.start canceled).2.started = m.started := by
  obtain ⟨plain, plain', made, same, ends, run, next⟩ := balances.perform (.start canceled)
  change Ends plain _ (m.start canceled).1 _ _ at ends
  change (m.start canceled).2 = _ at run
  refine ⟨next, by rw [run]; exact List.prefix_append _ _, ?_⟩
  have after : (m.start canceled).2.started = plain'.started := congrArg started run
  generalize (m.start canceled).1 = result at ends
  rw [after, ← same]
  cases ends with
  | refused => rfl
  | start before _ started => exact ⟨before, started⟩
  | failed before _ _ started => exact started.trans before.symm

/-- No manager is started after a stop. -/
theorem Balances.stop (balances : m.Balances) (canceled : Bool) :
    (m.stop canceled).2.Balances ∧ m.world.2 <+: (m.stop canceled).2.world.2 ∧
      (m.stop canceled).2.started = false := by
  obtain ⟨plain, plain', made, -, ends, run, next⟩ := balances.perform (.stop canceled)
  change Ends plain _ (m.stop canceled).1 _ _ at ends
  change (m.stop canceled).2 = _ at run
  refine ⟨next, by rw [run]; exact List.prefix_append _ _, ?_⟩
  have after : (m.stop canceled).2.started = plain'.started := congrArg started run
  generalize (m.stop canceled).1 = result at ends
  rw [after]
  cases ends with
  | idle before => exact before
  | stop _ _ started => exact started

end Manager

/-! ## Steps of runs and shutdowns -/

/-- The beginning of a run. -/
def Phase.isEnter : Phase ε → Bool
  | .enter => true
  | _ => false

/-- The run has marked the application as running, and is not done with starting the services. -/
def Phase.isOpening : Phase ε → Bool
  | .starting | .abandoning _ => true
  | _ => false

/-- About to find out whether the application is running. -/
def Phase.isLooking : Phase ε → Bool
  | .shutEnter => true
  | _ => false

/-- About to find out whether the application is running, or to come to this when the context ends. -/
def Phase.isUp : Phase ε → Bool
  | .waiting | .shutEnter => true
  | _ => false

/-- About to stop the services. -/
def Phase.isClosing : Phase ε → Bool
  | .stopping => true
  | _ => false

/-- How a run or shutdown returns after stopping the services. -/
def stopped : Except (List (LifecycleError ε)) Unit → Except (ApplicationError ε) Unit
  | .ok _ => .ok ()
  | .error es => .error (.stopFailed es)

/-- The steps of a run or shutdown: the phase before, the application it leaves, and the phase after. -/
inductive Application.Moves (app : Application σ ε) (ended told : Bool) :
    Phase ε → Application σ ε → Phase ε → Prop where
  | refused (on : app.running = true) :
      Moves app ended told .enter app (.returned (.error .alreadyRunning))
  | entered (off : app.running = false) :
      Moves app ended told .enter { app with running := true } .starting
  | started (ok : (app.manager.start ended).1 = .ok ()) :
      Moves app ended told .starting { app with manager := (app.manager.start ended).2 } .waiting
  | failed {es : List (LifecycleError ε)} (error : (app.manager.start ended).1 = .error es) :
      Moves app ended told .starting { app with manager := (app.manager.start ended).2 } (.abandoning es)
  | abandoned {es : List (LifecycleError ε)} :
      Moves app ended told (.abandoning es) { app with running := false }
        (.returned (.error (.startFailed es)))
  | awaited : Moves app ended told .waiting app .shutEnter
  | passed (off : app.running = false) : Moves app ended told .shutEnter app (.returned (.ok ()))
  | shut (on : app.running = true) :
      Moves app ended told .shutEnter { app with running := false } .stopping
  | stopped : Moves app ended told .stopping { app with manager := (app.manager.stop told).2 }
      (.returned (stopped (app.manager.stop told).1))

theorem Application.moves_of_step {app app' : Application σ ε} {ended told : Bool} {p p' : Phase ε}
    (step : app.step ended told p = some (app', p')) : app.Moves ended told p app' p' := by
  cases p with
  | enter =>
    rw [Application.step] at step
    split at step
    case isTrue on =>
      cases step
      exact .refused on
    case isFalse off =>
      cases step
      exact .entered (Bool.not_eq_true _ ▸ off)
  | starting =>
    rw [Application.step] at step
    split at step
    case h_1 es m run =>
      cases step
      obtain rfl : (app.manager.start ended).2 = m := by rw [run]
      exact .failed (by rw [run])
    case h_2 m run =>
      cases step
      obtain rfl : (app.manager.start ended).2 = m := by rw [run]
      exact .started (by rw [run])
  | abandoning es =>
    cases step
    exact .abandoned
  | waiting =>
    rw [Application.step] at step
    split at step
    · cases step
      exact .awaited
    · cases step
  | shutEnter =>
    rw [Application.step] at step
    split at step
    case isTrue on =>
      cases step
      exact .shut on
    case isFalse off =>
      cases step
      exact .passed (Bool.not_eq_true _ ▸ off)
  | stopping =>
    have result : app' = { app with manager := (app.manager.stop told).2 } ∧
        p' = .returned (Lifecycle.stopped (app.manager.stop told).1) := by
      rw [Application.step] at step
      split at step
      case h_1 run =>
        cases step
        simp [run, Lifecycle.stopped]
      case h_2 run =>
        cases step
        simp [run, Lifecycle.stopped]
    obtain ⟨rfl, rfl⟩ := result
    exact .stopped
  | returned result => cases step

/-- No step takes calls back, and they stay balanced. -/
theorem Application.Moves.balances {app app' : Application (σ × List (Call ε)) ε} {ended told : Bool}
    {p p' : Phase ε} (move : app.Moves ended told p app' p') (balances : app.manager.Balances) :
    app'.manager.Balances ∧ app.manager.world.2 <+: app'.manager.world.2 := by
  cases move with
  | started | failed => exact ⟨(balances.start ended).1, (balances.start ended).2.1⟩
  | stopped => exact ⟨(balances.stop told).1, (balances.stop told).2.1⟩
  | refused | entered | abandoned | awaited | passed | shut => exact ⟨balances, List.prefix_rfl⟩

/-! ## Interleavings -/

/-- A run or a shutdown: where it began, where it stands, whether its context has ended, and the calls of
services that had been made when it took its last step. -/
structure Party (ε : Type) where
  start : Phase ε
  now : Phase ε := start
  ended : Bool := false
  seen : List (Call ε) := []

/-- The party is a run that has returned after it had started the services. -/
def Party.HasRun (p : Party ε) : Prop :=
  p.start = .enter ∧ (p.now = .returned (.ok ()) ∨ ∃ es, p.now = .returned (.error (.stopFailed es)))

/-- An application whose services are recorded, with its runs and shutdowns. -/
structure Session (σ ε : Type) where
  app : Application (σ × List (Call ε)) ε
  parties : List (Party ε)

/-- What happens next. -/
inductive Turn where
  /-- The context of a party ends. -/
  | cancel (i : Nat)
  /-- A party takes a step. Services that are stopped by it may be told that there is no time left. -/
  | step (i : Nat) (told : Bool)

namespace Session

variable {w w' : Session σ ε} {t : Turn} {schedule : List Turn}

/-- The calls of services that have been made. -/
def calls (w : Session σ ε) : List (Call ε) := w.app.manager.world.2

/-- The session after a turn, which may be impossible. -/
def turn (w : Session σ ε) : Turn → Option (Session σ ε)
  | .cancel i => do
    let p ← w.parties[i]?
    some { w with parties := w.parties.set i { p with ended := true } }
  | .step i told => do
    let p ← w.parties[i]?
    let (app, now) ← w.app.step p.ended told p.now
    some { app, parties := w.parties.set i { p with now, seen := app.manager.world.2 } }

/-- The session after the turns of a schedule. -/
def play (w : Session σ ε) (schedule : List Turn) : Option (Session σ ε) :=
  schedule.foldlM turn w

/-- A party finds out whether the application is running while a run starts the services. -/
def cuts (w : Session σ ε) : Turn → Bool
  | .cancel _ => false
  | .step i _ => w.parties[i]?.any (·.now.isLooking) && w.parties.any (·.now.isOpening)

/-- A run finds out whether the application is running while a party is about to stop the services. -/
def overtakes (w : Session σ ε) : Turn → Bool
  | .cancel _ => false
  | .step i _ =>
    w.parties[i]?.any (fun p => p.start.isEnter && p.now.isLooking) && w.parties.any (·.now.isClosing)

/-- No turn of the schedule is of this kind. -/
def avoids (kind : Session σ ε → Turn → Bool) (w : Session σ ε) : List Turn → Bool
  | [] => true
  | t :: rest => !kind w t && (w.turn t).all (avoids kind · rest)

/-- A new application that has services, before any run or shutdown has taken a step. -/
structure Fresh (w : Session σ ε) : Prop where
  manager : ∃ plain : Manager σ ε, w.app.manager = plain.recorded [] ∧ plain.Sound ∧ plain.started = false
  running : w.app.running = false
  parties : ∀ p ∈ w.parties, (p.start = .enter ∨ p.start = .shutEnter) ∧ p.now = p.start ∧ p.seen = []

theorem turn_cases (step : w.turn t = some w') :
    (∃ i p, t = .cancel i ∧ w.parties[i]? = some p ∧
      w' = { w with parties := w.parties.set i { p with ended := true } }) ∨
    ∃ i told p app now, t = .step i told ∧ w.parties[i]? = some p ∧
      w.app.Moves p.ended told p.now app now ∧
      w' = { app, parties := w.parties.set i { p with now, seen := app.manager.world.2 } } := by
  cases t with
  | cancel i =>
    obtain ⟨p, there, rest⟩ := Option.bind_eq_some_iff.1 step
    cases rest
    exact .inl ⟨i, p, rfl, there, rfl⟩
  | step i told =>
    obtain ⟨p, there, rest⟩ := Option.bind_eq_some_iff.1 step
    obtain ⟨⟨app, now⟩, move, rest⟩ := Option.bind_eq_some_iff.1 rest
    cases rest
    exact .inr ⟨i, told, p, app, now, rfl, there, Application.moves_of_step move, rfl⟩

/-- What every turn keeps, a schedule keeps; it may speak of the turns that are to come. -/
theorem play_keeps (keeps : List Turn → Session σ ε → Prop)
    (turn : ∀ w w' t rest, keeps (t :: rest) w → w.turn t = some w' → keeps rest w')
    (start : keeps schedule w) (played : w.play schedule = some w') : keeps [] w' := by
  induction schedule generalizing w with
  | nil =>
    cases played
    exact start
  | cons t schedule ih =>
    rw [play, List.foldlM_cons] at played
    obtain ⟨w₁, step, rest⟩ := Option.bind_eq_some_iff.1 played
    exact ih (turn w w₁ t schedule start step) rest

theorem avoids_turn {kind : Session σ ε → Turn → Bool} {rest : List Turn}
    (avoided : w.avoids kind (t :: rest) = true) (step : w.turn t = some w') :
    kind w t = false ∧ w'.avoids kind rest = true := by
  rwa [avoids, step, Option.all_some, Bool.and_eq_true, Bool.not_eq_true'] at avoided

/-! ### The two flags -/

/-- The number of parties in a kind of phase. -/
def count (w : Session σ ε) (kind : Phase ε → Bool) : Nat :=
  w.parties.countP fun p => kind p.now

theorem count_pos {kind : Phase ε → Bool} : 0 < w.count kind ↔ ∃ p ∈ w.parties, kind p.now = true :=
  List.countP_pos_iff

theorem count_eq_zero {kind : Phase ε → Bool} : w.count kind = 0 ↔ w.parties.any (kind ·.now) = false := by
  rw [count, List.countP_eq_zero, List.any_eq_false]

/-- How many parties are in a kind of phase after one of them has changed. -/
theorem count_set {i : Nat} {p p' : Party ε} {app : Application (σ × List (Call ε)) ε}
    (there : w.parties[i]? = some p) (kind : Phase ε → Bool) :
    Session.count { app, parties := w.parties.set i p' } kind + (kind p.now).toNat =
      w.count kind + (kind p'.now).toNat := by
  obtain ⟨lt, rfl⟩ := List.getElem?_eq_some_iff.1 there
  have among : kind w.parties[i].now = true → 0 < w.count kind := fun holds =>
    count_pos.2 ⟨_, List.getElem_mem lt, holds⟩
  have toNat (b : Bool) : (if b = true then 1 else 0) = b.toNat := by cases b <;> rfl
  have counted : (kind w.parties[i].now).toNat ≤ w.count kind := by
    cases old : kind w.parties[i].now with
    | false => exact Nat.zero_le _
    | true => exact among old
  rw [count] at counted ⊢
  rw [List.countP_set lt, toNat, toNat]
  unfold count
  omega

/-- How the flags of the application and its manager are related: they differ by the runs that have set the
one and are not done with the other, and by the parties that have taken back the one and not yet the other.
Whoever has set the flag of the application is there to take it back. -/
structure Counts (w : Session σ ε) : Prop where
  flags : w.app.manager.started.toNat + w.count Phase.isOpening =
    w.count Phase.isClosing + w.app.running.toNat
  opening : w.count Phase.isOpening ≤ w.app.running.toNat
  closing : w.count Phase.isClosing ≤ w.app.manager.started.toNat
  up : w.app.running.toNat ≤ w.count Phase.isOpening + w.count Phase.isUp

theorem Fresh.counts (fresh : w.Fresh) : w.Counts := by
  obtain ⟨plain, same, -, idle⟩ := fresh.manager
  have stopped : w.app.manager.started = false := (congrArg Manager.started same).trans idle
  have none (kind : Phase ε → Bool) (enter : kind .enter = false) (look : kind .shutEnter = false) :
      w.count kind = 0 := by
    rw [count_eq_zero, List.any_eq_false]
    intro p mem
    obtain ⟨start, now, -⟩ := fresh.parties p mem
    rcases start with start | start <;> simp [now, start, enter, look]
  have opening := none Phase.isOpening rfl rfl
  have closing := none Phase.isClosing rfl rfl
  constructor <;> simp [opening, closing, stopped, fresh.running]

/-- A turn is the end of a context, or takes one party to its next phase. -/
theorem turn_counts (step : w.turn t = some w') :
    (w'.app = w.app ∧ ∀ kind, w'.count kind = w.count kind) ∨
    ∃ i told p now, t = .step i told ∧ w.parties[i]? = some p ∧ w.app.Moves p.ended told p.now w'.app now ∧
      ∀ kind, w'.count kind + (kind p.now).toNat = w.count kind + (kind now).toNat := by
  rcases turn_cases step with ⟨i, p, rfl, there, rfl⟩ | ⟨i, told, p, app, now, rfl, there, move, rfl⟩
  · exact .inl ⟨rfl, fun kind => Nat.add_right_cancel (count_set there kind)⟩
  · exact .inr ⟨i, told, p, now, rfl, there, move, fun kind => count_set there kind⟩

theorem Counts.turn (counts : w.Counts) (balances : w.app.manager.Balances) (calm : w.cuts t = false)
    (step : w.turn t = some w') : w'.Counts := by
  obtain ⟨flags, opening, closing, up⟩ := counts
  rcases turn_counts step with ⟨app, same⟩ | ⟨i, told, p, now, rfl, there, move, change⟩
  · constructor <;> rw [app] <;> simp only [same] <;> assumption
  obtain ⟨app, parties⟩ := w'
  dsimp only at move
  have o := change Phase.isOpening
  have c := change Phase.isClosing
  have u := change Phase.isUp
  have quiet : p.now.isLooking = true → w.count Phase.isOpening = 0 := fun looking => by
    simpa [cuts, there, looking, count_eq_zero] using calm
  have single := Bool.toNat_le w.app.running
  have one := Bool.toNat_le w.app.manager.started
  clear change
  generalize p.now = before at move o c u quiet
  simp only [Phase.isOpening, Phase.isClosing, Phase.isUp] at o c u
  cases move with
  | refused | awaited =>
    simp only [Bool.toNat_false, Bool.toNat_true] at o c u
    constructor <;> dsimp only <;> omega
  | entered off =>
    rw [off, Bool.toNat_false] at flags opening up
    simp only [Bool.toNat_false, Bool.toNat_true] at o c u
    constructor <;> simp only [Bool.toNat_true] <;> omega
  | started ok =>
    have result := (balances.start p.ended).2.2
    rw [ok] at result
    rw [result.1, Bool.toNat_false] at flags closing
    simp only [Bool.toNat_false, Bool.toNat_true] at o c u
    constructor <;> simp only [result.2, Bool.toNat_true] <;> omega
  | failed error =>
    have result := (balances.start p.ended).2.2
    rw [error] at result
    simp only [Bool.toNat_false, Bool.toNat_true] at o c u
    constructor <;> simp only [result] <;> omega
  | abandoned =>
    simp only [Bool.toNat_false, Bool.toNat_true] at o c u
    constructor <;> simp only [Bool.toNat_false] <;> omega
  | passed off =>
    rw [off, Bool.toNat_false] at flags opening up
    simp only [Bool.toNat_false, Bool.toNat_true] at o c u
    constructor <;> simp only [off, Bool.toNat_false] <;> omega
  | shut on =>
    rw [on, Bool.toNat_true] at flags opening up
    have nobody := quiet rfl
    simp only [Bool.toNat_false, Bool.toNat_true] at o c u
    constructor <;> simp only [Bool.toNat_false] <;> omega
  | stopped =>
    have result := (balances.stop told).2.2
    simp only [Bool.toNat_false, Bool.toNat_true] at o c u
    constructor <;> simp only [result, Bool.toNat_false] <;> omega

/-- Once all have returned, the flag of the manager is taken back. -/
theorem Counts.stopped (counts : w.Counts) (returned : ∀ p ∈ w.parties, ∃ r, p.now = .returned r) :
    w.app.manager.started = false := by
  have none (kind : Phase ε → Bool) (no : ∀ r, kind (.returned r) = false) : w.count kind = 0 := by
    rw [count_eq_zero, List.any_eq_false]
    intro p mem
    obtain ⟨r, now⟩ := returned p mem
    simp [now, no]
  have flags := counts.flags
  have up := counts.up
  rw [none _ fun _ => rfl, none _ fun _ => rfl] at flags up
  refine Bool.toNat_eq_zero.1 ?_
  omega

/-! ### Runs that have returned -/

/-- The calls are balanced, and they begin with those that a party has seen. -/
structure Recorded (w : Session σ ε) : Prop where
  balances : w.app.manager.Balances
  seen : ∀ p ∈ w.parties, p.seen <+: w.calls

theorem Fresh.recorded (fresh : w.Fresh) : w.Recorded := by
  obtain ⟨plain, same, sound, idle⟩ := fresh.manager
  refine ⟨⟨plain, ?_, sound, ?_⟩, fun p mem => ?_⟩
  · rw [same]
    rfl
  · rw [same]
    change some [] = some plain.startOrder.reverse
    rw [sound.idle idle, List.reverse_nil]
  · rw [(fresh.parties p mem).2.2]
    exact List.nil_prefix

theorem Recorded.turn (recorded : w.Recorded) (step : w.turn t = some w') : w'.Recorded := by
  rcases turn_cases step with ⟨i, p, rfl, there, rfl⟩ | ⟨i, told, p, app, now, rfl, there, move, rfl⟩
  · refine ⟨recorded.balances, fun q mem => ?_⟩
    rcases List.mem_or_eq_of_mem_set mem with old | rfl
    · exact recorded.seen q old
    · exact recorded.seen p (List.mem_of_getElem? there)
  · obtain ⟨balances, longer⟩ := move.balances recorded.balances
    refine ⟨balances, fun q mem => ?_⟩
    rcases List.mem_or_eq_of_mem_set mem with old | rfl
    · exact (recorded.seen q old).trans longer
    · exact List.prefix_rfl

/-- Whenever a run returned that had started services, none was running. -/
def Settled (w : Session σ ε) : Prop :=
  ∀ p ∈ w.parties, p.HasRun → replay p.seen [] = some []

theorem Fresh.settled (fresh : w.Fresh) : w.Settled := fun p mem _ => by
  rw [(fresh.parties p mem).2.2, replay]

theorem Settled.turn (settled : w.Settled) (recorded : w.Recorded) (counts : w.Counts)
    (calm : w.overtakes t = false) (step : w.turn t = some w') : w'.Settled := by
  have recorded' := recorded.turn step
  rcases turn_cases step with ⟨i, p, rfl, there, rfl⟩ | ⟨i, told, p, app, now, rfl, there, move, rfl⟩
  · intro q mem
    rcases List.mem_or_eq_of_mem_set mem with old | rfl
    · exact settled q old
    · exact settled p (List.mem_of_getElem? there)
  · intro q mem run
    rcases List.mem_or_eq_of_mem_set mem with old | rfl
    · exact settled q old run
    obtain ⟨start, result⟩ := run
    dsimp only at start result
    refine recorded'.balances.idle (?_ : app.manager.started = false)
    have quiet : p.now.isLooking = true → w.count Phase.isClosing = 0 := fun looking => by
      simpa [overtakes, there, start, Phase.isEnter, looking, count_eq_zero] using calm
    generalize p.now = before at move quiet
    cases move with
    | stopped => exact (recorded.balances.stop told).2.2
    | passed off =>
      have flags := counts.flags
      have opening := counts.opening
      rw [off, Bool.toNat_false] at flags opening
      rw [quiet rfl] at flags
      exact Bool.toNat_eq_zero.1 (by omega)
    | refused | entered | started | failed | abandoned | awaited | shut => simp at result

/-! ### Runs without shutdowns -/

/-- Of the runs that have come past the flag of the application, one has set it. -/
def Alone (w : Session σ ε) : Prop :=
  w.count Phase.isOpening + w.count Phase.isUp ≤ w.app.running.toNat

theorem Alone.turn (alone : w.Alone) (step : w.turn t = some w') : w'.Alone := by
  unfold Alone at alone ⊢
  rcases turn_counts step with ⟨app, same⟩ | ⟨i, told, p, now, rfl, there, move, change⟩
  · rwa [app, same, same]
  obtain ⟨app, parties⟩ := w'
  dsimp only at move
  have o := change Phase.isOpening
  have u := change Phase.isUp
  have single := Bool.toNat_le w.app.running
  clear change
  generalize p.now = before at move o u
  simp only [Phase.isOpening, Phase.isUp] at o u
  cases move <;> simp_all only [Bool.toNat_false, Bool.toNat_true] <;> omega

/-- Where no shutdown has begun, nobody looks at the flag of the application before the services are started,
or after it was taken back and before they are stopped. -/
theorem Alone.calm (alone : w.Alone) (counts : w.Counts) (t : Turn) :
    w.cuts t = false ∧ w.overtakes t = false := by
  cases t with
  | cancel i => exact ⟨rfl, rfl⟩
  | step i told =>
    cases there : w.parties[i]? with
    | none => simp [cuts, overtakes, there]
    | some p =>
      cases looking : p.now.isLooking with
      | false => simp [cuts, overtakes, there, looking]
      | true =>
        have isUp : p.now.isUp = true := by
          cases now : p.now <;> rw [now] at looking <;> first | rfl | cases looking
        have some : 0 < w.count Phase.isUp := count_pos.2 ⟨p, List.mem_of_getElem? there, isUp⟩
        have flags := counts.flags
        have one := Bool.toNat_le w.app.running
        have other := Bool.toNat_le w.app.manager.started
        unfold Alone at alone
        have opening : w.count Phase.isOpening = 0 := by omega
        have closing : w.count Phase.isClosing = 0 := by omega
        rw [count_eq_zero] at opening closing
        simp [cuts, overtakes, opening, closing]

/-- Runs without shutdowns do not get in each other's way. -/
theorem Fresh.runs_avoid (fresh : w.Fresh) (runs : ∀ p ∈ w.parties, p.start = .enter) (schedule : List Turn) :
    w.avoids cuts schedule = true ∧ w.avoids overtakes schedule = true := by
  have alone : w.Alone := by
    have none (kind : Phase ε → Bool) (no : kind .enter = false) : w.count kind = 0 := by
      rw [count_eq_zero, List.any_eq_false]
      intro p mem
      simp [(fresh.parties p mem).2.1, runs p mem, no]
    rw [Alone, none _ rfl, none _ rfl]
    exact Nat.zero_le _
  have recorded := fresh.recorded
  have counts := fresh.counts
  clear fresh runs
  induction schedule generalizing w with
  | nil => exact ⟨rfl, rfl⟩
  | cons t schedule ih =>
    obtain ⟨uncut, behind⟩ := alone.calm counts t
    rw [avoids, avoids, uncut, behind]
    cases step : w.turn t with
    | none => exact ⟨rfl, rfl⟩
    | some w' => exact ih (alone.turn step) (recorded.turn step) (counts.turn recorded.balances uncut step)

end Session

/-- In every interleaving of runs and shutdowns of a new application, with contexts that end at any time, no
service is started while it runs, and none is asked to stop that does not run. If no party finds out whether
the application is running while a run starts the services, then, once all have returned, no service is
running, and each that was started with success was asked to stop, once before it was started again. If no
run finds this out either while another party is about to stop the services, the same was true whenever a
run returned that had started them. Where there are no shutdowns, both are so. -/
theorem session_settles {w₀ w : Session σ ε} {schedule : List Turn} (fresh : w₀.Fresh)
    (played : w₀.play schedule = some w) :
    replay w.calls [] = some w.app.manager.startOrder.reverse ∧
    (w₀.avoids Session.cuts schedule = true →
      ((∀ p ∈ w.parties, ∃ r, p.now = .returned r) → replay w.calls [] = some [] ∧ Matched w.calls) ∧
      (w₀.avoids Session.overtakes schedule = true → ∀ p ∈ w.parties, p.HasRun →
        p.seen <+: w.calls ∧ replay p.seen [] = some [] ∧ Matched p.seen)) ∧
    ((∀ p ∈ w₀.parties, p.start = .enter) →
      w₀.avoids Session.cuts schedule = true ∧ w₀.avoids Session.overtakes schedule = true) := by
  have recorded : w.Recorded :=
    Session.play_keeps (fun _ => Session.Recorded) (fun _ _ _ _ recorded step => recorded.turn step)
      fresh.recorded played
  obtain ⟨plain, -, -, balanced⟩ := recorded.balances
  refine ⟨balanced, fun uncut => ⟨fun returned => ?_, fun behind p mem run => ?_⟩, fun runs =>
    fresh.runs_avoid runs schedule⟩
  · obtain ⟨-, counts, -⟩ := Session.play_keeps
      (fun rest w => w.Recorded ∧ w.Counts ∧ w.avoids Session.cuts rest = true)
      (fun _ _ _ _ ⟨recorded, counts, uncut⟩ step =>
        have ⟨calm, rest⟩ := Session.avoids_turn uncut step
        ⟨recorded.turn step, counts.turn recorded.balances calm step, rest⟩)
      ⟨fresh.recorded, fresh.counts, uncut⟩ played
    have idle := recorded.balances.idle (counts.stopped returned)
    exact ⟨idle, matched_of_replay idle⟩
  · obtain ⟨-, -, settled, -, -⟩ := Session.play_keeps
      (fun rest w => w.Recorded ∧ w.Counts ∧ w.Settled ∧ w.avoids Session.cuts rest = true ∧
        w.avoids Session.overtakes rest = true)
      (fun _ _ _ _ ⟨recorded, counts, settled, uncut, behind⟩ step =>
        have ⟨calm, rest⟩ := Session.avoids_turn uncut step
        have ⟨quiet, later⟩ := Session.avoids_turn behind step
        ⟨recorded.turn step, counts.turn recorded.balances calm step,
          settled.turn recorded counts quiet step, rest, later⟩)
      ⟨fresh.recorded, fresh.counts, fresh.settled, uncut, behind⟩ played
    have idle := settled p mem run
    exact ⟨recorded.seen p mem, idle, matched_of_replay idle⟩

/-- A run of one service is ended by a shutdown, and then its context ends. -/
theorem session_settles_shut :
    let s : Service Unit Empty := ⟨fun _ w => (.ok (), w), fun _ w => (.ok (), w), fun _ => .ok ⟨"", "", []⟩⟩
    let m : Manager Unit Empty := { world := (), registrations := [⟨⟨"db", []⟩, s⟩] }
    let w₀ : Session Unit Empty := {
      app := { manager := m.recorded [] }
      parties := [{ start := .enter }, { start := .shutEnter }] }
    let schedule : List Turn := [.step 0 false, .step 0 false, .step 1 false, .step 1 false, .cancel 0,
      .step 0 false, .step 0 false]
    ∃ w, w₀.play schedule = some w ∧ w.calls = [.start "db" (.ok ()), .stop "db" (.ok ())] ∧
      Matched w.calls ∧ ∃ p ∈ w.parties, p.HasRun ∧ Matched p.seen := by
  intro s m w₀ schedule
  have fresh : w₀.Fresh := by
    refine ⟨⟨m, rfl, ⟨fun _ => rfl, nofun, List.nodup_singleton _⟩, rfl⟩, rfl, fun p mem => ?_⟩
    rcases List.mem_pair.1 mem with rfl | rfl
    · exact ⟨.inl rfl, rfl, rfl⟩
    · exact ⟨.inr rfl, rfl, rfl⟩
  let both : List (Call Empty) := [.start "db" (.ok ()), .stop "db" (.ok ())]
  let done : Party Empty := ⟨.enter, .returned (.ok ()), true, both⟩
  have run : (w₀.play schedule).map (fun w => (w.parties, w.calls)) =
      some ([done, ⟨.shutEnter, .returned (.ok ()), false, both⟩], both) := by cbv
  obtain ⟨w, played, seen⟩ := Option.map_eq_some_iff.1 run
  simp only [Prod.mk.injEq] at seen
  obtain ⟨parties, calls⟩ := seen
  obtain ⟨-, settles, -⟩ := session_settles fresh played
  obtain ⟨all, each⟩ := settles (by cbv)
  have returned : ∀ p ∈ w.parties, ∃ r, p.now = .returned r := fun p mem => by
    rw [parties] at mem
    rcases List.mem_pair.1 mem with rfl | rfl <;> exact ⟨_, rfl⟩
  have mem : done ∈ w.parties := parties ▸ List.mem_cons_self
  have hasRun : done.HasRun := ⟨rfl, .inl rfl⟩
  exact ⟨w, played, calls, (all returned).2, done, mem, hasRun, (each (by cbv) done mem hasRun).2.2⟩

/-- The shutdown marks the application as not running, and finds nothing to stop, before the run starts the
service. All return without an error, and the service is left running. In the other schedule the run returns
while the shutdown is about to stop the service. -/
theorem session_leaks :
    let s : Service Unit Empty := ⟨fun _ w => (.ok (), w), fun _ w => (.ok (), w), fun _ => .ok ⟨"", "", []⟩⟩
    let m : Manager Unit Empty := { world := (), registrations := [⟨⟨"db", []⟩, s⟩] }
    let w₀ : Session Unit Empty := {
      app := { manager := m.recorded [] }
      parties := [{ start := .enter }, { start := .shutEnter }] }
    let cutting : List Turn := [.step 0 false, .step 1 false, .step 1 false, .step 0 false, .cancel 0,
      .step 0 false, .step 0 false]
    let overtaking : List Turn := [.step 0 false, .step 0 false, .step 1 false, .cancel 0, .step 0 false,
      .step 0 false]
    w₀.Fresh ∧
    (∃ w, w₀.play cutting = some w ∧ w.parties.map Party.now = [.returned (.ok ()), .returned (.ok ())] ∧
      w.calls = [.start "db" (.ok ())] ∧ ¬ Matched w.calls) ∧
    ∃ w, w₀.play overtaking = some w ∧ w.parties.map Party.now = [.returned (.ok ()), .stopping] ∧
      w.calls = [.start "db" (.ok ())] ∧ ¬ Matched w.calls := by
  intro s m w₀ cutting overtaking
  have unmatched : ¬ Matched [(.start "db" (.ok ()) : Call Empty)] := fun all =>
    Nat.zero_ne_one (all [] "db" [] rfl)
  refine ⟨⟨⟨m, rfl, ⟨fun _ => rfl, nofun, List.nodup_singleton _⟩, rfl⟩, rfl, fun p mem => ?_⟩, ?_, ?_⟩
  · rcases List.mem_pair.1 mem with rfl | rfl
    · exact ⟨.inl rfl, rfl, rfl⟩
    · exact ⟨.inr rfl, rfl, rfl⟩
  · have run : (w₀.play cutting).map (fun w => (w.parties.map Party.now, w.calls)) =
        some ([.returned (.ok ()), .returned (.ok ())], [.start "db" (.ok ())]) := by cbv
    obtain ⟨w, played, seen⟩ := Option.map_eq_some_iff.1 run
    simp only [Prod.mk.injEq] at seen
    obtain ⟨parties, calls⟩ := seen
    exact ⟨w, played, parties, calls, calls ▸ unmatched⟩
  · have run : (w₀.play overtaking).map (fun w => (w.parties.map Party.now, w.calls)) =
        some ([.returned (.ok ()), .stopping], [.start "db" (.ok ())]) := by cbv
    obtain ⟨w, played, seen⟩ := Option.map_eq_some_iff.1 run
    simp only [Prod.mk.injEq] at seen
    obtain ⟨parties, calls⟩ := seen
    exact ⟨w, played, parties, calls, calls ▸ unmatched⟩

end TermBot.Lifecycle
