import Mathlib.Data.List.Forall2
import TermBot.Lifecycle.Manager
import TermBot.Proofs.Lifecycle.Order

/-!
# What services are asked to do

The calls of services are written down beside their world (`Service.recorded`), which changes nothing for the
manager (`Manager.Makes`). Replayed on a stack of what runs, newest on top, the calls balance: a service is
started only while it does not run, and asked to stop only when it is on top (`replay`). After any operations on
a manager the stack that is left is its start order, reversed, and every operation ends in one of a few ways
(`runs_balance`).
-/

namespace TermBot.Lifecycle

variable {σ ε : Type}

/-- A call of a service, by the name it is registered under, and how it ended. -/
inductive Call (ε : Type) where
  | start (name : String) (result : Except ε Unit)
  | stop (name : String) (result : Except ε Unit)

/-- The service; its calls are written down beside the world. -/
def Service.recorded (name : String) (s : Service σ ε) : Service (σ × List (Call ε)) ε where
  start canceled w :=
    let (result, v) := s.start canceled w.1
    (result, v, w.2 ++ [.start name result])
  stop canceled w :=
    let (result, v) := s.stop canceled w.1
    (result, v, w.2 ++ [.stop name result])
  health w := s.health w.1

/-- An operation on a manager. -/
inductive Operation (σ ε : Type) where
  | register (name : String) (service : Option (Service σ ε)) (deps : List String)
  | start (canceled : Bool)
  | stop (canceled : Bool)

/-- The same operation; a service that is registered is recorded. -/
def Operation.recorded : Operation σ ε → Operation (σ × List (Call ε)) ε
  | .register name service deps => .register name (service.map (·.recorded name)) deps
  | .start canceled => .start canceled
  | .stop canceled => .stop canceled

namespace Manager

/-- Performs an operation. -/
def perform (m : Manager σ ε) : Operation σ ε → Except (List (LifecycleError ε)) Unit × Manager σ ε
  | .register name service deps =>
    let (result, m) := m.register name service deps
    (result.mapError fun e => [e], m)
  | .start canceled => m.start canceled
  | .stop canceled => m.stop canceled

/-- Performs operations one after the other; their results and the manager they leave. -/
def performAll (m : Manager σ ε) :
    List (Operation σ ε) → List (Except (List (LifecycleError ε)) Unit) × Manager σ ε
  | [] => ([], m)
  | op :: ops =>
    let (result, m) := m.perform op
    let (results, m) := m.performAll ops
    (result :: results, m)

/-- The manager with recorded services, of which `calls` have been written down. -/
def recorded (m : Manager σ ε) (calls : List (Call ε)) : Manager (σ × List (Call ε)) ε where
  world := (m.world, calls)
  registrations := m.registrations.map fun r => ⟨r.node, r.service.recorded r.node.name⟩
  startOrder := m.startOrder
  started := m.started
  log := m.log
  buffer := m.buffer

/-- The operation calls services as in `made`, and does the same when this is written down. -/
def Makes (m : Manager σ ε) (op : Operation σ ε) (made : List (Call ε)) : Prop :=
  ∀ calls, (m.recorded calls).perform op.recorded =
    ((m.perform op).1, (m.perform op).2.recorded (calls ++ made))

end Manager

/-! ### Replaying calls -/

/-- The stack of running services, newest on top, after calls of services: a service runs once its start
succeeds, and until it is asked to stop. There is no stack if a service is started that runs already, or asked
to stop when it is not on top. -/
def replay : List (Call ε) → List String → Option (List String)
  | [], running => some running
  | .start name result :: calls, running =>
    if name ∈ running then none
    else replay calls (if result.isOk then name :: running else running)
  | .stop name _ :: calls, top :: running => if name = top then replay calls running else none
  | .stop .. :: _, [] => none

/-- The call asks the service of this name to stop. -/
def Call.stops (name : String) : Call ε → Bool
  | .start .. => false
  | .stop n _ => n = name

@[simp] theorem stops_start {n name : String} {result : Except ε Unit} :
    (Call.start n result).stops name = false := rfl

@[simp] theorem stops_stop {n name : String} {result : Except ε Unit} :
    (Call.stop n result).stops name = decide (n = name) := rfl

/-- The failures of the services that were asked to stop. -/
def failures : List (Call ε) → List (LifecycleError ε)
  | [] => []
  | .stop name (.error e) :: calls => ⟨"stop", name, .service e⟩ :: failures calls
  | _ :: calls => failures calls

/-- The calls ask the services of these names to stop, in this order, however each call ends. -/
def AsksToStop (names : List String) (calls : List (Call ε)) : Prop :=
  List.Forall₂ (fun name call => ∃ result, call = .stop name result) names calls

section Replay

variable {calls more : List (Call ε)} {running after names : List String} {name : String}

theorem replay_append : replay (calls ++ more) running = (replay calls running).bind (replay more) := by
  induction calls generalizing running with
  | nil => rfl
  | cons call calls ih =>
    cases call with
    | start n result =>
      rw [List.cons_append, replay, replay]
      split
      · rfl
      · exact ih
    | stop n result =>
      cases running with
      | nil => rfl
      | cons top running =>
        rw [List.cons_append, replay, replay]
        split
        · exact ih
        · rfl

example : replay ([.start "a" (.ok ())] ++ [.start "b" (.error ()), .stop "a" (.error ())]) [] = some [] := by cbv

theorem replay_start {result : Except ε Unit} :
    replay (.start name result :: calls) running = some after ↔
      name ∉ running ∧ replay calls (if result.isOk then name :: running else running) = some after := by
  rw [replay]
  split <;> simp_all

theorem replay_stop {result : Except ε Unit} :
    replay (.stop name result :: calls) running = some after ↔
      ∃ rest, running = name :: rest ∧ replay calls rest = some after := by
  cases running with
  | nil => simp [replay]
  | cons top running =>
    rw [replay]
    split
    case isTrue same => simp [same]
    case isFalse other => simp [Ne.symm other]

/-- Services that do not run are started, all with success. -/
theorem replay_starts (nodup : (running.reverse ++ names).Nodup) :
    replay (names.map fun name => .start name (.ok () : Except ε Unit)) running =
      some (names.reverse ++ running) := by
  induction names generalizing running with
  | nil => rfl
  | cons name names ih =>
    have isNew : name ∉ running := by
      intro mem
      exact List.disjoint_of_nodup_append nodup (List.mem_reverse.2 mem) List.mem_cons_self
    have rest : ((name :: running).reverse ++ names).Nodup := by
      rwa [List.reverse_cons, List.append_assoc, List.singleton_append]
    rw [List.map_cons, replay, if_neg isNew]
    refine (ih rest).trans ?_
    rw [List.reverse_cons, List.append_assoc, List.singleton_append]

theorem replay_all (nodup : names.Nodup) :
    replay (names.map fun name => .start name (.ok () : Except ε Unit)) [] = some names.reverse := by
  have all := @replay_starts ε [] names nodup
  rwa [List.append_nil] at all

/-- All that runs is asked to stop from the top on. -/
theorem AsksToStop.replay (asks : AsksToStop running calls) : replay calls running = some [] := by
  induction asks with
  | nil => rfl
  | cons head _ ih =>
    obtain ⟨result, rfl⟩ := head
    rw [Lifecycle.replay, if_pos rfl, ih]

theorem failures_append : failures (calls ++ more) = failures calls ++ failures more := by
  induction calls with
  | nil => rfl
  | cons call calls ih =>
    cases call with
    | start n result => exact ih
    | stop n result =>
      cases result with
      | ok _ => exact ih
      | error e => exact congrArg (_ :: ·) ih

/-- While a service is not started, it leaves the stack as often as it is asked to stop. -/
theorem count_replay (noStart : ∀ result, .start name result ∉ calls)
    (ends : replay calls running = some after) :
    calls.countP (·.stops name) + after.count name = running.count name := by
  induction calls generalizing running with
  | nil =>
    obtain rfl := Option.some.inj ends
    rw [List.countP_nil, Nat.zero_add]
  | cons call calls ih =>
    have rest (result : Except ε Unit) : .start name result ∉ calls := fun mem =>
      noStart result (List.mem_cons_of_mem _ mem)
    cases call with
    | start n result =>
      have other : n ≠ name := fun same => noStart result (same ▸ List.mem_cons_self)
      have step := ih rest (replay_start.1 ends).2
      split at step
      · rwa [List.count_cons_of_ne other] at step
      · exact step
    | stop n result =>
      obtain ⟨below, rfl, remaining⟩ := replay_stop.1 ends
      have step := ih rest remaining
      simp only [List.countP_cons, List.count_cons, stops_stop, decide_eq_true_eq, beq_iff_eq]
      omega

/-- Between two starts of a service it is asked to stop once if the first start succeeded, and not at all if it
failed. -/
theorem count_between {before between : List (Call ε)} {result again : Except ε Unit}
    (balanced : replay (before ++ .start name result :: between ++ .start name again :: more) running =
      some after) (noStart : ∀ result, .start name result ∉ between) :
    between.countP (·.stops name) = if result.isOk then 1 else 0 := by
  rw [replay_append, replay_append] at balanced
  obtain ⟨last, balanced, final⟩ := Option.bind_eq_some_iff.1 balanced
  obtain ⟨first, -, balanced⟩ := Option.bind_eq_some_iff.1 balanced
  obtain ⟨notLast, -⟩ := replay_start.1 final
  obtain ⟨notFirst, balanced⟩ := replay_start.1 balanced
  have counts := count_replay noStart balanced
  rw [List.count_eq_zero.2 notLast] at counts
  split at counts
  case isTrue ok =>
    rw [if_pos ok]
    rwa [List.count_cons_self, List.count_eq_zero.2 notFirst] at counts
  case isFalse failed =>
    rw [if_neg failed]
    rwa [List.count_eq_zero.2 notFirst] at counts

end Replay

/-! ### What operations do -/

/-- How an operation on `m` ends: its result, the manager it leaves, and the calls of services it makes. -/
inductive Ends (m : Manager σ ε) :
    Operation σ ε → Except (List (LifecycleError ε)) Unit → Manager σ ε → List (Call ε) → Prop where
  /-- A registration calls no service, whether it is accepted or not. -/
  | register {name : String} {service : Option (Service σ ε)} {deps : List String}
      {result : Except (List (LifecycleError ε)) Unit} {m' : Manager σ ε} (started : m'.started = m.started)
      (order : m'.startOrder = m.startOrder) : Ends m (.register name service deps) result m' []
  /-- A manager that is started, or finds no order, does nothing. -/
  | refused {canceled : Bool} {cause : Cause ε}
      (why : m.started = true ∧ cause = .alreadyStarted ∨ m.started = false ∧ ∃ e, cause = .order e) :
      Ends m (.start canceled) (.error [{ operation := "start", cause }]) m []
  /-- All services are started. -/
  | start {canceled : Bool} {order : List String} {m' : Manager σ ε} (before : m.started = false)
      (all : order.Perm (m.registrations.map (·.node.name))) (started : m'.started = true)
      (running : m'.startOrder = order) :
      Ends m (.start canceled) (.ok ()) m' (order.map fun name => .start name (.ok ()))
  /-- A service fails to start, and those started before are asked to stop, newest first. -/
  | failed {canceled : Bool} {order after : List String} {name : String} {e : ε} {stops : List (Call ε)}
      {m' : Manager σ ε} (before : m.started = false)
      (all : (order ++ name :: after).Perm (m.registrations.map (·.node.name)))
      (asks : AsksToStop order.reverse stops) (started : m'.started = false) (running : m'.startOrder = []) :
      Ends m (.start canceled) (.error (⟨"start", name, .service e⟩ :: failures stops)) m'
        ((order.map fun name => .start name (.ok ())) ++ .start name (.error e) :: stops)
  /-- A manager that is not started has nothing to stop. -/
  | idle {canceled : Bool} (before : m.started = false) : Ends m (.stop canceled) (.ok ()) m []
  /-- All that was started is asked to stop, newest first; the error has the failures of all that fail. -/
  | stop {canceled : Bool} {stops : List (Call ε)} {m' : Manager σ ε} (before : m.started = true)
      (asks : AsksToStop m.startOrder.reverse stops) (started : m'.started = false)
      (running : m'.startOrder = []) :
      Ends m (.stop canceled) (if (failures stops).isEmpty then .ok () else .error (failures stops)) m' stops

namespace Manager

/-- Between operations: what is not started has nothing recorded as started, and what is recorded is registered;
no two services have the same name. -/
structure Sound (m : Manager σ ε) : Prop where
  idle : m.started = false → m.startOrder = []
  known : ∀ name ∈ m.startOrder, name ∈ m.registrations.map (·.node.name)
  distinct : (m.registrations.map (·.node.name)).Nodup

variable {m m' : Manager σ ε} {name : String} {names : List String} {calls : List (Call ε)} {canceled : Bool}

@[simp] theorem emit_registrations (m : Manager σ ε) (name : String) (h : Happening ε) :
    (m.emit name h).registrations = m.registrations := rfl

@[simp] theorem emit_startOrder (m : Manager σ ε) (name : String) (h : Happening ε) :
    (m.emit name h).startOrder = m.startOrder := rfl

@[simp] theorem emit_started (m : Manager σ ε) (name : String) (h : Happening ε) :
    (m.emit name h).started = m.started := rfl

theorem find?_recorded (m : Manager σ ε) (calls : List (Call ε)) (name : String) :
    (m.recorded calls).find? name = (m.find? name).map (·.recorded name) := by
  rw [find?, find?, recorded, List.find?_map]
  have same : (fun r : Registration (σ × List (Call ε)) ε => decide (r.node.name = name)) ∘
      (fun r : Registration σ ε => ⟨r.node, r.service.recorded r.node.name⟩) =
        fun r => decide (r.node.name = name) := rfl
  rw [same]
  cases found : m.registrations.find? (·.node.name = name) with
  | none => rfl
  | some r =>
    have named : r.node.name = name := by simpa using List.find?_some found
    rw [Option.map_some, Option.map_some, Option.map_some, Option.map_some, named]

theorem exists_find? (known : name ∈ m.registrations.map (·.node.name)) : ∃ s, m.find? name = some s := by
  obtain ⟨r, mem, rfl⟩ := List.mem_map.1 known
  rw [find?]
  cases found : m.registrations.find? (·.node.name = r.node.name) with
  | none =>
    have other := List.find?_eq_none.1 found r mem
    simp at other
  | some r => exact ⟨_, rfl⟩

/-- The services, what is recorded as started, and whether the manager is started stay. -/
structure Keeps (m m' : Manager σ ε) : Prop where
  registrations : m'.registrations = m.registrations
  startOrder : m'.startOrder = m.startOrder
  started : m'.started = m.started

theorem Keeps.trans {m₁ m₂ m₃ : Manager σ ε} (first : m₁.Keeps m₂) (second : m₂.Keeps m₃) : m₁.Keeps m₃ :=
  ⟨second.registrations.trans first.registrations, second.startOrder.trans first.startOrder,
    second.started.trans first.started⟩

theorem stopOne_calls (known : name ∈ m.registrations.map (·.node.name)) (canceled : Bool) :
    ∃ result, (m.stopOne canceled name).1 = failures [.stop name result] ∧
      m.Keeps (m.stopOne canceled name).2 ∧
      ∀ calls, (m.recorded calls).stopOne canceled name =
        ((m.stopOne canceled name).1, (m.stopOne canceled name).2.recorded (calls ++ [.stop name result])) := by
  obtain ⟨s, found⟩ := exists_find? known
  have here : (m.emit name .stopping).find? name = some s := found
  have recorded (calls : List (Call ε)) :
      ((m.recorded calls).emit name .stopping).find? name = some (s.recorded name) :=
    (find?_recorded m calls name).trans (congrArg _ found)
  have ran (calls : List (Call ε)) : (s.recorded name).stop canceled (m.world, calls) =
      ((s.stop canceled m.world).1, (s.stop canceled m.world).2,
        calls ++ [.stop name (s.stop canceled m.world).1]) := rfl
  have world (calls : List (Call ε)) : ((m.recorded calls).emit name .stopping).world = (m.world, calls) := rfl
  refine ⟨(s.stop canceled m.world).1, ?_⟩
  rcases run : s.stop canceled m.world with ⟨e | _, w⟩ <;> rw [run] at ran <;>
    simp only [stopOne, here, recorded, world, show (m.emit name .stopping).world = m.world from rfl, run, ran]
  · exact ⟨rfl, ⟨rfl, rfl, rfl⟩, fun _ => rfl⟩
  · exact ⟨rfl, ⟨rfl, rfl, rfl⟩, fun _ => rfl⟩

theorem stopAll_cons (m : Manager σ ε) (canceled : Bool) (name : String) (names : List String) :
    m.stopAll canceled (name :: names) =
      ((m.stopOne canceled name).1 ++ ((m.stopOne canceled name).2.stopAll canceled names).1,
        ((m.stopOne canceled name).2.stopAll canceled names).2) := rfl

theorem stopAll_calls (known : ∀ name ∈ names, name ∈ m.registrations.map (·.node.name)) (canceled : Bool) :
    ∃ made, AsksToStop names made ∧ (m.stopAll canceled names).1 = failures made ∧
      m.Keeps (m.stopAll canceled names).2 ∧
      ∀ calls, (m.recorded calls).stopAll canceled names =
        ((m.stopAll canceled names).1, (m.stopAll canceled names).2.recorded (calls ++ made)) := by
  induction names generalizing m with
  | nil => exact ⟨[], .nil, rfl, ⟨rfl, rfl, rfl⟩, fun calls => by rw [List.append_nil]; rfl⟩
  | cons name names ih =>
    obtain ⟨result, errors, keeps, same⟩ := stopOne_calls (known name List.mem_cons_self) canceled
    have others (other : String) (mem : other ∈ names) :
        other ∈ (m.stopOne canceled name).2.registrations.map (·.node.name) := by
      rw [keeps.registrations]
      exact known other (List.mem_cons_of_mem _ mem)
    obtain ⟨made, asks, more, rest, sameRest⟩ := ih others
    refine ⟨.stop name result :: made, .cons ⟨result, rfl⟩ asks, ?_, keeps.trans rest, fun calls => ?_⟩
    · rw [stopAll_cons, errors, more, ← failures_append]
      rfl
    · rw [stopAll_cons, stopAll_cons, same, sameRest, List.append_assoc]
      rfl

theorem stopStarted_calls (known : ∀ name ∈ m.startOrder, name ∈ m.registrations.map (·.node.name))
    (canceled : Bool) :
    ∃ made, AsksToStop m.startOrder.reverse made ∧ (m.stopStarted canceled).1 = failures made ∧
      (m.stopStarted canceled).2.registrations = m.registrations ∧
      (m.stopStarted canceled).2.startOrder = [] ∧ (m.stopStarted canceled).2.started = m.started ∧
      ∀ calls, (m.recorded calls).stopStarted canceled =
        ((m.stopStarted canceled).1, (m.stopStarted canceled).2.recorded (calls ++ made)) := by
  obtain ⟨made, asks, errors, keeps, same⟩ :=
    stopAll_calls (fun name mem => known name (List.mem_reverse.1 mem)) canceled
  refine ⟨made, asks, errors, keeps.registrations, rfl, keeps.started, fun calls => ?_⟩
  have stopped := same calls
  rw [stopStarted, show (m.recorded calls).startOrder = m.startOrder from rfl, stopped]
  rfl

/-- Starting one service records it as started, or changes nothing but the world and the events. -/
theorem startOne_calls (known : name ∈ m.registrations.map (·.node.name)) (canceled : Bool) :
    (∃ m', m.startOne canceled name = (.ok (), m') ∧ { m with startOrder := m.startOrder ++ [name] }.Keeps m' ∧
      ∀ calls, (m.recorded calls).startOne canceled name =
        (.ok (), m'.recorded (calls ++ [.start name (.ok ())]))) ∨
    ∃ e m', m.startOne canceled name = (.error e, m') ∧ m.Keeps m' ∧
      ∀ calls, (m.recorded calls).startOne canceled name =
        (.error e, m'.recorded (calls ++ [.start name (.error e)])) := by
  obtain ⟨s, found⟩ := exists_find? known
  have here : (m.emit name .starting).find? name = some s := found
  have recorded (calls : List (Call ε)) :
      ((m.recorded calls).emit name .starting).find? name = some (s.recorded name) :=
    (find?_recorded m calls name).trans (congrArg _ found)
  have ran (calls : List (Call ε)) : (s.recorded name).start canceled (m.world, calls) =
      ((s.start canceled m.world).1, (s.start canceled m.world).2,
        calls ++ [.start name (s.start canceled m.world).1]) := rfl
  have world (calls : List (Call ε)) : ((m.recorded calls).emit name .starting).world = (m.world, calls) := rfl
  rcases run : s.start canceled m.world with ⟨e | _, w⟩ <;> rw [run] at ran <;>
    simp only [startOne, here, recorded, world, show (m.emit name .starting).world = m.world from rfl, run, ran]
  · exact .inr ⟨e, _, rfl, ⟨rfl, rfl, rfl⟩, fun _ => rfl⟩
  · exact .inl ⟨_, rfl, ⟨rfl, rfl, rfl⟩, fun _ => rfl⟩

/-- How starting services one after the other ends. -/
inductive StartsAll (m : Manager σ ε) (names : List String) :
    Except (List (LifecycleError ε)) Unit → Manager σ ε → List (Call ε) → Prop where
  | all {m' : Manager σ ε} (keeps : { m with startOrder := m.startOrder ++ names }.Keeps m') :
      StartsAll m names (.ok ()) m' (names.map fun name => .start name (.ok ()))
  | failed (up after : List String) {name : String} {e : ε} {stops : List (Call ε)} {m' : Manager σ ε}
      (split : names = up ++ name :: after) (asks : AsksToStop (m.startOrder ++ up).reverse stops)
      (keeps : { m with startOrder := [] }.Keeps m') :
      StartsAll m names (.error (⟨"start", name, .service e⟩ :: failures stops)) m'
        ((up.map fun name => .start name (.ok ())) ++ .start name (.error e) :: stops)

theorem startAll_calls (known : ∀ name ∈ m.startOrder ++ names, name ∈ m.registrations.map (·.node.name))
    (canceled : Bool) :
    ∃ made, StartsAll m names (m.startAll canceled names).1 (m.startAll canceled names).2 made ∧
      ∀ calls, (m.recorded calls).startAll canceled names =
        ((m.startAll canceled names).1, (m.startAll canceled names).2.recorded (calls ++ made)) := by
  induction names generalizing m with
  | nil =>
    refine ⟨[], .all ⟨rfl, ?_, rfl⟩, fun calls => by rw [List.append_nil]; rfl⟩
    exact (List.append_nil _).symm
  | cons name names ih =>
    have inside := known name (List.mem_append_right _ List.mem_cons_self)
    rcases startOne_calls inside canceled with ⟨m₁, run, keeps, recorded⟩ | ⟨e, m₁, run, keeps, recorded⟩
    · have split : m₁.startOrder ++ names = m.startOrder ++ name :: names := by
        rw [keeps.startOrder, List.append_assoc, List.singleton_append]
      have others (other : String) (mem : other ∈ m₁.startOrder ++ names) :
          other ∈ m₁.registrations.map (·.node.name) := by
        rw [keeps.registrations]
        exact known other (split ▸ mem)
      obtain ⟨made, ends, same⟩ := ih others
      refine ⟨.start name (.ok ()) :: made, ?_, fun calls => ?_⟩
      · rw [startAll, run]
        dsimp only
        generalize (m₁.startAll canceled names).1 = result, (m₁.startAll canceled names).2 = m' at ends
        cases ends with
        | all rest =>
          exact .all ⟨rest.registrations.trans keeps.registrations, rest.startOrder.trans split,
            rest.started.trans keeps.started⟩
        | failed up after parts asks rest =>
          rw [keeps.startOrder, List.append_assoc, List.singleton_append] at asks
          exact .failed (name :: up) after (congrArg _ parts) asks
            ⟨rest.registrations.trans keeps.registrations, rest.startOrder, rest.started.trans keeps.started⟩
      · rw [startAll, startAll, recorded, run]
        dsimp only
        rw [same, List.append_assoc, List.singleton_append]
    · have running (other : String) (mem : other ∈ m₁.startOrder) :
          other ∈ m₁.registrations.map (·.node.name) := by
        rw [keeps.startOrder] at mem
        rw [keeps.registrations]
        exact known other (List.mem_append_left _ mem)
      obtain ⟨stops, asks, errors, registrations, order, started, same⟩ := stopStarted_calls running canceled
      refine ⟨.start name (.error e) :: stops, ?_, fun calls => ?_⟩
      · rw [startAll, run]
        dsimp only
        rw [errors]
        rw [keeps.startOrder] at asks
        refine .failed [] names rfl ?_ ⟨registrations.trans keeps.registrations, order,
          started.trans keeps.started⟩
        rwa [List.append_nil]
      · rw [startAll, startAll, recorded, run]
        dsimp only
        rw [same, List.append_assoc, List.singleton_append]

/-- A registration calls no service. -/
theorem register_recorded (m : Manager σ ε) (name : String) (service : Option (Service σ ε))
    (deps : List String) (calls : List (Call ε)) :
    (m.recorded calls).register name (service.map (·.recorded name)) deps =
      ((m.register name service deps).1, (m.register name service deps).2.recorded calls) := by
  have started : (m.recorded calls).started = m.started := rfl
  have taken : (m.recorded calls).registrations.any (·.node.name = name) =
      m.registrations.any (·.node.name = name) := List.any_map
  unfold register
  by_cases empty : name.isEmpty
  · rw [if_pos empty, if_pos empty]
  rw [if_neg empty, if_neg empty]
  cases service with
  | none => rfl
  | some s =>
    simp only [Option.map_some, started, taken]
    split
    · rfl
    split
    · rfl
    simp only [recorded, emit, List.map_append]
    rfl

/-- A registration leaves the manager as it is, or adds a service under a new name while nothing is started. -/
theorem register_cases (m : Manager σ ε) (name : String) (service : Option (Service σ ε)) (deps : List String) :
    (m.register name service deps).2 = m ∨ ∃ r, r.node.name ∉ m.registrations.map (·.node.name) ∧
      { m with registrations := m.registrations ++ [r] }.Keeps (m.register name service deps).2 := by
  unfold register
  by_cases empty : name.isEmpty
  · rw [if_pos empty]
    exact .inl rfl
  rw [if_neg empty]
  cases service with
  | none => exact .inl rfl
  | some s =>
    dsimp only
    split
    · exact .inl rfl
    split
    · exact .inl rfl
    case isFalse isNew => exact .inr ⟨⟨⟨name, deps⟩, s⟩, by simpa using isNew, ⟨rfl, rfl, rfl⟩⟩

theorem Sound.keeps (sound : m.Sound) (keeps : m.Keeps m') : m'.Sound where
  idle := by
    rw [keeps.started, keeps.startOrder]
    exact sound.idle
  known := by
    rw [keeps.startOrder, keeps.registrations]
    exact sound.known
  distinct := by
    rw [keeps.registrations]
    exact sound.distinct

/-- What has the same services, runs all that is recorded or nothing, and is sound. -/
theorem Sound.started (sound : m.Sound) (registrations : m'.registrations = m.registrations)
    (idle : m'.started = false → m'.startOrder = [])
    (known : ∀ name ∈ m'.startOrder, name ∈ m.registrations.map (·.node.name)) : m'.Sound :=
  ⟨idle, registrations ▸ known, registrations ▸ sound.distinct⟩

theorem Sound.register (sound : m.Sound) (name : String) (service : Option (Service σ ε)) (deps : List String) :
    Ends m (.register name service deps) ((m.register name service deps).1.mapError fun e => [e])
      (m.register name service deps).2 [] ∧ (m.register name service deps).2.Sound := by
  rcases m.register_cases name service deps with same | ⟨r, isNew, keeps⟩
  · rw [same]
    exact ⟨.register rfl rfl, sound⟩
  · refine ⟨.register keeps.started keeps.startOrder,
      Sound.keeps (m := { m with registrations := m.registrations ++ [r] }) ⟨sound.idle, ?_, ?_⟩ keeps⟩
    · intro other mem
      rw [List.map_append]
      exact List.mem_append_left _ (sound.known other mem)
    · rw [List.map_append]
      refine List.nodup_append'.2 ⟨sound.distinct, List.nodup_singleton _, ?_⟩
      exact List.disjoint_singleton.2 isNew

theorem start_of_started (started : m.started = true) :
    m.start canceled = (.error [{ operation := "start", cause := .alreadyStarted }], m) := by
  rw [start, if_pos started]

theorem start_of_error {e : OrderError} (before : m.started = false)
    (found : Lifecycle.startOrder (m.registrations.map (·.node)) = .error e) :
    m.start canceled = (.error [{ operation := "start", cause := .order e }], m) := by
  rw [start, if_neg (by simp [before]), found]

theorem start_of_ok {order : List String} (before : m.started = false)
    (found : Lifecycle.startOrder (m.registrations.map (·.node)) = .ok order) :
    m.start canceled = match (m.emit "" (.allStarting order)).startAll canceled order with
      | (.error es, m) => (.error es, m)
      | (.ok _, m) => (.ok (), { m with started := true }.emit "" .allStarted) := by
  rw [start, if_neg (by simp [before])]
  generalize Lifecycle.startOrder _ = sorted at found ⊢
  subst found
  rfl

theorem nodes_recorded (m : Manager σ ε) (calls : List (Call ε)) :
    (m.recorded calls).registrations.map (·.node) = m.registrations.map (·.node) := List.map_map

theorem Sound.start (sound : m.Sound) (canceled : Bool) :
    ∃ made, m.Makes (.start canceled) made ∧
      Ends m (.start canceled) (m.start canceled).1 (m.start canceled).2 made ∧ (m.start canceled).2.Sound := by
  cases before : m.started with
  | true =>
    refine ⟨[], fun calls => ?_, ?_, ?_⟩
    · rw [Operation.recorded, perform, perform, start_of_started before,
        start_of_started (m := m.recorded calls) before, List.append_nil]
    · rw [start_of_started before]
      exact .refused (.inl ⟨before, rfl⟩)
    · rwa [start_of_started before]
  | false =>
    cases found : Lifecycle.startOrder (m.registrations.map (·.node)) with
    | error e =>
      refine ⟨[], fun calls => ?_, ?_, ?_⟩
      · rw [Operation.recorded, perform, perform, start_of_error before found,
          start_of_error (m := m.recorded calls) before ((congrArg _ (m.nodes_recorded calls)).trans found),
          List.append_nil]
      · rw [start_of_error before found]
        exact .refused (.inr ⟨before, e, rfl⟩)
      · rwa [start_of_error before found]
    | ok order =>
      have names : (m.registrations.map (·.node)).map (·.name) = m.registrations.map (·.node.name) :=
        List.map_map
      have all : order.Perm (m.registrations.map (·.node.name)) :=
        names ▸ startOrder_perm (names ▸ sound.distinct) found
      have none : m.startOrder = [] := sound.idle before
      have known : ∀ name ∈ (m.emit "" (.allStarting order)).startOrder ++ order,
          name ∈ (m.emit "" (.allStarting order)).registrations.map (·.node.name) := by
        intro name mem
        rw [emit_startOrder, none, List.nil_append] at mem
        exact all.mem_iff.1 mem
      obtain ⟨made, ends, same⟩ := startAll_calls known canceled
      refine ⟨made, fun calls => ?_, ?_⟩
      · have run := same calls
        rw [Operation.recorded, perform, perform, start_of_ok before found,
          start_of_ok (m := m.recorded calls) before ((congrArg _ (m.nodes_recorded calls)).trans found)]
        rw [show (m.recorded calls).emit "" (.allStarting order) =
          (m.emit "" (.allStarting order)).recorded calls from rfl, run]
        rcases (m.emit "" (.allStarting order)).startAll canceled order with ⟨_ | _, m'⟩ <;> rfl
      · rw [start_of_ok before found]
        generalize (m.emit "" (.allStarting order)).startAll canceled order = out at ends
        obtain ⟨result, m'⟩ := out
        dsimp only at ends
        cases ends with
        | all keeps =>
          have running : m'.startOrder = order := by
            rw [keeps.startOrder, emit_startOrder, none, List.nil_append]
          refine ⟨.start before all rfl running, sound.started keeps.registrations nofun fun name mem => ?_⟩
          exact all.mem_iff.1 (running ▸ mem)
        | failed up after split asks keeps =>
          rw [emit_startOrder, none, List.nil_append] at asks
          refine ⟨.failed before (split ▸ all) asks (keeps.started.trans before) keeps.startOrder,
            sound.started keeps.registrations (fun _ => keeps.startOrder) fun name mem => ?_⟩
          rw [keeps.startOrder] at mem
          cases mem

theorem Sound.stop (sound : m.Sound) (canceled : Bool) :
    ∃ made, m.Makes (.stop canceled) made ∧
      Ends m (.stop canceled) (m.stop canceled).1 (m.stop canceled).2 made ∧ (m.stop canceled).2.Sound := by
  cases before : m.started with
  | false =>
    have idle : m.stop canceled = (.ok (), m) := by rw [Manager.stop, before]; rfl
    refine ⟨[], fun calls => ?_, ?_, ?_⟩
    · have here : (m.recorded calls).stop canceled = (.ok (), m.recorded calls) := by
        rw [Manager.stop, show (m.recorded calls).started = m.started from rfl, before]
        rfl
      rw [Operation.recorded, perform, perform, idle, here, List.append_nil]
    · rw [idle]
      exact .idle before
    · rwa [idle]
  | true =>
    obtain ⟨made, asks, errors, registrations, running, -, same⟩ :=
      stopStarted_calls (m := m.emit "" .allStopping) sound.known canceled
    have run : m.stop canceled = (if (failures made).isEmpty then .ok () else .error (failures made),
        { ((m.emit "" .allStopping).stopStarted canceled).2 with started := false }.emit "" .allStopped) := by
      rw [Manager.stop, before, ← errors]
      rfl
    refine ⟨made, fun calls => ?_, ?_, ?_⟩
    · have recorded := same calls
      rw [Operation.recorded, perform, perform, run, Manager.stop,
        show (m.recorded calls).started = m.started from rfl, before,
        show (m.recorded calls).emit "" .allStopping = (m.emit "" .allStopping).recorded calls from rfl,
        recorded, errors]
      rfl
    · rw [run]
      exact .stop before asks rfl running
    · rw [run]
      refine sound.started registrations (fun _ => running) fun name mem => ?_
      rw [emit_startOrder, running] at mem
      cases mem

/-- Every operation ends in one of the ways of `Ends`, and keeps the manager sound. -/
theorem Sound.perform (sound : m.Sound) (op : Operation σ ε) :
    ∃ made, m.Makes op made ∧ Ends m op (m.perform op).1 (m.perform op).2 made ∧ (m.perform op).2.Sound := by
  cases op with
  | register name service deps =>
    refine ⟨[], fun calls => ?_, sound.register name service deps⟩
    rw [Operation.recorded, Manager.perform, register_recorded, List.append_nil]
    rfl
  | start canceled => exact sound.start canceled
  | stop canceled => exact sound.stop canceled

/-- The calls of an operation are balanced. -/
theorem Sound.replay {op : Operation σ ε} {result : Except (List (LifecycleError ε)) Unit} (sound : m.Sound)
    (ends : Ends m op result m' calls) : replay calls m.startOrder.reverse = some m'.startOrder.reverse := by
  have nodup {order : List String} (all : order.Perm (m.registrations.map (·.node.name))) : order.Nodup :=
    all.nodup_iff.2 sound.distinct
  cases ends with
  | register _ order => rw [order, Lifecycle.replay]
  | refused | idle => rfl
  | start before all _ running =>
    rw [sound.idle before, running, List.reverse_nil, replay_all (nodup all)]
  | failed before all asks _ running =>
    obtain ⟨up, -, apart⟩ := List.nodup_append'.1 (nodup all)
    rw [sound.idle before, running, List.reverse_nil, replay_append, replay_all up, Option.bind_some]
    refine replay_start.2 ⟨fun mem => ?_, asks.replay⟩
    exact apart (List.mem_reverse.1 mem) List.mem_cons_self
  | stop _ asks _ running => rw [asks.replay, running, List.reverse_nil]

theorem Sound.new (w : σ) : ({ world := w } : Manager σ ε).Sound := ⟨fun _ => rfl, nofun, .nil⟩

/-- Operations keep the manager sound and its calls balanced, and do the same when the calls are written
down. -/
theorem Sound.performAll (sound : m.Sound) (balanced : Lifecycle.replay calls [] = some m.startOrder.reverse)
    (ops : List (Operation σ ε)) :
    ∃ calls', (m.recorded calls).performAll (ops.map .recorded) =
        ((m.performAll ops).1, (m.performAll ops).2.recorded calls') ∧
      (m.performAll ops).2.Sound ∧
      Lifecycle.replay calls' [] = some (m.performAll ops).2.startOrder.reverse := by
  induction ops generalizing m calls with
  | nil => exact ⟨calls, rfl, sound, balanced⟩
  | cons op ops ih =>
    obtain ⟨made, makes, ends, next⟩ := sound.perform op
    have together : Lifecycle.replay (calls ++ made) [] = some (m.perform op).2.startOrder.reverse := by
      rw [replay_append, balanced]
      exact sound.replay ends
    obtain ⟨calls', same, rest⟩ := ih next together
    refine ⟨calls', ?_, rest⟩
    rw [List.map_cons, Manager.performAll, makes, Manager.performAll]
    dsimp only
    rw [same]

end Manager

/-- **Lifecycle runs balance.** After any operations on a new manager, whose services may succeed or fail
in any way: what is not started has nothing recorded as started. The calls of services, replayed, leave on the
stack what is recorded as started, newest on top, so that services are stopped in the reverse of the order in
which they were started, and between two starts of a service it is asked to stop exactly once if the first one
succeeded and never if it failed. Every further operation ends as in `Ends`. -/
theorem runs_balance (w : σ) (ops : List (Operation σ ε)) :
    let (results, m) := ({ world := w } : Manager σ ε).performAll ops
    ∃ calls, Manager.performAll { world := (w, []) } (ops.map .recorded) = (results, m.recorded calls) ∧
      (m.started = false → m.startOrder = []) ∧
      replay calls [] = some m.startOrder.reverse ∧
      (∀ before name result between again after,
        calls = before ++ .start name result :: between ++ .start name again :: after →
        (∀ other, .start name other ∉ between) →
        between.countP (·.stops name) = if result.isOk then 1 else 0) ∧
      ∀ op, ∃ made, m.Makes op made ∧ Ends m op (m.perform op).1 (m.perform op).2 made := by
  have none : replay ([] : List (Call ε)) [] = some [] := rfl
  obtain ⟨calls, same, sound, balanced⟩ := (Manager.Sound.new w).performAll none ops
  refine ⟨calls, same, sound.idle, balanced, ?_, fun op => ?_⟩
  · rintro before name result between again after rfl noStart
    exact count_between balanced noStart
  · obtain ⟨made, makes, ends, -⟩ := sound.perform op
    exact ⟨made, makes, ends⟩

end TermBot.Lifecycle
