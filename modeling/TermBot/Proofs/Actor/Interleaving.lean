import TermBot.Proofs.Actor.Steps
import Mathlib.Data.List.Nodup
import Mathlib.Data.List.Pairwise
import Mathlib.Data.List.Permutation

/-!
# Every interleaving answers every request

A world is one actor with its callers and the slots for the answers, and a schedule says whose turn it is
to take an atomic step: `World.play`. The world also remembers which messages were accepted, which ones
the handler got to see and which answers were given, in order; no step reads that.

The accepted messages are those that are decided on and those that are waiting, and the answers are those
to the former (`World.Owes`). Every turn preserves that. Once the loop has ended nothing is waiting, and
no stop returns before that: `play_answers`.
-/

namespace TermBot.Actor

variable {P R E S : Type}

/-- An actor, its callers, the slots for answers, and what has happened so far. -/
structure World (P R E S : Type) where
  cell : Cell P R E S
  slots : Array (Option (Response R E)) := #[]
  calls : List (Call P) := []
  accepted : List (Message P) := []
  handled : List (Message P) := []
  answers : List (Answer R E) := []

/-- Whose turn it is: that of the message loop or of a call. -/
inductive Turn where
  | loop
  | call (i : Nat)

namespace World

/-- The actor in a system of its own. -/
def system (w : World P R E S) : System P R E S := { cells := #[w.cell], slots := w.slots }

/-- The world after a step of the actor that gives an answer or none. -/
def answer (w : World P R E S) (c : Cell P R E S) (a : Option (Answer R E)) : World P R E S :=
  { w with cell := c, slots := (w.system.deliver a).slots, answers := w.answers ++ a.toList }

/-- One turn. A stop does not begin before the actor is started, which a start does before it returns. -/
def turn (h : Handler P R E S) (w : World P R E S) : Turn → Option (World P R E S)
  | .loop => do
    let (c, a) ← w.cell.loopStep h.run h.held
    return { w.answer c a with handled := w.handled ++ w.cell.loop.reaching }
  | .call i => do
    let k ← w.calls[i]?
    if k.beginsStop && !w.cell.started then none
    else
      let (c, now, a) ← w.cell.callerStep k.now
      return { w.answer c a with
        calls := w.calls.set i ⟨k.start, now⟩
        accepted := w.accepted ++ k.pushed now }

/-- The turns of a schedule, all of which can be taken. -/
def play (h : Handler P R E S) (w : World P R E S) (schedule : List Turn) : Option (World P R E S) :=
  schedule.foldlM (turn h) w

/-- Nothing has happened yet. The actor is not started, each call is about to send a request, to stop the
actor or to start it, and each request has a slot of its own, which is empty. -/
structure Fresh (w : World P R E S) : Prop where
  cell : w.cell = { id := w.cell.id, name := w.cell.name, memory := w.cell.memory }
  calls : ∀ k ∈ w.calls, k.now = k.start ∧
    (k.start = .stopCheck ∨ k.start = .startMark ∨
      ∃ m n, k.start = .sendCheck m ∧ m.kind = .request ∧ m.outlet = .slot n ∧ n < w.slots.size)
  slots : ∀ n < w.slots.size, w.slots[n]? = some none
  distinct : ((w.calls.filterMap Call.message?).map (·.outlet)).Nodup
  history : w.accepted = [] ∧ w.handled = [] ∧ w.answers = []

end World

/-- The actor owes answers: the accepted messages are those that are decided on and those that are waiting,
and the answers are those to the former. `s` is what the handler remembered in the beginning. -/
structure World.Owes (h : Handler P R E S) (s : S) (w : World P R E S) (decided : List (Message P)) :
    Prop where
  accepted : w.accepted = decided ++ w.cell.waiting
  answers : w.answers ++ w.cell.promised = h.replies w.cell.id (.working s) decided
  handled : w.handled = h.reached (.working s) (decided ++ w.cell.entered)
  phase : ∀ φ, w.cell.phase? = some φ → h.after (.working s) decided = φ

section Owes

variable {h : Handler P R E S} {s : S} {w w' : World P R E S} {decided new : List (Message P)}
  {c : Cell P R E S} {a : Option (Answer R E)}

theorem World.Owes.accept {given : List (Answer R E)} (owes : w.Owes h s decided)
    (accepts : w.cell.Accepts w'.cell new given) (id : w'.cell.id = w.cell.id)
    (accepted : w'.accepted = w.accepted ++ new) (handled : w'.handled = w.handled)
    (answers : w'.answers = w.answers ++ given) : w'.Owes h s decided where
  accepted := by rw [accepted, owes.accepted, accepts.waiting, List.append_assoc]
  answers := by rw [answers, List.append_assoc, ← accepts.promised, owes.answers, id]
  handled := by rw [handled, accepts.entered, owes.handled]
  phase φ here := owes.phase φ (accepts.phase φ here)

/-- A step of the loop. -/
theorem World.Owes.progress (owes : w.Owes h s decided) (id : c.id = w.cell.id)
    (progress : w.cell.Progress h c a.toList) : ∃ decided',
      World.Owes h s { w.answer c a with handled := w.handled ++ w.cell.loop.reaching } decided' := by
  cases progress with
  | passes none accepts =>
    refine ⟨decided, owes.accept accepts id ?_ ?_ rfl⟩
    · rw [World.answer, List.append_nil]
    · rw [none, List.append_nil]
  | @enters m s' here phase kept before after waiting promised =>
    have seen : h.reached (.working s') [m] = [m] := by rw [Handler.reached, Handler.reached_nil]
    refine ⟨decided, ?_, ?_, ?_, fun φ there => owes.phase φ ?_⟩
    · rw [World.answer, waiting]
      exact owes.accepted
    · rw [World.answer, List.append_assoc, ← promised, id]
      exact owes.answers
    · rw [World.answer, here, after, Handler.reached_append, owes.phase _ phase, seen, owes.handled, before,
        List.append_nil]
    · rwa [World.answer, kept] at there
  | @decides m φ none here next first answer seen left =>
    have phase := owes.phase φ here
    refine ⟨decided ++ [m], ?_, ?_, ?_, fun φ' there => ?_⟩
    · rw [World.answer, owes.accepted, first, List.append_assoc, List.singleton_append]
    · rw [World.answer, List.append_assoc, answer, ← List.append_assoc, owes.answers, id,
        Handler.replies_append, phase]
      rfl
    · rw [World.answer, none, left, List.append_nil, List.append_nil, owes.handled, Handler.reached_append,
        Handler.reached_append, phase, seen]
    · rw [Handler.after_append, phase]
      exact next φ' there

end Owes

/-- What holds in every world that is reached from `w₀`. -/
structure World.Inv (h : Handler P R E S) (w w₀ : World P R E S) : Prop where
  formed : w.cell.WellFormed
  id : w.cell.id = w₀.cell.id
  owes : ∃ decided, w.Owes h w₀.cell.memory decided
  fits : ∀ k ∈ w.calls, k.Fits w.cell
  spawns : w.calls.countP Call.isSpawning + w.cell.isSpawned.toNat = w.cell.started.toNat
  accepted : w.accepted.Perm (w.calls.filterMap Call.accepted?)
  size : w.slots.size = w₀.slots.size
  slots : ∀ n < w.slots.size, w.slots[n]? = some (w.answers.lookup (.slot n))
  starts : w.calls.map Call.start = w₀.calls.map Call.start

section Invariant

variable {h : Handler P R E S} {w₀ w w' : World P R E S} {schedule : List Turn} {t : Turn}
  {a : Option (Answer R E)}

theorem World.Inv.of_fresh (fresh : w.Fresh) : World.Inv h w w where
  formed := by
    rw [fresh.cell]
    exact .of_open (Nat.le_refl _) rfl rfl (by simp)
  id := rfl
  owes := by
    obtain ⟨accepted, handled, answers⟩ := fresh.history
    refine ⟨[], ?_, ?_, ?_, fun φ here => ?_⟩
    · rw [accepted, fresh.cell]
      rfl
    · rw [answers, fresh.cell]
      rfl
    · rw [handled, fresh.cell]
      rfl
    · rw [fresh.cell] at here
      exact Option.some.inj here
  fits k mem := by
    obtain ⟨same, kind⟩ := fresh.calls k mem
    obtain ⟨start, now⟩ := k
    cases same
    rcases kind with rfl | rfl | ⟨m, n, rfl, -⟩
    · exact .stopCheck
    · exact .startMark
    · exact .sendCheck
  spawns := by
    have none : w.calls.countP Call.isSpawning = 0 := by
      rw [List.countP_eq_zero]
      intro k mem
      obtain ⟨same, kind⟩ := fresh.calls k mem
      rcases kind with start | start | ⟨m, n, start, -⟩ <;> simp [Call.isSpawning, same, start]
    rw [none, fresh.cell]
    rfl
  accepted := by
    have none : w.calls.filterMap Call.accepted? = [] := by
      rw [List.filterMap_eq_nil_iff]
      intro k mem
      obtain ⟨same, kind⟩ := fresh.calls k mem
      rcases kind with start | start | ⟨m, n, start, -⟩ <;> simp [Call.accepted?, Call.sent, same, start]
    rw [none, fresh.history.1]
  size := rfl
  slots n lt := by rw [fresh.slots n lt, fresh.history.2.2]; rfl
  starts := rfl

/-- A slot holds the first answer that was given for it. -/
theorem World.slots_answer {c : Cell P R E S}
    (slots : ∀ n < w.slots.size, w.slots[n]? = some (w.answers.lookup (.slot n))) :
    (w.answer c a).slots.size = w.slots.size ∧
      ∀ n < w.slots.size, (w.answer c a).slots[n]? = some ((w.answer c a).answers.lookup (.slot n)) := by
  cases a with
  | none =>
    refine ⟨rfl, fun n lt => ?_⟩
    rw [World.answer, Option.toList, List.append_nil]
    exact slots n lt
  | some given =>
    obtain ⟨outlet, r⟩ := given
    have answers : (w.answer c (some (outlet, r))).answers = w.answers ++ [(outlet, r)] := rfl
    have others : ∀ n, outlet ≠ .slot n →
        (w.answers ++ [(outlet, r)]).lookup (.slot n) = w.answers.lookup (.slot n) := by
      intro n ne
      have apart : (Outlet.slot n == outlet) = false := beq_eq_false_iff_ne.2 ne.symm
      rw [List.lookup_append, List.lookup_cons, apart, List.lookup_nil, Option.or_none]
    rw [answers]
    cases outlet with
    | none | unbuffered => exact ⟨rfl, fun n lt => by rw [others n (by simp)]; exact slots n lt⟩
    | slot k =>
      have empty : w.slots[k]? = some none →
          (w.answer c (some (.slot k, r))).slots = w.slots.setIfInBounds k (some r) := by
        intro here
        rw [World.answer, System.deliver, World.system, here]
      have full : w.slots[k]? ≠ some none → (w.answer c (some (.slot k, r))).slots = w.slots := by
        intro ne
        rw [World.answer, System.deliver, World.system]
        split
        · rename_i here
          exact absurd here ne
        · rfl
      refine ⟨?_, fun n lt => ?_⟩
      · by_cases here : w.slots[k]? = some none
        · rw [empty here, Array.size_setIfInBounds]
        · rw [full here]
      by_cases same : n = k
      · subst same
        have held := slots n lt
        rw [List.lookup_append, List.lookup_cons_self]
        cases found : w.answers.lookup (.slot n) with
        | none =>
          rw [found] at held
          rw [empty held, Array.getElem?_setIfInBounds_self_of_lt lt]
          rfl
        | some r' =>
          rw [found] at held
          rw [full (by simp [held]), held]
          rfl
      · rw [others n (by simpa using fun eq => same eq.symm)]
        by_cases here : w.slots[k]? = some none
        · rw [empty here, Array.getElem?_setIfInBounds_ne (fun eq => same eq.symm)]
          exact slots n lt
        · rw [full here]
          exact slots n lt

theorem World.Inv.loop {c : Cell P R E S} (inv : w.Inv h w₀)
    (step : w.cell.loopStep h.run h.held = some (c, a)) :
    World.Inv h { w.answer c a with handled := w.handled ++ w.cell.loop.reaching } w₀ := by
  obtain ⟨decided, owes⟩ := inv.owes
  have moves := inv.formed.loopStep step
  obtain ⟨size, slots⟩ := w.slots_answer (c := c) (a := a) inv.slots
  exact {
    formed := moves.formed
    id := moves.id.trans inv.id
    owes := owes.progress moves.id moves.progress
    fits := fun k mem => (inv.fits k mem).mono (fun here => moves.started.trans here)
      fun done => by simp [moves.running] at done
    spawns := by
      have spawns := inv.spawns
      rw [← moves.spawned, ← moves.started] at spawns
      exact spawns
    accepted := inv.accepted
    size := size.trans inv.size
    slots := fun n lt => slots n (size ▸ lt)
    starts := inv.starts }

theorem World.Inv.call {c : Cell P R E S} {i : Nat} {k : Call P} {now : Caller P} (inv : w.Inv h w₀)
    (here : w.calls[i]? = some k) (guard : k.beginsStop = true → w.cell.started = true)
    (step : w.cell.callerStep k.now = some (c, now, a)) :
    World.Inv h { w.answer c a with
      calls := w.calls.set i ⟨k.start, now⟩
      accepted := w.accepted ++ k.pushed now } w₀ := by
  obtain ⟨decided, owes⟩ := inv.owes
  obtain ⟨before, after, split, change⟩ : ∃ before after, w.calls = before ++ k :: after ∧
      ∀ k', w.calls.set i k' = before ++ k' :: after := by
    obtain ⟨lt, rfl⟩ := List.getElem?_eq_some_iff.1 here
    refine ⟨w.calls.take i, w.calls.drop (i + 1), by simp, fun k' => ?_⟩
    rw [List.set_eq_take_append_cons_drop, if_pos lt]
  have spawns := inv.spawns
  rw [split, List.countP_append, List.countP_cons] at spawns
  have weight : ∀ k : Call P, (if k.isSpawning = true then 1 else 0) = k.isSpawning.toNat := by
    intro k
    cases k.isSpawning <;> rfl
  have starting : k.isSpawning = true → w.cell.isSpawned = false := by
    intro spawning
    have one := Bool.toNat_le w.cell.started
    rw [if_pos spawning] at spawns
    exact Bool.toNat_eq_zero.1 (by omega)
  have moves := (inv.fits k (by simp [split])).step inv.formed guard starting step
  obtain ⟨size, slots⟩ := w.slots_answer (c := c) (a := a) inv.slots
  obtain rfl : a = none := moves.silent
  exact {
    formed := moves.formed
    id := moves.id.trans inv.id
    owes := ⟨decided, owes.accept moves.accepts moves.id rfl rfl rfl⟩
    fits := by
      intro k' mem
      rw [change, List.mem_append, List.mem_cons] at mem
      rcases mem with mem | rfl | mem
      · exact (inv.fits k' (by simp [split, mem])).mono moves.started moves.done
      · exact moves.fits
      · exact (inv.fits k' (by simp [split, mem])).mono moves.started moves.done
    spawns := by
      have balance := moves.spawns
      rw [weight] at spawns
      rw [change, List.countP_append, List.countP_cons, weight]
      change _ + c.isSpawned.toNat = c.started.toNat
      omega
    accepted := by
      have places : ∀ k, (before ++ k :: after).filterMap Call.accepted? = before.filterMap Call.accepted? ++
          (k.accepted?.toList ++ after.filterMap Call.accepted?) := by
        intro k
        rw [List.filterMap_append, List.filterMap_cons]
        cases k.accepted? <;> rfl
      have old := inv.accepted
      rw [split, places] at old
      rw [change, places, moves.accepted]
      refine (old.append_right _).trans ?_
      rw [List.append_assoc, List.append_assoc, List.append_assoc]
      exact (List.perm_append_comm.append_left _).append_left _
    size := size.trans inv.size
    slots := fun n lt => slots n (size ▸ lt)
    starts := by
      rw [← inv.starts, change, split]
      simp }

/-- Every turn keeps the invariant. -/
theorem World.Inv.turn (inv : w.Inv h w₀) (step : w.turn h t = some w') : w'.Inv h w₀ := by
  cases t with
  | loop =>
    obtain ⟨⟨c, a⟩, move, done⟩ := Option.bind_eq_some_iff.1 step
    cases done
    exact inv.loop move
  | call i =>
    obtain ⟨k, here, rest⟩ := Option.bind_eq_some_iff.1 step
    by_cases held : (k.beginsStop && !w.cell.started) = true
    · rw [if_pos held] at rest
      cases rest
    · rw [if_neg held] at rest
      obtain ⟨⟨c, now, a⟩, move, done⟩ := Option.bind_eq_some_iff.1 rest
      cases done
      refine inv.call here (fun begins => ?_) move
      simpa [begins] using held

theorem World.Inv.play (inv : w.Inv h w₀) (played : w.play h schedule = some w') : w'.Inv h w₀ := by
  induction schedule generalizing w with
  | nil =>
    cases played
    exact inv
  | cons t schedule ih =>
    rw [World.play, List.foldlM_cons] at played
    obtain ⟨w₁, step, rest⟩ := Option.bind_eq_some_iff.1 played
    exact ih (inv.turn step) rest

end Invariant

section Reached

variable {h : Handler P R E S} {w₀ w : World P R E S} {k k' : Call P} {m m' : Message P}

theorem Call.accepted?_eq_some : k.accepted? = some m ↔ Call.sent k.now = true ∧ k.message? = some m := by
  rw [Call.accepted?]
  split <;> simp_all

theorem World.Inv.distinct (inv : w.Inv h w₀) (fresh : w₀.Fresh) :
    ((w.calls.filterMap Call.message?).map (·.outlet)).Nodup := by
  have starts : ∀ calls : List (Call P), calls.filterMap Call.message? =
      (calls.map Call.start).filterMap fun start => Call.message? ⟨start, start⟩ := by
    intro calls
    rw [List.filterMap_map]
    rfl
  rw [starts, inv.starts, ← starts]
  exact fresh.distinct

/-- The accepted messages have slots of their own. -/
theorem World.Inv.nodup_accepted (inv : w.Inv h w₀) (fresh : w₀.Fresh) :
    (w.accepted.map (·.outlet)).Nodup := by
  have sub : (w.calls.filterMap Call.accepted?).Sublist (w.calls.filterMap Call.message?) := by
    have same : w.calls.filterMap Call.accepted? =
        (w.calls.filter fun k => Call.sent k.now).filterMap Call.message? := by
      rw [List.filterMap_filter]
      rfl
    rw [same]
    exact List.filter_sublist.filterMap _
  have outlets := inv.accepted.map (·.outlet)
  exact outlets.nodup_iff.2 ((inv.distinct fresh).sublist (sub.map _))

/-- A message that is to be sent has a slot. -/
theorem World.Inv.slot_of_message (inv : w.Inv h w₀) (fresh : w₀.Fresh) (mem : k ∈ w.calls)
    (message : k.message? = some m) : ∃ n, m.outlet = .slot n ∧ n < w.slots.size := by
  have start : k.start = .sendCheck m := by
    rw [Call.message?] at message
    split at message
    · cases message
      assumption
    · cases message
  obtain ⟨k₀, mem₀, same⟩ := List.mem_map.1 (inv.starts ▸ List.mem_map_of_mem mem)
  obtain ⟨-, kind⟩ := fresh.calls k₀ mem₀
  rw [same, start] at kind
  rcases kind with kind | kind | ⟨m', n, kind, -, slot, lt⟩
  · cases kind
  · cases kind
  · cases kind
    exact ⟨n, slot, inv.size.symm ▸ lt⟩

/-- The answers are for the accepted messages, in order. -/
theorem World.Inv.answers_isPrefix (inv : w.Inv h w₀) :
    w.answers.map Prod.fst <+: w.accepted.map (·.outlet) := by
  obtain ⟨decided, owes⟩ := inv.owes
  have given := congrArg (List.map Prod.fst) owes.answers
  rw [List.map_append, Handler.map_fst_replies] at given
  rw [owes.accepted, List.map_append, ← given, List.append_assoc]
  exact List.prefix_append _ _

/-- Only what was sent is answered. -/
theorem World.Inv.sent_of_answered (inv : w.Inv h w₀) (fresh : w₀.Fresh) (mem : k ∈ w.calls)
    (message : k.message? = some m) (answered : m.outlet ∈ w.answers.map Prod.fst) :
    Call.sent k.now = true := by
  obtain ⟨m', accepted, same⟩ := List.mem_map.1 (inv.answers_isPrefix.subset answered)
  obtain ⟨k', mem', found⟩ := List.mem_filterMap.1 (inv.accepted.subset accepted)
  obtain ⟨sent, message'⟩ := Call.accepted?_eq_some.1 found
  -- the call whose message was accepted is this one, as no other has the slot
  have distinct := inv.distinct fresh
  rw [List.map_filterMap, List.Nodup, List.pairwise_filterMap] at distinct
  by_contra unsent
  have ne : k ≠ k' := fun eq => unsent (eq ▸ sent)
  have apart := @List.Pairwise.forall _ _ _
    ⟨fun a b apart x here y there eq => apart y there x here eq.symm⟩ distinct k mem k' mem' ne
  exact apart m.outlet (by simp [message]) m.outlet (by simp [message', same]) rfl

/-- Where the loop has ended, every accepted message is answered. -/
theorem World.Inv.all_answered (inv : w.Inv h w₀) (done : w.cell.isDone = true) :
    w.answers = h.replies w₀.cell.id (.working w₀.cell.memory) w.accepted ∧
      w.handled = h.reached (.working w₀.cell.memory) w.accepted := by
  obtain ⟨decided, owes⟩ := inv.owes
  have finished : w.cell.loop = .finished := by
    rw [Cell.isDone] at done
    split at done
    · assumption
    · cases done
  have queue := inv.formed.emptied (by rw [finished]; rfl)
  have accepted := owes.accepted
  have answers := owes.answers
  have handled := owes.handled
  rw [Cell.waiting, finished, queue, List.append_nil, List.append_nil] at accepted
  rw [Cell.promised, finished, List.append_nil, inv.id] at answers
  rw [Cell.entered, finished, List.append_nil] at handled
  rw [accepted]
  exact ⟨answers, handled⟩

/-- A stop does not return before the loop has ended. -/
theorem World.Inv.done_of_stopped {r : Except Refusal Unit} (inv : w.Inv h w₀) (mem : k ∈ w.calls)
    (stop : k.start = .stopCheck) (returned : k.now = .returned r) : w.cell.isDone = true := by
  have fits := inv.fits k mem
  obtain ⟨start, now⟩ := k
  cases stop
  cases returned
  cases fits with
  | stopReturned done => exact done

end Reached

/-- In every interleaving, a request is answered at most once and only if its send is accepted; the handler
sees the messages in the order in which they were accepted, and none after a panic; and once a stop has
returned, the slot of every accepted request holds the one answer that was given to it, which is what the
handler returned, or the failure of the actor from the first panic on. -/
theorem play_answers {h : Handler P R E S} {w₀ w : World P R E S} {schedule : List Turn}
    (fresh : w₀.Fresh) (played : w₀.play h schedule = some w) :
    (∀ k ∈ w.calls, ∀ m, k.message? = some m → (w.answers.map Prod.fst).count m.outlet ≤ 1 ∧
      (m.outlet ∈ w.answers.map Prod.fst → Call.sent k.now = true)) ∧
    (w.handled <+: w.accepted ∧ (w.accepted.map (·.outlet)).Nodup ∧
      ∀ before m rest, w.handled = before ++ m :: rest →
        h.after (.working w₀.cell.memory) (before ++ [m]) = .failed → rest = []) ∧
    ∀ stop ∈ w.calls, stop.start = .stopCheck → (∃ r, stop.now = .returned r) →
      ∀ k ∈ w.calls, ∀ m, k.message? = some m → Call.sent k.now = true →
        ∃ n before rest, m.outlet = .slot n ∧ w.accepted = before ++ m :: rest ∧
          let reply := h.response w₀.cell.id (h.after (.working w₀.cell.memory) before) m
          w.answers.filter (·.1 = m.outlet) = [(m.outlet, reply)] ∧ w.slots[n]? = some (some reply) ∧
            (h.after (.working w₀.cell.memory) (before ++ [m]) = .failed →
              reply.payload = none ∧ ∃ f, reply.failure = some f ∧ f.isActorFailed = true) := by
  have inv := (World.Inv.of_fresh (h := h) fresh).play played
  have nodup := inv.nodup_accepted fresh
  refine ⟨fun k mem m message => ⟨?_, inv.sent_of_answered fresh mem message⟩, ⟨?_, nodup, ?_⟩, ?_⟩
  · exact List.nodup_iff_count_le_one.1 (nodup.sublist inv.answers_isPrefix.sublist) _
  · obtain ⟨decided, owes⟩ := inv.owes
    rw [owes.handled, owes.accepted]
    exact Handler.reached_isPrefix.trans ((List.prefix_append_right_inj decided).2 w.cell.entered_isPrefix)
  · intro before m rest handled failed
    obtain ⟨decided, owes⟩ := inv.owes
    have seen : before ++ m :: rest <+: h.reached (.working w₀.cell.memory) (decided ++ w.cell.entered) :=
      (handled.symm.trans owes.handled) ▸ List.prefix_rfl
    exact Handler.reached_of_failed seen failed
  · rintro stop here begins ⟨r, returned⟩ k mem m message sent
    obtain ⟨answers, -⟩ := inv.all_answered (inv.done_of_stopped here begins returned)
    have accepted : m ∈ w.accepted := inv.accepted.mem_iff.2
      (List.mem_filterMap.2 ⟨k, mem, Call.accepted?_eq_some.2 ⟨sent, message⟩⟩)
    obtain ⟨before, rest, split⟩ := List.append_of_mem accepted
    obtain ⟨n, slot, lt⟩ := inv.slot_of_message fresh mem message
    refine ⟨n, before, rest, slot, split, ?_⟩
    intro reply
    have given : w.answers = h.replies w₀.cell.id (.working w₀.cell.memory) before ++ (m.outlet, reply) ::
        h.replies w₀.cell.id (h.after (.working w₀.cell.memory) (before ++ [m])) rest := by
      rw [answers, split, Handler.replies_append, Handler.after_append]
      rfl
    -- the slot is that of no other message
    have outlets := nodup.sublist inv.answers_isPrefix.sublist
    rw [given, List.map_append, List.map_cons, List.nodup_middle, List.nodup_cons, List.mem_append] at outlets
    obtain ⟨first, last⟩ := not_or.1 outlets.1
    have others : ∀ {l : List (Answer R E)}, m.outlet ∉ l.map Prod.fst → l.filter (·.1 = m.outlet) = [] := by
      intro l out
      rw [List.filter_eq_nil_iff]
      intro p inside
      simpa using fun eq : p.1 = m.outlet => out (eq ▸ List.mem_map_of_mem inside)
    refine ⟨?_, ?_, fun failed => ?_⟩
    · rw [given, List.filter_append, others first, List.nil_append, List.filter_cons_of_pos (by simp),
        others last]
    · have absent : (h.replies w₀.cell.id (.working w₀.cell.memory) before).lookup m.outlet = none := by
        rw [List.lookup_eq_none_iff]
        intro p inside
        exact bne_iff_ne.2 fun eq => first (List.mem_map.2 ⟨p, inside, eq.symm⟩)
      rw [inv.slots n lt, given, ← slot, List.lookup_append, absent, List.lookup_cons_self]
      rfl
    · rw [Handler.after_append] at failed
      exact Handler.response_failed failed

/-- The handler panics on the first of two requests, the second one is queued behind it, and a stop begins
and ends after both were sent. -/
theorem play_answers_panic :
    let h : Handler Unit Unit Empty Unit := { run := fun _ _ => (.panicked "bad", ()) }
    let first : Message Unit := { payload := (), outlet := .slot 0 }
    let second : Message Unit := { payload := (), outlet := .slot 1 }
    let starts : List (Caller Unit) := [.startMark, .sendCheck first, .sendCheck second, .stopCheck]
    let w₀ : World Unit Unit Empty Unit := {
      cell := { id := 7, name := "actor", memory := () }
      slots := #[none, none]
      calls := starts.map fun k => ⟨k, k⟩ }
    let sends : List Turn := [.call 1, .call 2, .call 0, .call 1, .call 0, .call 2, .call 1, .call 2]
    ∃ w, w₀.play h (sends ++ List.replicate 12 .loop ++ List.replicate 6 (.call 3)) = some w ∧
      ∃ reply, w.slots[1]? = some (some reply) ∧
        w.answers.filter (·.1 = second.outlet) = [(.slot 1, reply)] := by
  intro h first second starts w₀ sends
  have fresh : w₀.Fresh := by
    have slots : ∀ n < w₀.slots.size, w₀.slots[n]? = some none
      | 0, _ | 1, _ => rfl
    have distinct : (w₀.calls.filterMap Call.message?).map (·.outlet) = [.slot 0, .slot 1] := rfl
    refine ⟨rfl, fun k mem => ?_, slots, by simp [distinct], rfl, rfl, rfl⟩
    obtain ⟨start, here, rfl⟩ := List.mem_map.1 mem
    refine ⟨rfl, ?_⟩
    simp only [starts, List.mem_cons, List.not_mem_nil, or_false] at here
    rcases here with rfl | rfl | rfl | rfl
    · exact .inr (.inl rfl)
    · exact .inr (.inr ⟨first, 0, rfl, rfl, rfl, Nat.zero_lt_succ 1⟩)
    · exact .inr (.inr ⟨second, 1, rfl, rfl, rfl, Nat.lt_succ_self 1⟩)
    · exact .inl rfl
  let sent : Call Unit := ⟨.sendCheck second, .returned (.ok ())⟩
  let stop : Call Unit := ⟨.stopCheck, .returned (.ok ())⟩
  have calls : (w₀.play h (sends ++ List.replicate 12 .loop ++ List.replicate 6 (.call 3))).map World.calls =
      some [⟨.startMark, .returned (.ok ())⟩, ⟨.sendCheck first, .returned (.ok ())⟩, sent, stop] := by cbv
  obtain ⟨w, played, calls⟩ := Option.map_eq_some_iff.1 calls
  obtain ⟨-, -, stopped⟩ := play_answers fresh played
  obtain ⟨n, before, rest, slot, -, given, held, -⟩ :=
    stopped stop (by simp [calls]) rfl ⟨_, rfl⟩ sent (by simp [calls]) second rfl rfl
  cases slot
  exact ⟨w, played, _, held, given⟩

end TermBot.Actor
