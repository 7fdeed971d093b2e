import TermBot.Proofs.Actor.Queueing
import TermBot.Proofs.Actor.Stopping

/-!
# No wake-up is lost

A producer adds an item or closes the mailbox under the lock, and leaves the token in another step. The consumer
looks into the mailbox under the lock, lets the lock go, and receives the token if it has found nothing. Any number
of producers and one consumer take such steps in any order (`Handover.play`). The token may be stale, and several
producers may leave it only once. What every step keeps is that a consumer which has found nothing is attended: the
token is there, or some producer is about to leave it, or there still is nothing to find (`Mailbox.Attended`).

The message loop of an actor and the callers of that actor are such a consumer and such producers, and what a
caller does besides does not matter: `World.Attended.play`.
-/

namespace TermBot.Actor

/-! ### One mailbox -/

namespace Mailbox

variable {α : Type} {mb mb' : Mailbox α} {coming coming' : Prop}

/-- Whoever waits for the token will get it, or has nothing to wait for: the token is there, or it is `coming`, or
the mailbox is empty and open. -/
def Attended (mb : Mailbox α) (coming : Prop) : Prop :=
  mb.token = true ∨ coming ∨ mb.toList = [] ∧ mb.closed = false

theorem attended_wake (mb : Mailbox α) (coming : Prop) : mb.wake.Attended coming := .inl rfl

theorem Attended.of_pop (popped : mb.pop = (.empty, mb')) (coming : Prop) : mb'.Attended coming := by
  obtain ⟨rfl, queue, -⟩ := pop_nothing (.inl popped)
  refine .inr (.inr ⟨queue, ?_⟩)
  rw [pop_nil queue] at popped
  cases state : mb'.closed with
  | true => simp [state] at popped
  | false => rfl

/-- A mailbox that is no fuller than before is attended if it was, as long as the token is still coming. -/
theorem Attended.imp (attended : mb.Attended coming) (token : mb'.token = mb.token)
    (queue : mb.toList = [] → mb'.toList = []) (closed : mb'.closed = mb.closed) (still : coming → coming') :
    mb'.Attended coming' := by
  rcases attended with here | soon | ⟨empty, isOpen⟩
  · exact .inl (token.trans here)
  · exact .inr (.inl (still soon))
  · exact .inr (.inr ⟨queue empty, closed.trans isOpen⟩)

end Mailbox

/-- Whoever satisfies `p` still is there when somebody else has moved. -/
theorem exists_mem_set {α : Type} {l : List α} {p : α → Bool} {i : Nat} {a b : α} (here : l[i]? = some a)
    (calm : p a = false) : (∃ x ∈ l, p x = true) → ∃ x ∈ l.set i b, p x = true := by
  rintro ⟨x, mem, holds⟩
  obtain ⟨j, there⟩ := List.getElem?_of_mem mem
  have ne : i ≠ j := by
    rintro rfl
    rw [here, Option.some.injEq] at there
    rw [← there, calm] at holds
    cases holds
  exact ⟨x, List.mem_of_getElem? ((List.getElem?_set_ne ne).trans there), holds⟩

/-! ### Producers and a consumer -/

/-- What a producer does with a mailbox. -/
inductive Offer (α : Type) where
  | push (a : α)
  | close

/-- A producer between two of its steps. -/
structure Producer (α : Type) where
  /-- It has added an item or closed the mailbox, and is about to leave the token. -/
  waking : Bool := false
  /-- What it does after that. -/
  offers : List (Offer α)

/-- Where the consumer stands. -/
inductive Consumer (α : Type) where
  /-- About to look into the mailbox. -/
  | looking
  /-- Has looked into the mailbox and holds its lock. -/
  | holding (found : Taken α)
  /-- Has found nothing and let the lock go; about to receive the token. -/
  | asleep
  /-- Has got an item, or that there are no more. -/
  | returned (result : Option α)

/-- A mailbox with its producers and its consumer. -/
structure Handover (α : Type) where
  mailbox : Mailbox α
  producers : List (Producer α)
  consumer : Consumer α := .looking

variable {α : Type}

/-- A step of a producer: leaving the token, or else what is next, under the lock. A mailbox that is closed refuses
an item, and then no token is left. -/
def Producer.step (mb : Mailbox α) (p : Producer α) : Option (Mailbox α × Producer α) :=
  if p.waking then some (mb.wake, { p with waking := false })
  else
    match p.offers with
    | [] => none
    | .push a :: rest => some ((mb.push a).2, ⟨(mb.push a).1, rest⟩)
    | .close :: rest => some (mb.close, ⟨true, rest⟩)

/-- The consumer holds the lock. -/
def Consumer.holds : Consumer α → Bool
  | .holding _ => true
  | _ => false

/-- The consumer has found nothing and is on its way to the token. -/
def Consumer.waits : Consumer α → Bool
  | .holding .empty | .asleep => true
  | _ => false

/-- A step of the consumer. Without the token it stays asleep; when it has got something, it begins again. -/
def Consumer.step (mb : Mailbox α) : Consumer α → Option (Mailbox α × Consumer α)
  | .looking => some (mb.pop.2, .holding mb.pop.1)
  | .holding (.item a) => some (mb, .returned (some a))
  | .holding .finished => some (mb, .returned none)
  | .holding .empty => some (mb, .asleep)
  | .asleep => if mb.token then some ({ mb with token := false }, .looking) else none
  | .returned _ => some (mb, .looking)

namespace Handover

/-- Whose turn it is. -/
inductive Turn where
  | consumer
  | producer (i : Nat)

/-- One turn. Leaving the token takes no lock. -/
def turn (x : Handover α) : Turn → Option (Handover α)
  | .consumer => do
    let (mb, consumer) ← x.consumer.step x.mailbox
    return { x with mailbox := mb, consumer }
  | .producer i => do
    let p ← x.producers[i]?
    if x.consumer.holds && !p.waking then none
    else
      let (mb, p) ← p.step x.mailbox
      return { x with mailbox := mb, producers := x.producers.set i p }

/-- The turns of a schedule, all of which can be taken. -/
def play (x : Handover α) (schedule : List Turn) : Option (Handover α) := schedule.foldlM turn x

/-- A new mailbox, what each of the producers is to do, and a consumer that has not looked yet. -/
def start (capacity : Int) (offers : List (List (Offer α))) : Handover α where
  mailbox := .ofCapacity capacity
  producers := offers.map ({ offers := · })

/-- A consumer that has found nothing is attended. -/
def Attended (x : Handover α) : Prop :=
  x.consumer.waits = true → x.mailbox.Attended (∃ p ∈ x.producers, p.waking = true)

variable {x y : Handover α} {i : Nat} {p : Producer α}

theorem turn_consumer (step : x.turn .consumer = some y) :
    ∃ mb consumer, x.consumer.step x.mailbox = some (mb, consumer) ∧
      y = { x with mailbox := mb, consumer } := by
  obtain ⟨⟨mb, consumer⟩, move, done⟩ := Option.bind_eq_some_iff.1 step
  cases done
  exact ⟨mb, consumer, move, rfl⟩

theorem turn_producer (step : x.turn (.producer i) = some y) :
    ∃ p mb p', x.producers[i]? = some p ∧ p.step x.mailbox = some (mb, p') ∧
      y = { x with mailbox := mb, producers := x.producers.set i p' } := by
  obtain ⟨p, here, rest⟩ := Option.bind_eq_some_iff.1 step
  split at rest
  · cases rest
  obtain ⟨⟨mb, p'⟩, move, done⟩ := Option.bind_eq_some_iff.1 rest
  cases done
  exact ⟨p, mb, p', here, move, rfl⟩

/-- A step of the consumer. It goes to sleep only with what it has found under the lock. -/
theorem Attended.consumer (attended : x.Attended) (step : x.turn .consumer = some y) : y.Attended := by
  obtain ⟨mb, consumer, move, rfl⟩ := turn_consumer step
  intro waits
  rcases x with ⟨mailbox, producers, place⟩
  dsimp only at move waits ⊢
  cases place with
  | looking =>
    rcases popped : mailbox.pop with ⟨found, mb'⟩
    rw [Consumer.step, popped] at move
    cases move
    cases found with
    | empty => exact .of_pop popped _
    | item a | finished => cases waits
  | holding found =>
    cases found with
    | empty =>
      cases move
      exact attended rfl
    | item a | finished =>
      cases move
      cases waits
  | asleep =>
    rw [Consumer.step] at move
    split at move <;> cases move
    cases waits
  | returned result =>
    cases move
    cases waits

/-- A step of a producer. Whoever changes the mailbox comes with the token, and then leaves it. -/
theorem Attended.producer (attended : x.Attended) (step : x.turn (.producer i) = some y) : y.Attended := by
  obtain ⟨p, mb, p', here, move, rfl⟩ := turn_producer step
  obtain ⟨inside, -⟩ := List.getElem?_eq_some_iff.1 here
  have comes (waking : p'.waking = true) : ∃ q ∈ x.producers.set i p', q.waking = true :=
    ⟨p', List.mem_set inside p', waking⟩
  intro waits
  rw [Producer.step] at move
  split at move
  case isTrue =>
    cases move
    exact Mailbox.attended_wake _ _
  case isFalse calm =>
    have calm : p.waking = false := Bool.eq_false_iff.2 calm
    split at move
    · cases move
    case h_2 a rest _ =>
      cases move
      cases closed : x.mailbox.closed with
      | true =>
        rw [Mailbox.push_closed closed] at comes ⊢
        exact (attended waits).imp rfl (fun empty => empty) rfl (exists_mem_set here calm)
      | false =>
        rw [Mailbox.push_open closed] at comes ⊢
        exact .inr (.inl (comes rfl))
    case h_3 =>
      cases move
      exact .inr (.inl (comes rfl))

theorem Attended.turn {t : Turn} (attended : x.Attended) (step : x.turn t = some y) : y.Attended := by
  cases t with
  | consumer => exact attended.consumer step
  | producer i => exact attended.producer step

theorem Attended.play {schedule : List Turn} (attended : x.Attended) (played : x.play schedule = some y) :
    y.Attended := by
  induction schedule generalizing x with
  | nil =>
    cases played
    exact attended
  | cons t schedule ih =>
    rw [Handover.play, List.foldlM_cons] at played
    obtain ⟨x₁, step, rest⟩ := Option.bind_eq_some_iff.1 played
    exact ih (attended.turn step) rest

/-- **No wake-up is lost.** Any number of producers add items and close the mailbox, each as often as it likes, and
one consumer takes items, in any interleaving of their steps. Whenever the consumer is asleep and the token is not
there, the mailbox is empty and open, or some producer has made its change and is about to leave the token. -/
theorem no_wakeup_lost {capacity : Int} {offers : List (List (Offer α))} {schedule : List Turn} {x : Handover α}
    (played : (start capacity offers).play schedule = some x) (asleep : x.consumer = .asleep)
    (absent : x.mailbox.token = false) :
    x.mailbox.toList = [] ∧ x.mailbox.closed = false ∨ ∃ p ∈ x.producers, p.waking = true := by
  have attended : (start capacity offers).Attended := by
    intro waits
    cases waits
  rcases attended.play played (by rw [asleep]; rfl) with here | comes | nothing
  · rw [absent] at here
    cases here
  · exact .inr comes
  · exact .inl nothing

/-- The consumer has taken the first item before its token was left, wakes up for nothing, and sleeps again when the
second item is added: the token for that one is still to come. -/
theorem no_wakeup_lost_stale :
    let x : Handover Nat := ⟨{ items := #[2] }, [{ offers := [] }, ⟨true, [.close]⟩], .asleep⟩
    (start 0 [[.push 1], [.push 2, .close]]).play
          [.producer 0, .consumer, .consumer, .producer 0, .consumer, .consumer, .consumer, .consumer, .consumer,
            .consumer, .producer 1] = some x ∧
      x.consumer = .asleep ∧ x.mailbox.token = false ∧ ∃ p ∈ x.producers, p.waking = true := by
  intro x
  have played : (start 0 [[.push 1], [.push 2, .close]]).play
      [.producer 0, .consumer, .consumer, .producer 0, .consumer, .consumer, .consumer, .consumer, .consumer,
        .consumer, .producer 1] = some x := rfl
  have queued : ¬ (x.mailbox.toList = [] ∧ x.mailbox.closed = false) := fun nothing => nomatch nothing.1
  exact ⟨played, rfl, rfl, (no_wakeup_lost played rfl rfl).resolve_left queued⟩

end Handover

/-! ### The message loop -/

variable {P R E S : Type} {h : Handler P R E S}

/-- The caller is about to leave the token. -/
def Caller.wakes : Caller P → Bool
  | .sendWake | .stopWake _ => true
  | _ => false

namespace Cell

variable {c c' : Cell P R E S} {caller now : Caller P} {a : Option (Answer R E)}

/-- The loop goes to sleep only with what it has found in the mailbox. -/
theorem loopStep_asleep (step : c.loopStep h.run h.held = some (c', a)) (asleep : c'.loop = .asleep) :
    c.mailbox.pop = (.empty, c'.mailbox) := by
  rw [loopStep] at step
  cases loop : c.loop with
  | look =>
    simp only [loop] at step
    rcases popped : c.mailbox.pop with ⟨found, mb⟩
    rw [popped] at step
    cases found <;> cases step
    · cases asleep
    · rfl
    · cases asleep
  | handling m =>
    simp only [loop] at step
    split at step
    · cases step
    · split at step <;> cases step <;> cases asleep
  | asleep =>
    simp only [loop] at step
    split at step
    · cases step
      cases asleep
    · cases step
  | refusing ms => cases ms <;> simp only [loop] at step <;> cases step <;> cases asleep
  | _ =>
    simp only [loop] at step
    cases step <;> cases asleep

/-- A caller that fills or closes the mailbox is then about to leave the token. -/
theorem callerStep_wakes (step : c.callerStep caller = some (c', now, a)) :
    now.wakes = true ∨ c'.mailbox.token = true ∨
      caller.wakes = false ∧ c'.mailbox.token = c.mailbox.token ∧
        (c.mailbox.toList = [] → c'.mailbox.toList = []) ∧ c'.mailbox.closed = c.mailbox.closed := by
  cases wakes : caller.wakes with
  | true =>
    cases caller with
    | sendWake | stopWake =>
      cases step
      exact .inr (.inl rfl)
    | _ => cases wakes
  | false =>
    cases callerStep_changes step with
    | push pushed =>
      rw [callerStep, pushed] at step
      cases step
      exact .inl rfl
    | close =>
      cases step
      exact .inl rfl
    | wake => exact .inr (.inl rfl)
    | drain => exact .inr (.inr ⟨rfl, rfl, fun _ => rfl, rfl⟩)
    | _ => exact .inr (.inr ⟨rfl, rfl, fun empty => empty, rfl⟩)

end Cell

namespace World

variable {w w' : World P R E S}

/-- A message loop that sleeps is attended. -/
def Attended (w : World P R E S) : Prop :=
  w.cell.loop = .asleep → w.cell.mailbox.Attended (∃ k ∈ w.calls, k.now.wakes = true)

theorem Attended.turn {t : Turn} (attended : w.Attended) (step : w.freeTurn h t = some w') : w'.Attended := by
  intro asleep
  rcases freeTurn_cases step with ⟨a, -, move, -, -⟩ | ⟨i, k, now, a, -, here, move, calls, -⟩
  · exact .of_pop (Cell.loopStep_asleep move asleep) _
  · obtain ⟨inside, -⟩ := List.getElem?_eq_some_iff.1 here
    rcases Cell.callerStep_wakes move with wakes | token | ⟨calm, token, queue, closed⟩
    · exact .inr (.inl ⟨_, calls ▸ List.mem_set inside _, wakes⟩)
    · exact .inl token
    · rcases (Cell.callerStep_changes move).loop with same | ⟨-, look⟩
      · refine (attended (same ▸ asleep)).imp token queue closed fun comes => ?_
        rw [calls]
        exact exists_mem_set here calm comes
      · rw [look] at asleep
        cases asleep

/-- Whatever its callers do, a message loop that sleeps without the token has an empty and open mailbox, or some
caller has changed the mailbox and is about to leave the token. -/
theorem Begins.attended {schedule : List Turn} (begins : w.Begins) (played : w.playFreely h schedule = some w') :
    w'.Attended := by
  refine playFreely_keeps Attended (fun _ _ _ attended step => attended.turn step) (fun asleep => ?_) played
  rw [begins.cell] at asleep
  cases asleep

end World

end TermBot.Actor
