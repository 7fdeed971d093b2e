import TermBot.Actor.System

/-!
# What an actor owes

The queue of a mailbox as a list, and the answers that an actor owes to messages which it takes in a given
order: `Handler.replies`. The handler works until it panics for the first time; that message and all later
ones are answered with the failure of the actor, and the handler does not get to see the later ones
(`Handler.reached`). All of it is compatible with appending messages, which is how they arrive.
-/

namespace TermBot.Actor

variable {P R E S : Type}

namespace Mailbox

variable {α : Type} {mb mb' : Mailbox α} {a : α}

/-- The head does not stand behind the items. -/
def WellFormed (mb : Mailbox α) : Prop := mb.head ≤ mb.items.size

@[simp] theorem toList_close : mb.close.toList = mb.toList := rfl

@[simp] theorem closed_close : mb.close.closed = true := rfl

@[simp] theorem toList_wake : mb.wake.toList = mb.toList := rfl

@[simp] theorem closed_wake : mb.wake.closed = mb.closed := rfl

@[simp] theorem toList_drain : mb.drain.2.toList = [] := rfl

@[simp] theorem closed_drain : mb.drain.2.closed = mb.closed := rfl

theorem WellFormed.close (formed : mb.WellFormed) : mb.close.WellFormed := formed

theorem WellFormed.wake (formed : mb.WellFormed) : mb.wake.WellFormed := formed

theorem WellFormed.drain : mb.drain.2.WellFormed := Nat.zero_le _

/-- What a push does that is accepted. -/
theorem push_accepted (formed : mb.WellFormed) (pushed : mb.push a = (true, mb')) :
    mb.closed = false ∧ mb'.closed = false ∧ mb'.toList = mb.toList ++ [a] ∧ mb'.WellFormed := by
  rw [push] at pushed
  cases closed : mb.closed with
  | true => simp [closed] at pushed
  | false =>
    simp only [closed, Bool.false_eq_true, if_false, Prod.mk.injEq, true_and] at pushed
    subst pushed
    refine ⟨rfl, rfl, ?_, ?_⟩
    · rw [toList, toList, Array.toList_push, List.drop_append_of_le_length]
      simpa [WellFormed] using formed
    · rw [WellFormed, Array.size_push]
      exact Nat.le_succ_of_le formed

/-- Popping takes the first of the queued items. -/
theorem pop_item (popped : mb.pop = (.item a, mb')) :
    mb.toList = a :: mb'.toList ∧ mb'.closed = mb.closed ∧ mb'.WellFormed := by
  rw [pop] at popped
  cases first : mb.items[mb.head]? with
  | none =>
    rw [first] at popped
    cases closed : mb.closed <;> simp [closed] at popped
  | some b =>
    rw [first] at popped
    simp only [Prod.mk.injEq, Taken.item.injEq] at popped
    obtain ⟨rfl, rfl⟩ := popped
    obtain ⟨lt, value⟩ := Array.getElem?_eq_some_iff.1 first
    have queue : mb.toList = b :: mb.items.toList.drop (mb.head + 1) := by
      rw [toList, List.drop_eq_getElem_cons (by simpa using lt), Array.getElem_toList, value]
    rw [advance]
    split
    · rename_i last
      have none : mb.items.toList.drop (mb.head + 1) = [] := List.drop_eq_nil_iff.2 (by simp [last])
      exact ⟨by rw [queue, none]; rfl, rfl, Nat.zero_le _⟩
    · exact ⟨queue, rfl, lt⟩

/-- Nothing is popped from an empty mailbox. -/
theorem pop_nothing (popped : mb.pop = (.empty, mb') ∨ mb.pop = (.finished, mb')) :
    mb' = mb ∧ mb.toList = [] ∧ (mb.pop = (.finished, mb') → mb.closed = true) := by
  rw [pop] at popped ⊢
  cases first : mb.items[mb.head]? with
  | some b =>
    rw [first] at popped
    simp at popped
  | none =>
    have queue : mb.toList = [] := by
      rw [Array.getElem?_eq_none_iff] at first
      exact List.drop_eq_nil_iff.2 (by simpa using first)
    rw [first] at popped
    cases closed : mb.closed with
    | true =>
      simp only [closed, if_true, Prod.mk.injEq, true_and, reduceCtorEq, false_and, false_or] at popped
      exact ⟨popped.symm, queue, fun _ => rfl⟩
    | false =>
      simp only [closed, Bool.false_eq_true, if_false, Prod.mk.injEq, true_and, reduceCtorEq, false_and,
        or_false] at popped
      exact ⟨popped.symm, queue, by simp⟩

end Mailbox

/-- The failure is that of an actor whose handler has panicked. -/
def Failure.isActorFailed : Failure E → Bool
  | .failed _ | .panicked .. => true
  | _ => false

/-- What has become of a handler: it works with what it remembers, or it has panicked. -/
inductive Phase (S : Type) where
  | working (memory : S)
  | failed

namespace Handler

variable {h : Handler P R E S} {id : UInt32} {φ : Phase S} {m : Message P} {ms ms' : List (Message P)}

/-- What becomes of the handler with a message. -/
def next (h : Handler P R E S) : Phase S → Message P → Phase S
  | .failed, _ => .failed
  | .working s, m =>
    match h.run m.payload s with
    | (.returned _ _, s) => .working s
    | (.panicked _, _) => .failed

/-- The response of actor `id` to a message: what the handler returns, or the failure of the actor from
the first panic on. -/
def response (h : Handler P R E S) (id : UInt32) : Phase S → Message P → Response R E
  | .failed, m => ⟨id, m.source, m.session, none, some (.failed id)⟩
  | .working s, m =>
    match h.run m.payload s with
    | (.returned payload error, _) => ⟨id, m.source, m.session, payload, error.map .handler⟩
    | (.panicked reason, _) => ⟨id, m.source, m.session, none, some (.panicked id reason)⟩

/-- What has become of the handler after the messages. -/
def after (h : Handler P R E S) (φ : Phase S) (ms : List (Message P)) : Phase S := ms.foldl h.next φ

/-- The answers of actor `id` to the messages. -/
def replies (h : Handler P R E S) (id : UInt32) : Phase S → List (Message P) → List (Answer R E)
  | _, [] => []
  | φ, m :: ms => (m.outlet, h.response id φ m) :: h.replies id (h.next φ m) ms

/-- The messages that the handler gets to see. -/
def reached (h : Handler P R E S) : Phase S → List (Message P) → List (Message P)
  | .working s, m :: ms => m :: h.reached (h.next (.working s) m) ms
  | _, _ => []

theorem after_append : h.after φ (ms ++ ms') = h.after (h.after φ ms) ms' := List.foldl_append

theorem replies_append :
    h.replies id φ (ms ++ ms') = h.replies id φ ms ++ h.replies id (h.after φ ms) ms' := by
  induction ms generalizing φ with
  | nil => rfl
  | cons m ms ih =>
    rw [List.cons_append, replies, replies, ih, List.cons_append]
    rfl

theorem map_fst_replies : (h.replies id φ ms).map Prod.fst = ms.map (·.outlet) := by
  induction ms generalizing φ with
  | nil => rfl
  | cons m ms ih => rw [replies, List.map_cons, List.map_cons, ih]

@[simp] theorem reached_failed : h.reached .failed ms = [] := by
  cases ms <;> rfl

@[simp] theorem reached_nil : h.reached φ [] = [] := by
  cases φ <;> rfl

theorem after_failed : h.after .failed ms = .failed := by
  induction ms with
  | nil => rfl
  | cons m ms ih => exact ih

theorem reached_append :
    h.reached φ (ms ++ ms') = h.reached φ ms ++ h.reached (h.after φ ms) ms' := by
  induction ms generalizing φ with
  | nil => rw [List.nil_append, reached_nil, List.nil_append]; rfl
  | cons m ms ih =>
    cases φ with
    | failed => rw [reached_failed, reached_failed, after_failed, reached_failed, List.append_nil]
    | working s =>
      rw [List.cons_append, reached, reached, ih, List.cons_append]
      rfl

theorem reached_isPrefix : h.reached φ ms <+: ms := by
  induction ms generalizing φ with
  | nil => simp
  | cons m ms ih =>
    cases φ with
    | failed => simp
    | working s => exact (List.prefix_cons_inj m).2 ih

/-- No message is seen after one with which the handler has failed. -/
theorem reached_of_failed {before rest : List (Message P)} (seen : before ++ m :: rest <+: h.reached φ ms)
    (failed : h.after φ (before ++ [m]) = .failed) : rest = [] := by
  have all := seen.trans reached_isPrefix
  obtain ⟨more, rfl⟩ := all
  have split : before ++ m :: rest ++ more = before ++ [m] ++ (rest ++ more) := by simp
  rw [split, reached_append, failed, reached_failed, List.append_nil] at seen
  have short := (seen.trans reached_isPrefix).length_le
  simp only [List.length_append, List.length_cons, List.length_nil] at short
  exact List.length_eq_zero_iff.1 (by omega)

/-- The message with which the handler fails, and each one after it, is answered with that failure. -/
theorem response_failed (failed : h.next φ m = .failed) :
    (h.response id φ m).payload = none ∧
      ∃ f, (h.response id φ m).failure = some f ∧ f.isActorFailed = true := by
  cases φ with
  | failed => exact ⟨rfl, _, rfl, rfl⟩
  | working s =>
    rw [next] at failed
    rw [response]
    rcases run : h.run m.payload s with ⟨outcome, s'⟩
    cases outcome with
    | returned payload error => simp [run] at failed
    | panicked reason => exact ⟨rfl, _, rfl, rfl⟩

end Handler

end TermBot.Actor
