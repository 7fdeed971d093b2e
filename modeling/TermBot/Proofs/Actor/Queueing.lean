import TermBot.Proofs.Actor.Replies

/-!
# Mailboxes are queues

A mailbox keeps its items in a storage that is read from a moving head and emptied when the head has passed the
last item, or by draining. A queue is a list (`Queue`). Operations in any order get the same replies of both
(`replies_eq`). Where the items are in the storage is kept beside the mailbox (`Ledger`): every accepted item gets
a slot of its own, and what was taken followed by what is queued is what was accepted (`Ledger.Sound`). One
operation keeps this, so all do (`refines_queue`).
-/

namespace TermBot.Actor.Mailbox

variable {α : Type} {mb : Mailbox α}

/-- An operation on a mailbox. -/
inductive Op (α : Type) where
  | push (a : α)
  | pop
  | close
  | drain
  | size

/-- What an operation returns. -/
inductive Reply (α : Type) where
  | pushed (accepted : Bool)
  | popped (taken : Taken α)
  | closed
  | drained (items : List α)
  | counted (size : Nat)

/-- An operation on the mailbox. Whoever adds an item or closes the mailbox wakes the consumer. A pop that would
wait leaves the mailbox as it is. -/
def perform (mb : Mailbox α) : Op α → Reply α × Mailbox α
  | .push a =>
    match mb.push a with
    | (true, mb) => (.pushed true, mb.wake)
    | (false, mb) => (.pushed false, mb)
  | .pop => (.popped mb.pop.1, mb.pop.2)
  | .close => (.closed, mb.close.wake)
  | .drain => (.drained mb.drain.1, mb.drain.2)
  | .size => (.counted mb.size, mb)

/-- The replies to several operations. -/
def replies : Mailbox α → List (Op α) → List (Reply α)
  | _, [] => []
  | mb, op :: ops => (mb.perform op).1 :: replies (mb.perform op).2 ops

/-! ### Queues -/

/-- A first-in, first-out queue that can be closed. -/
structure Queue (α : Type) where
  items : List α := []
  closed : Bool := false

/-- An operation on the queue. -/
def Queue.perform (q : Queue α) : Op α → Reply α × Queue α
  | .push a =>
    if q.closed then (.pushed false, q) else (.pushed true, { q with items := q.items ++ [a] })
  | .pop =>
    match q.items with
    | a :: rest => (.popped (.item a), { q with items := rest })
    | [] => (.popped (if q.closed then .finished else .empty), q)
  | .close => (.closed, { q with closed := true })
  | .drain => (.drained q.items, { q with items := [] })
  | .size => (.counted q.items.length, q)

/-- The replies of the queue to several operations. -/
def Queue.replies : Queue α → List (Op α) → List (Reply α)
  | _, [] => []
  | q, op :: ops => (q.perform op).1 :: Queue.replies (q.perform op).2 ops

theorem Queue.closed_perform (q : Queue α) (op : Op α) :
    (q.perform op).2.closed = true ↔ q.closed = true ∨ op = .close := by
  cases op with
  | push a =>
    rw [perform]
    split <;> simp
  | pop =>
    rw [perform]
    split <;> simp
  | close | drain | size => simp [perform]

/-- The queue that a mailbox is. -/
def toQueue (mb : Mailbox α) : Queue α := ⟨mb.toList, mb.closed⟩

/-! ### Single operations -/

theorem size_eq (mb : Mailbox α) : mb.size = mb.toList.length := by
  rw [size, toList, List.length_drop, Array.length_toList]

theorem push_open (isOpen : mb.closed = false) (a : α) :
    mb.push a = (true, { mb with items := mb.items.push a }) := by
  rw [push, isOpen]
  rfl

theorem push_closed (closed : mb.closed = true) (a : α) : mb.push a = (false, mb) := by
  rw [push, closed]
  rfl

theorem perform_push_open (isOpen : mb.closed = false) (a : α) :
    mb.perform (.push a) = (.pushed true, wake { mb with items := mb.items.push a }) := by
  rw [perform, push_open isOpen]

theorem perform_push_closed (closed : mb.closed = true) (a : α) : mb.perform (.push a) = (.pushed false, mb) := by
  rw [perform, push_closed closed]

/-- Popping from a mailbox with queued items takes the one at the head. -/
theorem pop_cons {a : α} {rest : List α} (queued : mb.toList = a :: rest) : mb.pop = (.item a, mb.advance) := by
  have first : mb.items[mb.head]? = some a := by
    rw [← Array.getElem?_toList, ← Nat.add_zero mb.head, ← List.getElem?_drop, ← toList, queued]
    rfl
  rw [pop, first]

theorem pop_nil (queued : mb.toList = []) : mb.pop = (if mb.closed then .finished else .empty, mb) := by
  have first : mb.items[mb.head]? = none := by
    rw [← Array.getElem?_toList, ← Nat.add_zero mb.head, ← List.getElem?_drop, ← toList, queued]
    rfl
  rw [pop, first]

/-- The head moves past the first item; after the last one the storage is emptied. -/
theorem advance_cases {a : α} {rest : List α} (queued : mb.toList = a :: rest) :
    (rest = [] ∧ mb.items.size ≠ 0 ∧ mb.advance = { mb with items := #[], head := 0 }) ∨
      (mb.advance = { mb with head := mb.head + 1 } ∧ mb.advance.toList = rest ∧ mb.advance.WellFormed) := by
  have tail : mb.items.toList.drop (mb.head + 1) = rest := by
    rw [← List.drop_drop, ← toList, queued]
    rfl
  have inside : mb.head < mb.items.size := by
    have length := size_eq mb
    rw [queued, size, List.length_cons] at length
    omega
  rw [advance]
  split
  case isTrue last =>
    refine .inl ⟨?_, by omega, rfl⟩
    rw [← tail, List.drop_eq_nil_iff, Array.length_toList]
    omega
  case isFalse => exact .inr ⟨rfl, tail, inside⟩

/-- An operation does the same to the mailbox and to the queue that it is. -/
theorem perform_toQueue (formed : mb.WellFormed) (op : Op α) :
    mb.toQueue.perform op = ((mb.perform op).1, (mb.perform op).2.toQueue) ∧ (mb.perform op).2.WellFormed := by
  cases op with
  | push a =>
    cases closed : mb.closed with
    | true => simp [perform_push_closed closed, Queue.perform, toQueue, closed, formed]
    | false =>
      obtain ⟨-, isOpen, queued, formed'⟩ := push_accepted formed (push_open closed a)
      rw [perform_push_open closed, toQueue, toQueue, toList_wake, queued, closed_wake, isOpen]
      exact ⟨rfl, formed'.wake⟩
  | pop =>
    cases queued : mb.toList with
    | nil => simp [perform, Queue.perform, toQueue, pop_nil queued, queued, formed]
    | cons a rest =>
      obtain ⟨split, closed, formed'⟩ := pop_item (pop_cons queued)
      obtain ⟨-, rfl⟩ := List.cons.inj (queued.symm.trans split)
      simp [perform, Queue.perform, toQueue, pop_cons queued, queued, closed, formed']
  | close => exact ⟨rfl, formed.close.wake⟩
  | drain => exact ⟨rfl, WellFormed.drain⟩
  | size => exact ⟨by rw [perform, Queue.perform, size_eq]; rfl, formed⟩

/-- The mailbox replies as the queue does. -/
theorem replies_eq (formed : mb.WellFormed) (ops : List (Op α)) : mb.replies ops = mb.toQueue.replies ops := by
  induction ops generalizing mb with
  | nil => rfl
  | cons op ops ih =>
    obtain ⟨same, formed'⟩ := perform_toQueue formed op
    rw [replies, Queue.replies, same, ih formed']

/-! ### The storage -/

/-- A place in the storage: an index, and how often the storage was emptied before. -/
structure Slot where
  round : Nat
  index : Nat
  deriving DecidableEq

/-- A mailbox with the items that were put into it and taken from it, each with its slot. -/
structure Ledger (α : Type) where
  mailbox : Mailbox α
  round : Nat := 0
  accepted : List (Slot × α) := []
  removed : List (Slot × α) := []

namespace Ledger

variable {l : Ledger α}

/-- Items from an index of the storage on. -/
def placed (round head : Nat) (items : List α) : List (Slot × α) :=
  items.mapIdx fun i a => (⟨round, head + i⟩, a)

/-- What is queued. -/
def queued (l : Ledger α) : List (Slot × α) := placed l.round l.mailbox.head l.mailbox.toList

/-- What an operation put into the storage, judging by its reply. -/
def puts (l : Ledger α) : Op α → Reply α → List (Slot × α)
  | .push a, .pushed true => [(⟨l.round, l.mailbox.items.size⟩, a)]
  | _, _ => []

/-- What an operation took from the storage, judging by its reply. -/
def takes (l : Ledger α) : Reply α → List (Slot × α)
  | .popped (.item a) => placed l.round l.mailbox.head [a]
  | .drained items => placed l.round l.mailbox.head items
  | _ => []

/-- An operation with its entries; a storage that shrinks has been emptied. -/
def record (l : Ledger α) (op : Op α) : Ledger α :=
  let (reply, mb) := l.mailbox.perform op
  { mailbox := mb
    round := if mb.items.size < l.mailbox.items.size then l.round + 1 else l.round
    accepted := l.accepted ++ l.puts op reply
    removed := l.removed ++ l.takes reply }

/-- Several operations on a new mailbox. -/
def play (capacity : Int) (ops : List (Op α)) : Ledger α :=
  ops.foldl record { mailbox := .ofCapacity capacity }

/-- The slot is in use or has been. -/
def Used (l : Ledger α) (s : Slot) : Prop :=
  s.round < l.round ∨ s.round = l.round ∧ s.index < l.mailbox.items.size

/-- What was taken and what is queued is what was accepted, in this order and each in a slot of its own. -/
structure Sound (l : Ledger α) : Prop where
  formed : l.mailbox.WellFormed
  balance : l.removed ++ l.queued = l.accepted
  distinct : (l.accepted.map Prod.fst).Nodup
  used : ∀ e ∈ l.accepted, l.Used e.1

theorem placed_cons (round head : Nat) (a : α) (rest : List α) :
    placed round head (a :: rest) = (⟨round, head⟩, a) :: placed round (head + 1) rest := by
  rw [placed, List.mapIdx_cons]
  simp [placed, Nat.add_assoc, Nat.add_comm 1]

theorem placed_concat (round head : Nat) (items : List α) (a : α) :
    placed round head (items ++ [a]) = placed round head items ++ [(⟨round, head + items.length⟩, a)] := by
  simp [placed, List.mapIdx_append]

theorem Used.mono {l' : Ledger α} {s : Slot} (used : l.Used s)
    (later : l.round < l'.round ∨ l.round = l'.round ∧ l.mailbox.items.size ≤ l'.mailbox.items.size) :
    l'.Used s := by
  rw [Used] at used ⊢
  omega

theorem Sound.new (capacity : Int) : Sound ({ mailbox := .ofCapacity capacity } : Ledger α) where
  formed := Nat.le_refl 0
  balance := rfl
  distinct := List.nodup_nil
  used := nofun

/-- A push puts the item into the slot behind the last one. -/
theorem Sound.push (sound : l.Sound) (a : α) : (l.record (.push a)).Sound := by
  cases closed : l.mailbox.closed with
  | true =>
    have same : l.record (.push a) = l := by
      simp [record, perform_push_closed closed, puts, takes]
    rw [same]
    exact sound
  | false =>
    obtain ⟨-, -, queue, formed⟩ := push_accepted sound.formed (push_open closed a)
    have length := size_eq l.mailbox
    have inside := sound.formed
    rw [WellFormed] at inside
    rw [size] at length
    have recorded : l.record (.push a) =
        { mailbox := wake { l.mailbox with items := l.mailbox.items.push a }
          round := l.round
          accepted := l.accepted ++ [(⟨l.round, l.mailbox.items.size⟩, a)]
          removed := l.removed } := by
      simp [record, perform_push_open closed, puts, takes, wake]
    have behind : l.mailbox.head + l.mailbox.toList.length = l.mailbox.items.size := by omega
    rw [recorded]
    refine ⟨formed.wake, ?_, ?_, ?_⟩
    · rw [queued, toList_wake, queue, placed_concat, wake, behind, ← List.append_assoc]
      exact congrArg (· ++ _) sound.balance
    · rw [List.map_append, List.nodup_append]
      refine ⟨sound.distinct, by simp, fun s mem s' new same => ?_⟩
      -- slots in use come before the end of the storage
      obtain ⟨e, here, rfl⟩ := List.mem_map.1 mem
      obtain rfl := List.mem_singleton.1 new
      have used := sound.used e here
      rw [Used, same] at used
      dsimp only at used
      omega
    · intro e mem
      rcases List.mem_append.1 mem with old | new
      · refine (sound.used e old).mono (.inr ⟨rfl, ?_⟩)
        simp [wake]
      · obtain rfl := List.mem_singleton.1 new
        refine .inr ⟨rfl, ?_⟩
        simp [wake]

/-- What is taken off the queue leaves it in front; a storage that is emptied begins another round. -/
theorem Sound.taken {l' : Ledger α} (sound : l.Sound) (formed : l'.mailbox.WellFormed)
    (accepted : l'.accepted = l.accepted) (removed : l'.removed ++ l'.queued = l.removed ++ l.queued)
    (later : l.round < l'.round ∨ l.round = l'.round ∧ l.mailbox.items.size ≤ l'.mailbox.items.size) :
    l'.Sound where
  formed := formed
  balance := by rw [removed, accepted, sound.balance]
  distinct := by rw [accepted]; exact sound.distinct
  used e mem := (sound.used e (accepted ▸ mem)).mono later

theorem Sound.pop (sound : l.Sound) : (l.record .pop).Sound := by
  cases queue : l.mailbox.toList with
  | nil =>
    have same : l.record .pop = l := by
      have taken : l.takes (.popped (if l.mailbox.closed then .finished else .empty)) = [] := by
        split <;> rfl
      simp [record, perform, pop_nil queue, puts, taken]
    rw [same]
    exact sound
  | cons a rest =>
    have first : l.queued = (⟨l.round, l.mailbox.head⟩, a) :: placed l.round (l.mailbox.head + 1) rest := by
      rw [queued, queue, placed_cons]
    rcases advance_cases queue with ⟨rfl, some, advanced⟩ | ⟨advanced, tail, formed⟩
    · have recorded : l.record .pop =
          { mailbox := { l.mailbox with items := #[], head := 0 }
            round := l.round + 1
            accepted := l.accepted
            removed := l.removed ++ [(⟨l.round, l.mailbox.head⟩, a)] } := by
        simp [record, perform, pop_cons queue, puts, takes, placed, advanced, Nat.pos_of_ne_zero some]
      rw [recorded]
      refine sound.taken (Nat.le_refl 0) rfl ?_ (.inl (Nat.lt_succ_self _))
      rw [first]
      exact List.append_nil _
    · have recorded : l.record .pop =
          { l with
            mailbox := l.mailbox.advance
            removed := l.removed ++ [(⟨l.round, l.mailbox.head⟩, a)] } := by
        simp [record, perform, pop_cons queue, puts, takes, placed, advanced]
      rw [recorded]
      refine sound.taken formed rfl ?_ (.inr ⟨rfl, ?_⟩)
      · rw [first, queued, tail, advanced, List.append_assoc, List.singleton_append]
      · have kept : l.mailbox.advance.items = l.mailbox.items := by rw [advanced]
        exact Nat.le_of_eq (congrArg Array.size kept.symm)

theorem Sound.drain (sound : l.Sound) : (l.record .drain).Sound := by
  have recorded : l.record .drain =
      { mailbox := { l.mailbox with items := #[], head := 0 }
        round := if 0 < l.mailbox.items.size then l.round + 1 else l.round
        accepted := l.accepted
        removed := l.removed ++ l.queued } := by
    simp [record, perform, Mailbox.drain, puts, takes, queued]
  rw [recorded]
  refine sound.taken (Nat.le_refl 0) rfl (List.append_nil _) ?_
  dsimp only
  split
  case isTrue => exact .inl (Nat.lt_succ_self _)
  case isFalse empty => exact .inr ⟨rfl, Nat.not_lt.1 empty⟩

theorem Sound.close (sound : l.Sound) : (l.record .close).Sound := by
  have recorded : l.record .close = { l with mailbox := l.mailbox.close.wake } := by
    simp [record, perform, puts, takes, Mailbox.close, wake]
  rw [recorded]
  exact sound.taken sound.formed.close.wake rfl rfl (.inr ⟨rfl, Nat.le_refl _⟩)

theorem Sound.record (sound : l.Sound) (op : Op α) : (l.record op).Sound := by
  cases op with
  | push a => exact sound.push a
  | pop => exact sound.pop
  | close => exact sound.close
  | drain => exact sound.drain
  | size =>
    have same : l.record .size = l := by simp [Ledger.record, perform, puts, takes]
    rw [same]
    exact sound

/-- The mailbox is closed by closing it and stays so. -/
theorem Sound.closed_record (sound : l.Sound) (op : Op α) :
    (l.record op).mailbox.closed = true ↔ l.mailbox.closed = true ∨ op = .close := by
  have same := congrArg (·.2.closed) (perform_toQueue sound.formed op).1
  have closed := Queue.closed_perform l.mailbox.toQueue op
  rw [same] at closed
  exact closed

/-- Whatever is done, the ledger stays sound, and the mailbox is closed from its closing on. -/
theorem Sound.run (sound : l.Sound) (ops : List (Op α)) :
    (ops.foldl Ledger.record l).Sound ∧
      ((ops.foldl Ledger.record l).mailbox.closed = true ↔ l.mailbox.closed = true ∨ .close ∈ ops) := by
  induction ops generalizing l with
  | nil => exact ⟨sound, by simp⟩
  | cons op ops ih =>
    obtain ⟨sound', closed⟩ := ih (sound.record op)
    refine ⟨sound', ?_⟩
    rw [List.foldl_cons, closed, sound.closed_record, List.mem_cons, or_assoc]
    simp only [eq_comm]

theorem queued_eq_nil : l.queued = [] ↔ l.mailbox.toList = [] := by
  rw [queued, placed, List.mapIdx_eq_nil_iff]

end Ledger

/-- A mailbox of any initial capacity is a first-in, first-out queue, whatever is done to it. It replies as the
queue does. What was taken from it, in this order, and what is queued are the items that were accepted, each in a
slot of the storage that no other one ever has. A push is refused just if the mailbox was closed before, a pop
says that there is no more just if it was closed and all accepted items were taken, its size is the number of
accepted items that were not taken, and the head is never behind the end of the storage. -/
theorem refines_queue (capacity : Int) (ops : List (Op α)) :
    let l := Ledger.play capacity ops
    replies (.ofCapacity capacity) ops = Queue.replies {} ops ∧
      l.removed ++ l.queued = l.accepted ∧ (l.accepted.map Prod.fst).Nodup ∧
      (∀ a, (l.mailbox.push a).1 = false ↔ .close ∈ ops) ∧
      (l.mailbox.pop.1 = .finished ↔ .close ∈ ops ∧ l.removed = l.accepted) ∧
      l.mailbox.size + l.removed.length = l.accepted.length ∧ l.mailbox.head ≤ l.mailbox.items.size := by
  intro l
  obtain ⟨sound, closed⟩ := (Ledger.Sound.new (α := α) capacity).run ops
  have closed : l.mailbox.closed = true ↔ .close ∈ ops := closed.trans (or_iff_right nofun)
  have formed : (ofCapacity capacity : Mailbox α).WellFormed := Nat.le_refl 0
  have balance : l.removed ++ l.queued = l.accepted := sound.balance
  have queued : l.removed = l.accepted ↔ l.mailbox.toList = [] := by
    rw [← Ledger.queued_eq_nil, ← balance]
    exact List.self_eq_append_right
  refine ⟨replies_eq formed ops, balance, sound.distinct, fun a => ?_, ?_, ?_, sound.formed⟩
  · rw [← closed]
    cases state : l.mailbox.closed with
    | true => simp [push_closed state]
    | false => simp [push_open state]
  · rw [← closed, queued]
    cases queue : l.mailbox.toList with
    | nil => cases state : l.mailbox.closed <;> simp [pop_nil queue, state]
    | cons a rest => simp [pop_cons queue]
  · rw [← balance, List.length_append, Ledger.queued, Ledger.placed, List.length_mapIdx, ← size_eq, Nat.add_comm]

end TermBot.Actor.Mailbox
