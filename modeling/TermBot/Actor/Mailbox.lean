/-!
# Mailboxes

An unbounded first-in, first-out queue that can be closed. Items that were removed stay in front of
`head` until the queue is empty, so removing one is a step of the head. A token tells the one
consumer to look again; putting and taking it are steps of their own.
-/

namespace TermBot.Actor

/-- A queue with its closing mark and its wake-up token. -/
structure Mailbox (α : Type) where
  items : Array α := #[]
  head : Nat := 0
  closed : Bool := false
  token : Bool := false

/-- What taking from a mailbox gives. -/
inductive Taken (α : Type) where
  | item (a : α)
  /-- The mailbox is open and empty. -/
  | empty
  /-- The mailbox is closed and empty. -/
  | finished

namespace Mailbox

variable {α : Type}

/-- A new mailbox with space for some items; a capacity below zero is none. -/
def ofCapacity (capacity : Int) : Mailbox α := { items := .emptyWithCapacity capacity.toNat }

/-- The queued items, oldest first. -/
def toList (mb : Mailbox α) : List α := mb.items.toList.drop mb.head

/-- The number of queued items. -/
def size (mb : Mailbox α) : Nat := mb.items.size - mb.head

/-- Appends an item; a closed mailbox refuses it. -/
def push (a : α) (mb : Mailbox α) : Bool × Mailbox α :=
  if mb.closed then (false, mb) else (true, { mb with items := mb.items.push a })

/-- Moves the head past one item and forgets the removed items once none is left. -/
def advance (mb : Mailbox α) : Mailbox α :=
  if mb.head + 1 = mb.items.size then { mb with items := #[], head := 0 }
  else { mb with head := mb.head + 1 }

/-- Takes the oldest item, if there is one. -/
def pop (mb : Mailbox α) : Taken α × Mailbox α :=
  match mb.items[mb.head]? with
  | some a => (.item a, mb.advance)
  | none => (if mb.closed then .finished else .empty, mb)

/-- Accepts no more items. -/
def close (mb : Mailbox α) : Mailbox α := { mb with closed := true }

/-- Leaves the wake-up token. -/
def wake (mb : Mailbox α) : Mailbox α := { mb with token := true }

/-- Takes all queued items. -/
def drain (mb : Mailbox α) : List α × Mailbox α :=
  (mb.toList, { mb with items := #[], head := 0 })

end Mailbox

end TermBot.Actor
