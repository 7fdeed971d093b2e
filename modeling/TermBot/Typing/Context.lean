import TermBot.Scoped.Ty
import TermBot.Typing.Names

/-!
# Ordered contexts

A context lists what is in scope, oldest first: rigid variables, terms with their types,
existentials with or without a solution, and markers that delimit scopes. It also keeps the supply of
unused numbers.
-/

namespace TermBot.Typing

open Scoped

/-- What an entry of a context declares. -/
inductive EntryKind where
  | rigid
  | term
  | unsolved
  | solved
  | marker
  deriving DecidableEq, Repr

/-- An entry of a context. -/
inductive Entry where
  | rigid (v : Ident)
  | term (x : Ident) (type : Ty)
  | unsolved (id : Nat)
  | solved (id : Nat) (type : Ty)
  | marker (id : Nat)
  deriving DecidableEq, Repr

namespace Entry

/-- The kind of an entry. -/
def kind : Entry → EntryKind
  | rigid _ => .rigid
  | term .. => .term
  | unsolved _ => .unsolved
  | solved .. => .solved
  | marker _ => .marker

/-- The number that an entry declares. -/
def id : Entry → Nat
  | rigid v => v.id
  | term x _ => x.id
  | unsolved i => i
  | solved i _ => i
  | marker i => i

/-- The entry declares this number in this kind. -/
def declares (k : EntryKind) (i : Nat) (e : Entry) : Bool := e.kind = k && e.id = i

/-- The text of an entry. -/
def render : Entry → String
  | rigid v => v.render
  | term x t => x.render ++ " : " ++ t.render
  | unsolved i => renderEx i
  | solved i t => renderEx i ++ " = " ++ t.render
  | marker i => "▶" ++ renderEx i

end Entry

/-- A context: its entries, oldest first, and the supply of numbers. -/
structure Context where
  entries : List Entry := []
  supply : Supply := 0
  deriving DecidableEq, Repr, Inhabited

/-- The place of the last element that satisfies `p`. -/
def lastIdx? {α : Type} (p : α → Bool) : List α → Option Nat
  | [] => none
  | a :: as =>
    match lastIdx? p as with
    | some i => some (i + 1)
    | none => if p a then some 0 else none

namespace Context

/-- The place of the last entry that declares a number in a kind. -/
def index? (c : Context) (k : EntryKind) (i : Nat) : Option Nat :=
  lastIdx? (Entry.declares k i) c.entries

/-- An entry of this kind declares the number. -/
def has (c : Context) (k : EntryKind) (i : Nat) : Bool := (c.index? k i).isSome

/-- The place of an existential, solved or not. -/
def exIndex? (c : Context) (i : Nat) : Option Nat :=
  (c.index? .unsolved i).or (c.index? .solved i)

/-- Adds entries at the end. -/
def push (c : Context) (es : List Entry) : Context := { c with entries := c.entries ++ es }

/-- The next unused number. -/
def next (c : Context) : Nat := c.supply.next

/-- How many numbers were given out. -/
def allocated (c : Context) : Nat := c.supply.used

/-- Makes new numbers start at `floor` or above. -/
def reserve (c : Context) (floor : Nat) : Context :=
  if c.next < floor then { c with supply := c.supply.skip (floor - c.next) } else c

/-- Makes new numbers start above `id`; what follows the last number is the first one. -/
def reserveAbove (c : Context) (id : Nat) : Context := c.reserve (c.supply.wrap (id + 1))

/-- Cuts the context off before an entry, if it is there. -/
def dropFrom (c : Context) (k : EntryKind) (i : Nat) : Context :=
  match c.index? k i with
  | some n => { c with entries := c.entries.take n }
  | none => c

/-- Takes one entry out, if it is there. -/
def remove (c : Context) (k : EntryKind) (i : Nat) : Context :=
  match c.index? k i with
  | some n => { c with entries := c.entries.eraseIdx n }
  | none => c

/-- Puts entries in the place of an unsolved existential, if it is there. -/
def replace (c : Context) (i : Nat) (es : List Entry) : Context :=
  match c.index? .unsolved i with
  | some n => { c with entries := c.entries.take n ++ es ++ c.entries.drop (n + 1) }
  | none => c

/-- Solves an unsolved existential, if it is there. -/
def solve (c : Context) (i : Nat) (t : Ty) : Context := c.replace i [.solved i t]

/-- The type of a term variable. -/
def typeOf? (c : Context) (i : Nat) : Option Ty :=
  match (c.index? .term i).bind (c.entries[·]?) with
  | some (.term _ t) => some t
  | _ => none

/-- The solution of an existential. -/
def solution? (c : Context) (i : Nat) : Option Ty :=
  match (c.index? .solved i).bind (c.entries[·]?) with
  | some (.solved _ t) => some t
  | _ => none

/-- Puts solutions for solved existentials, in the solutions too, down to `levels`. -/
def applyTo (c : Context) : (levels : Nat) → Ty → Ty
  | 0, t => t
  | n + 1, t =>
    t.mapEx fun i =>
      match c.solution? i with
      | some s => c.applyTo n s
      | none => .ex i

/-- Puts solutions for solved existentials. Solutions that do not refer to themselves nest no deeper
than there are entries. -/
def apply (c : Context) (t : Ty) : Ty := c.applyTo (c.entries.length + 1) t

/-- Every variable of the type is in `bound` or declared by one of the entries. -/
def wellFormedIn (es : List Entry) (bound : List Nat) : Ty → Bool
  | .unit => true
  | .var v => bound.contains v.id || es.any (·.declares .rigid v.id)
  | .ex i => es.any fun e => e.declares .unsolved i || e.declares .solved i
  | .arrow a b => wellFormedIn es bound a && wellFormedIn es bound b
  | .all v b => wellFormedIn es (v.id :: bound) b

/-- The type is well formed in the first `n` entries. -/
def wellFormed (c : Context) (n : Nat) (t : Ty) : Bool := wellFormedIn (c.entries.take n) [] t

/-- The existentials without a solution. -/
def unsolved (c : Context) : List Nat :=
  c.entries.filterMap fun
    | .unsolved i => some i
    | _ => none

/-- The entries after a marker. -/
def after? (c : Context) (mark : Nat) : Option (List Entry) :=
  (c.index? .marker mark).map fun n => c.entries.drop (n + 1)

/-- The solutions found after a marker. -/
def solutionsAfter (c : Context) (mark : Nat) : List Ty :=
  ((c.after? mark).getD []).filterMap fun
    | .solved _ t => some t
    | _ => none

/-- Cuts the context off at a marker and keeps the solutions found after it, with what they refer to
put in. -/
def close (c : Context) (mark : Nat) : Context :=
  match c.index? .marker mark with
  | none => c
  | some n =>
    let kept := (c.entries.drop (n + 1)).filterMap fun
      | .solved i t => some (Entry.solved i (c.apply t))
      | _ => none
    { c with entries := c.entries.take n ++ kept }

/-- The text of a context. -/
def render (c : Context) : String :=
  let body :=
    if c.entries.isEmpty then "],\n"
    else "\n" ++ String.join (c.entries.map fun e => "        " ++ e.render ++ ",\n") ++ "    ],\n"
  "TyCtxt \x7b\n    elements: [" ++ body ++ "    next: " ++ toString c.next ++ ",\n\x7d"

end Context

end TermBot.Typing
