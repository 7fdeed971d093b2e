/-!
# Types

System F types over identifiers with a number. A type may hold existential variables while it is
being inferred. `Ty.equiv` compares types up to the names and numbers of bound variables.

Numbers are given out by a `Supply`, which starts again at 0 when it has given out its last one; by
default there are as many numbers as words of 32 bits.
-/

namespace TermBot.Scoped

/-- A supply of numbers: how many were given out, and how many there are. A supply of size 0 has no
last number. -/
structure Supply where
  used : Nat := 0
  size : Nat := Nat.pow 2 32
  deriving DecidableEq, Repr, Inhabited

instance {n : Nat} : OfNat Supply n := ⟨{ used := n }⟩

namespace Supply

/-- The number with which a count of numbers goes on. -/
def wrap (s : Supply) (count : Nat) : Nat := count % s.size

/-- The number that is given out next. -/
def next (s : Supply) : Nat := s.wrap s.used

/-- The supply after `count` more numbers. -/
def skip (s : Supply) (count : Nat) : Supply := { s with used := s.used + count }

end Supply

/-- A binder: the name it was written with and its number. -/
structure Ident where
  name : String
  id : Nat
  deriving DecidableEq, Repr, Inhabited

/-- The name and the number, as in `x#3`. -/
def Ident.render (v : Ident) : String := v.name ++ "#" ++ toString v.id

/-- A type. -/
inductive Ty where
  | unit
  /-- A rigid variable. -/
  | var (v : Ident)
  /-- An existential variable, which stands for a type still to be found. -/
  | ex (id : Nat)
  | arrow (dom cod : Ty)
  | all (v : Ident) (body : Ty)
  deriving DecidableEq, Repr, Inhabited

/-- The text of an existential variable. -/
def renderEx (id : Nat) : String := "^t" ++ toString id

namespace Ty

/-- Needs parentheses to the left of an arrow. -/
def isCompound : Ty → Bool
  | arrow .. | all .. => true
  | _ => false

/-- The text of a type; `bound` says that it follows the variables of a quantifier. -/
def renderAfter (bound : Bool) : Ty → String
  | unit => stop ++ "Unit"
  | var v => stop ++ v.render
  | ex id => stop ++ renderEx id
  | arrow a b =>
    let dom := renderAfter false a
    stop ++ (if a.isCompound then "(" ++ dom ++ ")" else dom) ++ " → " ++ renderAfter false b
  | all v b => (if bound then " " else "∀") ++ v.render ++ renderAfter true b
where
  /-- What ends the variables of a quantifier. -/
  stop : String := if bound then ". " else ""

/-- The text of a type with the numbers of its variables. -/
def render (t : Ty) : String := t.renderAfter false

/-- Holds no quantifier. -/
def isMono : Ty → Bool
  | all .. => false
  | arrow a b => a.isMono && b.isMono
  | _ => true

/-- The existential occurs in the type. -/
def occurs (id : Nat) : Ty → Bool
  | ex i => i == id
  | arrow a b => a.occurs id || b.occurs id
  | all _ b => b.occurs id
  | _ => false

/-- Puts `image` for the free occurrences of the rigid variable with number `v`. -/
def substVar (t : Ty) (v : Nat) (image : Ty) : Ty :=
  match t with
  | var x => if x.id = v then image else var x
  | arrow a b => arrow (a.substVar v image) (b.substVar v image)
  | all x b => if x.id = v then all x b else all x (b.substVar v image)
  | t => t

/-- Puts `f id` for every existential `id`. -/
def mapEx (f : Nat → Ty) : Ty → Ty
  | ex id => f id
  | arrow a b => arrow (mapEx f a) (mapEx f b)
  | all x b => all x (mapEx f b)
  | t => t

/-- Puts `image` for one existential. -/
def substEx (t : Ty) (id : Nat) (image : Ty) : Ty :=
  t.mapEx fun i => if i = id then image else ex i

/-- The existentials from left to right, with repetitions. -/
def exOccurrences : Ty → List Nat
  | ex id => [id]
  | arrow a b => a.exOccurrences ++ b.exOccurrences
  | all _ b => b.exOccurrences
  | _ => []

/-- Keeps the first of equal elements. -/
def firstOccurrences : List Nat → List Nat
  | [] => []
  | a :: as => a :: (firstOccurrences as).filter (· ≠ a)

/-- The existentials in the order of their first occurrence. -/
def existentials (t : Ty) : List Nat := firstOccurrences t.exOccurrences

/-- The names of all rigid variables, bound ones included. -/
def names : Ty → List String
  | var v => [v.name]
  | arrow a b => a.names ++ b.names
  | all v b => v.name :: b.names
  | _ => []

/-- A sorted list without repeats. -/
def dropRepeats : List String → List String
  | a :: b :: rest => if a = b then dropRepeats (b :: rest) else a :: dropRepeats (b :: rest)
  | xs => xs

/-- The names in a type, sorted. -/
def sortedNames (t : Ty) : List String :=
  dropRepeats (t.names.mergeSort fun a b => !(decide (b < a)))

/-- Equal up to bound variables, where `env` pairs the numbers bound so far, innermost first. -/
def equivIn (env : List (Nat × Nat)) : Ty → Ty → Bool
  | unit, unit => true
  | var v, var w => (env.lookup v.id).getD v.id == w.id
  | ex i, ex j => i == j
  | arrow a b, arrow c d => equivIn env a c && equivIn env b d
  | all v a, all w b => equivIn ((v.id, w.id) :: env) a b
  | _, _ => false

/-- Equal up to the names and numbers of bound variables, as seen from the left type. -/
def equiv (a b : Ty) : Bool := equivIn [] a b

/-- The largest number in the type. -/
def maxId : Ty → Nat
  | unit => 0
  | var v => v.id
  | ex id => id
  | arrow a b => max a.maxId b.maxId
  | all v b => max v.id b.maxId

end Ty

end TermBot.Scoped
