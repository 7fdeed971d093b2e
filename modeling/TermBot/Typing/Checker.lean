import TermBot.Scoped.Expr
import TermBot.Typing.Context

/-!
# Type inference

Bidirectional inference for higher-rank types over an ordered context: subtyping, instantiation of
existentials, checking and synthesis. An abstraction, and a binding without a type, synthesises a
type that is generalised over the existentials it introduced.

A computation changes the context also when it fails, so the context after a failure shows how far
inference came. Every recursive function takes a depth that bounds its nesting; running out of it is
an error of its own, and so is a solution that refers to itself, which no depth exhausts.
-/

namespace TermBot.Typing

open Scoped

/-- Why inference fails. -/
inductive TypeError where
  | rigidOutOfScope (v : Ident)
  | existentialOutOfScope (id : Nat)
  | notSubtype (a b : Ty)
  | notUnsolved (id : Nat)
  | cannotInstantiate (id : Nat) (type : Ty)
  | unboundTerm (x : Ident)
  | illFormed (type : Ty)
  | notFunction (type : Ty)
  | tooDeep
  deriving DecidableEq, Repr

/-- The reason without its heading. -/
def TypeError.reason : TypeError → String
  | .rigidOutOfScope v => "type variable " ++ v.render ++ " is out of scope"
  | .existentialOutOfScope i => "existential " ++ renderEx i ++ " is out of scope"
  | .notSubtype a b => a.render ++ " is not a subtype of " ++ b.render
  | .notUnsolved i => "existential " ++ renderEx i ++ " is not in scope"
  | .cannotInstantiate i t => "cannot instantiate " ++ renderEx i ++ " to " ++ t.render
  | .unboundTerm x => x.render ++ " is not in scope"
  | .illFormed t => "annotation " ++ t.render ++ " is not well-formed"
  | .notFunction t => "cannot apply a value of type " ++ t.render
  | .tooDeep => "the term is nested too deeply"

/-- The wording of a type error. -/
def TypeError.message (e : TypeError) : String := "type error: " ++ e.reason

/-- A computation that may fail and changes the context in any case. -/
abbrev Check := ExceptT TypeError (StateM Context)

/-- A new number. -/
def fresh : Check Nat := do
  let c ← get
  set { c with supply := c.supply.skip 1 }
  return c.next

/-- A new rigid variable. -/
def freshVar (name : String) : Check Ident := return ⟨name, ← fresh⟩

/-- Puts the solutions known by now into a type; they go on without end if one of them is left. -/
def applied (t : Ty) : Check Ty := do
  let c ← get
  if (c.apply t).exOccurrences.any (c.has .solved) then throw .tooDeep else return c.apply t

/-- Replaces existentials by new rigid variables, whose names avoid `taken`; returns the variables
in order. -/
def rename : List Nat → (taken : List String) → Ty → Check (List Ident × Ty)
  | [], _, t => return ([], t)
  | i :: rest, taken, t => do
    let v ← freshVar (nextName taken)
    let (vs, t) ← rename rest (v.name :: taken) (t.substEx i (.var v))
    return (v :: vs, t)

/-- Closes a type over the unsolved existentials declared after a marker, in the order of their first
occurrence. -/
def generalize (mark : Nat) (t : Ty) : Check Ty := do
  match (← get).after? mark with
  | none => return t
  | some scope =>
    let isLocal i := scope.any (·.declares .unsolved i)
    let (vs, body) ← rename (t.existentials.filter isLocal) t.names t
    return vs.foldr .all body

/-- Opens a quantifier with a new rigid variable. -/
def openRigid (v : Ident) (body : Ty) : Check (Ident × Ty) := do
  let w ← freshVar v.name
  return (w, body.substVar v.id (.var w))

/-- Opens a quantifier with a new existential. -/
def openEx (v : Ident) (body : Ty) : Check (Nat × Ty) := do
  let i ← fresh
  return (i, body.substVar v.id (.ex i))

/-- Splits an existential into the arrow of two new ones, in its place; returns domain and
codomain. -/
def articulate (i : Nat) : Check (Nat × Nat) := do
  let cod ← fresh
  let dom ← fresh
  modify (·.replace i [.unsolved cod, .unsolved dom, .solved i (.arrow (.ex dom) (.ex cod))])
  return (dom, cod)

/-- The first step of instantiation: solves the existential if the type is a monotype of the context
before it, or solves the type if it is a later existential. -/
def solveDirectly (i : Nat) (t : Ty) : Check Bool := do
  let c ← get
  match c.index? .unsolved i with
  | none => throw (.notUnsolved i)
  | some n =>
    if t.isMono && c.wellFormed n t then
      set (c.solve i t)
      return true
    else
      match t with
      | .ex j =>
        if (c.index? .unsolved j).any (n < ·) then
          set (c.solve j (.ex i))
          return true
        else throw (.cannotInstantiate i t)
      | _ => return false

mutual

/-- Solves an existential so that it is a subtype of the type. -/
def instantiateL : (depth : Nat) → Nat → Ty → Check Unit
  | 0, _, _ => throw .tooDeep
  | n + 1, i, t => do
    if ← solveDirectly i t then return
    match t with
    | .arrow a b =>
      let (dom, cod) ← articulate i
      instantiateR n a dom
      instantiateL n cod (← applied b)
    | .all v b =>
      let (w, body) ← openRigid v b
      modify (·.push [.rigid w])
      instantiateL n i body
      modify (·.dropFrom .rigid w.id)
    | _ => throw (.cannotInstantiate i t)

/-- Solves an existential so that it is a supertype of the type. -/
def instantiateR : (depth : Nat) → Ty → Nat → Check Unit
  | 0, _, _ => throw .tooDeep
  | n + 1, t, i => do
    if ← solveDirectly i t then return
    match t with
    | .arrow a b =>
      let (dom, cod) ← articulate i
      instantiateL n dom a
      instantiateR n (← applied b) cod
    | .all v b =>
      let mark ← fresh
      let (j, body) ← openEx v b
      modify (·.push [.marker mark, .unsolved j])
      instantiateR n body i
      modify (·.dropFrom .marker mark)
    | _ => throw (.cannotInstantiate i t)

end

/-- The first type as an unsolved existential that does not occur in the second. -/
def Context.openEx? (c : Context) : Ty → Ty → Option Nat
  | .ex i, t => if c.has .unsolved i && !t.occurs i then some i else none
  | _, _ => none

/-- Makes the first type a subtype of the second when one of them is an unsolved existential. -/
def instantiate (depth : Nat) (a b : Ty) : Check Unit := do
  let c ← get
  match c.openEx? a b, c.openEx? b a with
  | some i, _ => instantiateL depth i b
  | none, some j => instantiateR depth a j
  | none, none => throw (.notSubtype a b)

/-- Makes the first type a subtype of the second. -/
def subtype : (depth : Nat) → Ty → Ty → Check Unit
  | 0, _, _ => throw .tooDeep
  | n + 1, a, b => do
    match a, b with
    | .unit, .unit => return
    | .arrow a₁ a₂, .arrow b₁ b₂ =>
      subtype n b₁ a₁
      subtype n (← applied a₂) (← applied b₂)
    | a, .all v body =>
      let (w, body) ← openRigid v body
      modify (·.push [.rigid w])
      subtype n a body
      modify (·.dropFrom .rigid w.id)
    | .all v body, b =>
      let mark ← fresh
      let (i, body) ← openEx v body
      modify (·.push [.marker mark, .unsolved i])
      subtype n body b
      modify (·.dropFrom .marker mark)
    | .var v, .var w =>
      if v.id ≠ w.id then throw (.notSubtype a b)
      else if (← get).has .rigid v.id then return
      else throw (.rigidOutOfScope v)
    | .ex i, .ex j =>
      if i ≠ j then instantiate n a b
      else if ((← get).exIndex? i).isSome then return
      else throw (.existentialOutOfScope i)
    | a, b => instantiate n a b

/-- Fails unless the annotation is well formed in the whole context. -/
def requireWellFormed (t : Ty) : Check Unit := do
  let c ← get
  if c.wellFormed c.entries.length t then return else throw (.illFormed t)

mutual

/-- Checks an expression against a type. -/
def check : (depth : Nat) → Expr → Ty → Check Unit
  | 0, _, _ => throw .tooDeep
  | n + 1, e, t => do
    match e, t with
    | e, .all v b =>
      let (w, body) ← openRigid v b
      modify (·.push [.rigid w])
      check n e body
      modify (·.dropFrom .rigid w.id)
    | .unit, .unit => return
    | .lam x body, .arrow dom cod =>
      modify (·.push [.term x dom])
      check n body cod
      modify (·.dropFrom .term x.id)
    | .letIn x ann value body, t =>
      let bound ← bindingType n ann value
      modify (·.push [.term x bound])
      check n body t
      modify (·.remove .term x.id)
    | e, t =>
      let got ← synth n e
      subtype n (← applied got) (← applied t)

/-- Synthesises the type of an expression. -/
def synth : (depth : Nat) → Expr → Check Ty
  | 0, _ => throw .tooDeep
  | n + 1, e => do
    match e with
    | .var x =>
      match (← get).typeOf? x.id with
      | some t => return t
      | none => throw (.unboundTerm x)
    | .unit => return .unit
    | .ann e t =>
      requireWellFormed t
      check n e t
      return t
    | .lam x body =>
      let mark ← fresh
      let dom ← fresh
      let cod ← fresh
      modify (·.push [.marker mark, .unsolved dom, .unsolved cod, .term x (.ex dom)])
      check n body (.ex cod)
      let t ← generalize mark (← applied (.arrow (.ex dom) (.ex cod)))
      modify (·.dropFrom .marker mark)
      return t
    | .app fn arg =>
      let t ← synth n fn
      synthApp n (← applied t) arg
    | .letIn x ann value body =>
      let bound ← bindingType n ann value
      modify (·.push [.term x bound])
      let t ← synth n body
      modify (·.remove .term x.id)
      return t

/-- Synthesises the type of applying a function of the given type to an argument. -/
def synthApp : (depth : Nat) → Ty → Expr → Check Ty
  | 0, _, _ => throw .tooDeep
  | n + 1, t, arg => do
    match t with
    | .all v b =>
      let (i, body) ← openEx v b
      modify (·.push [.unsolved i])
      synthApp n body arg
    | .ex i =>
      if (← get).has .unsolved i then
        let (dom, cod) ← articulate i
        check n arg (.ex dom)
        return .ex cod
      else throw (.notFunction t)
    | .arrow dom cod =>
      check n arg dom
      return cod
    | _ => throw (.notFunction t)

/-- The type that a binding gives to its name: the annotation, or the generalised type of the
value. -/
def bindingType : (depth : Nat) → Option Ty → Expr → Check Ty
  | 0, _, _ => throw .tooDeep
  | n + 1, some t, value => do
    requireWellFormed t
    check n value t
    return t
  | n + 1, none, value => do
    let mark ← fresh
    modify (·.push [.marker mark])
    let t ← synth n value
    let t ← generalize mark (← applied t)
    modify (·.dropFrom .marker mark)
    return t

end

/-- Closes the context at a marker, once all solutions found after it have an end. -/
def close (mark : Nat) : Check Unit := do
  ((← get).solutionsAfter mark).forM fun t => discard (applied t)
  modify (·.close mark)

/-- Infers a closed type: what existentials are left open is generalised, and the context keeps the
solutions found. After a failure the context is left as it was then, without the marker. -/
def infer (depth : Nat) (e : Expr) : Check Ty := do
  modify (·.reserveAbove e.maxId)
  let mark ← fresh
  modify (·.push [.marker mark])
  let t ← tryCatch (synth depth e) fun err => do
    modify (·.remove .marker mark)
    throw err
  let t ← generalize mark (← applied t)
  close mark
  return t

/-- A depth that no term of a chat message or a file comes near. -/
def ampleDepth : Nat := Nat.pow 2 32

end TermBot.Typing
