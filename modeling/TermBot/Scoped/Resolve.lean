import TermBot.Scoped.Expr
import TermBot.Surface.Term

/-!
# Scoping

`resolve` gives every binder a number, counted from 0 in the order in which binders are met, and
links every variable to the innermost binder of its name. It fails on an unbound variable. The
variables of an annotation are bound by its own quantifiers only.
-/

namespace TermBot.Scoped

open Surface (Term TypeExpr)

/-- The binders in scope, innermost first. -/
abbrev Scope := List Ident

/-- The innermost binder of a name. -/
def Scope.find? (sc : Scope) (name : String) : Option Ident := List.find? (·.name = name) sc

/-- Gives the next number to a binder. -/
def freshBinder (name : String) : StateT Supply Option Ident := do
  let s ← get
  set (s.skip 1)
  return ⟨name, s.next⟩

/-- Scopes a type. -/
def resolveType (sc : Scope) : TypeExpr → StateT Supply Option Ty
  | .unit => return .unit
  | .name n _ => do
    let v ← sc.find? n
    return .var v
  | .arrow a b => do
    let a ← resolveType sc a
    let b ← resolveType sc b
    return .arrow a b
  | .all n b => do
    let v ← freshBinder n
    let b ← resolveType (v :: sc) b
    return .all v b

/-- Scopes an optional annotation. -/
def resolveOptional : Option TypeExpr → StateT Supply Option (Option Ty)
  | none => return none
  | some t => do
    let t ← resolveType [] t
    return some t

/-- Scopes a term. -/
def resolveTerm (sc : Scope) : Term → StateT Supply Option Expr
  | .var n _ => do
    let x ← sc.find? n
    return .var x
  | .unit _ => return .unit
  | .lam n b _ => do
    let x ← freshBinder n
    let b ← resolveTerm (x :: sc) b
    return .lam x b
  | .app f a => do
    let f ← resolveTerm sc f
    let a ← resolveTerm sc a
    return .app f a
  | .ann t ty _ => do
    let e ← resolveTerm sc t
    let ty ← resolveType [] ty
    return .ann e ty
  | .letIn n ty v b _ => do
    let ty ← resolveOptional ty
    let v ← resolveTerm sc v
    let x ← freshBinder n
    let b ← resolveTerm (x :: sc) b
    return .letIn x ty v b

/-- The scoped form of a closed term. -/
def resolve (t : Term) : Option Expr := ((resolveTerm [] t).run 0).map (·.1)

end TermBot.Scoped
