import TermBot.Scoped.Ty

/-!
# Scoped expressions

Terms in which every binder has a number of its own and every variable names its binder.
-/

namespace TermBot.Scoped

/-- A fully scoped term. -/
inductive Expr where
  | var (x : Ident)
  | unit
  | lam (param : Ident) (body : Expr)
  | app (fn arg : Expr)
  | ann (expr : Expr) (type : Ty)
  | letIn (name : Ident) (type : Option Ty) (value body : Expr)
  deriving DecidableEq, Repr, Inhabited

/-- The largest number in the expression, annotations included. -/
def Expr.maxId : Expr → Nat
  | .var x => x.id
  | .unit => 0
  | .lam x b => max x.id b.maxId
  | .app f a => max f.maxId a.maxId
  | .ann e t => max e.maxId t.maxId
  | .letIn x t v b => max (max x.id (t.elim 0 Ty.maxId)) (max v.maxId b.maxId)

end TermBot.Scoped
