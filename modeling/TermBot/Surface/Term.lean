import TermBot.Surface.Position

/-!
# Terms as written

The terms and type expressions of a source. Names are texts that nothing has resolved yet; a term
knows where it starts.
-/

namespace TermBot.Surface

/-- A type as written. -/
inductive TypeExpr where
  | unit
  | name (name : String) (pos : Pos)
  | arrow (dom cod : TypeExpr)
  | all (var : String) (body : TypeExpr)
  deriving DecidableEq, Repr, Inhabited

/-- A term as written; an abstraction has one parameter. -/
inductive Term where
  | var (name : String) (pos : Pos)
  | unit (pos : Pos)
  | lam (param : String) (body : Term) (pos : Pos)
  | app (fn arg : Term)
  | ann (term : Term) (type : TypeExpr) (pos : Pos)
  | letIn (name : String) (type : Option TypeExpr) (value body : Term) (pos : Pos)
  deriving DecidableEq, Repr, Inhabited

/-- Where a term starts. -/
def Term.pos : Term → Pos
  | .var _ p => p
  | .unit p => p
  | .lam _ _ p => p
  | .app fn _ => fn.pos
  | .ann _ _ p => p
  | .letIn _ _ _ _ p => p

/-- The type without positions. -/
def TypeExpr.erase : TypeExpr → TypeExpr
  | .unit => .unit
  | .name n _ => .name n .start
  | .arrow a b => .arrow a.erase b.erase
  | .all v b => .all v b.erase

/-- The term without positions. -/
def Term.erase : Term → Term
  | .var n _ => .var n .start
  | .unit _ => .unit .start
  | .lam x b _ => .lam x b.erase .start
  | .app f a => .app f.erase a.erase
  | .ann t ty _ => .ann t.erase ty.erase .start
  | .letIn x ty v b _ => .letIn x (ty.map TypeExpr.erase) v.erase b.erase .start

end TermBot.Surface
