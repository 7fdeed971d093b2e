import Mathlib.Data.Option.Basic
import TermBot.Proofs.Scoped.Resolution

/-!
# Terms with other names

Two terms are alpha-equivalent when they differ only in the names of what they bind: of abstractions and
definitions (`Term.Alpha`), and of the quantifiers of annotations (`TypeExpr.Alpha`). Scoping gives such terms
the same numbers, or fails on both (`resolve_alpha`): the scoped forms have the same shape and differ in names
alone (`Expr.Alike`).
-/

namespace TermBot.Surface

/-- What the names `x` and `y` refer to, when `env` pairs the binders around them, innermost first: the same
pair of binders, or no binder at all and then both are the same name. -/
inductive Corresponds : List (String × String) → String → String → Prop where
  | here {x y : String} {env : List (String × String)} : Corresponds ((x, y) :: env) x y
  | further {x y v w : String} {env : List (String × String)} (left : x ≠ v) (right : y ≠ w)
      (rest : Corresponds env x y) : Corresponds ((v, w) :: env) x y
  | free {x : String} : Corresponds [] x x

/-- The types differ in the names of their quantifiers only. -/
inductive TypeExpr.Alpha : List (String × String) → TypeExpr → TypeExpr → Prop where
  | unit {env : List (String × String)} : Alpha env .unit .unit
  | name {env : List (String × String)} {x y : String} {p q : Pos} (same : Corresponds env x y) :
      Alpha env (.name x p) (.name y q)
  | arrow {env : List (String × String)} {a b c d : TypeExpr} (dom : Alpha env a b)
      (cod : Alpha env c d) : Alpha env (.arrow a c) (.arrow b d)
  | all {env : List (String × String)} {x y : String} {a b : TypeExpr}
      (body : Alpha ((x, y) :: env) a b) : Alpha env (.all x a) (.all y b)

/-- The terms differ in the names of their abstractions and definitions only, apart from their annotations,
which are related by `types`. A defined name is not in scope in its own value. -/
inductive Term.Alpha (types : TypeExpr → TypeExpr → Prop) :
    List (String × String) → Term → Term → Prop where
  | var {env : List (String × String)} {x y : String} {p q : Pos} (same : Corresponds env x y) :
      Alpha types env (.var x p) (.var y q)
  | unit {env : List (String × String)} {p q : Pos} : Alpha types env (.unit p) (.unit q)
  | lam {env : List (String × String)} {x y : String} {a b : Term} {p q : Pos}
      (body : Alpha types ((x, y) :: env) a b) : Alpha types env (.lam x a p) (.lam y b q)
  | app {env : List (String × String)} {f g a b : Term} (fn : Alpha types env f g)
      (arg : Alpha types env a b) : Alpha types env (.app f a) (.app g b)
  | ann {env : List (String × String)} {t u : Term} {a b : TypeExpr} {p q : Pos}
      (term : Alpha types env t u) (type : types a b) : Alpha types env (.ann t a p) (.ann u b q)
  | letIn {env : List (String × String)} {x y : String} {a b : Option TypeExpr} {v w t u : Term}
      {p q : Pos} (type : Option.Rel types a b) (value : Alpha types env v w)
      (body : Alpha types ((x, y) :: env) t u) : Alpha types env (.letIn x a v t p) (.letIn y b w u q)

/-- Alpha-equivalence: bound names differ, of terms and of types. -/
def Term.AlphaEquiv (t u : Term) : Prop := t.Alpha (TypeExpr.Alpha []) [] u

/-- Only the names of abstractions and definitions differ; the annotations are the same, wherever they
stand. -/
def Term.Renames (t u : Term) : Prop := t.Alpha (fun a b => a.erase = b.erase) [] u

end TermBot.Surface

namespace TermBot.Scoped

open Surface (Term TypeExpr Corresponds)

/-- The types have the same shape and the same numbers, and the names in the same places are related. -/
inductive Ty.Alike (R : String → String → Prop) : Ty → Ty → Prop where
  | unit : Alike R .unit .unit
  | var {x y : String} (i : Nat) (name : R x y) : Alike R (.var ⟨x, i⟩) (.var ⟨y, i⟩)
  | ex (i : Nat) : Alike R (.ex i) (.ex i)
  | arrow {a b c d : Ty} (dom : Alike R a b) (cod : Alike R c d) : Alike R (.arrow a c) (.arrow b d)
  | all {x y : String} {a b : Ty} (i : Nat) (name : R x y) (body : Alike R a b) :
      Alike R (.all ⟨x, i⟩ a) (.all ⟨y, i⟩ b)

/-- The expressions have the same shape and the same numbers, and annotations with related names. -/
inductive Expr.Alike (R : String → String → Prop) : Expr → Expr → Prop where
  | var {x y : String} (i : Nat) : Alike R (.var ⟨x, i⟩) (.var ⟨y, i⟩)
  | unit : Alike R .unit .unit
  | lam {x y : String} {a b : Expr} (i : Nat) (body : Alike R a b) :
      Alike R (.lam ⟨x, i⟩ a) (.lam ⟨y, i⟩ b)
  | app {f g a b : Expr} (fn : Alike R f g) (arg : Alike R a b) : Alike R (.app f a) (.app g b)
  | ann {e f : Expr} {a b : Ty} (expr : Alike R e f) (type : Ty.Alike R a b) :
      Alike R (.ann e a) (.ann f b)
  | letIn {x y : String} {a b : Option Ty} {v w e f : Expr} (i : Nat)
      (type : Option.Rel (Ty.Alike R) a b) (value : Alike R v w) (body : Alike R e f) :
      Alike R (.letIn ⟨x, i⟩ a v e) (.letIn ⟨y, i⟩ b w f)

/-- The type without the names of its variables and quantifiers. -/
def Ty.nameless : Ty → Ty
  | .unit => .unit
  | .var v => .var ⟨"", v.id⟩
  | .ex i => .ex i
  | .arrow a b => .arrow a.nameless b.nameless
  | .all v b => .all ⟨"", v.id⟩ b.nameless

section Alike

variable {R : String → String → Prop} {a b : Ty}

theorem Ty.Alike.refl (every : ∀ x, R x x) (t : Ty) : t.Alike R t := by
  induction t with
  | unit => exact .unit
  | var v => exact .var v.id (every v.name)
  | ex i => exact .ex i
  | arrow a b iha ihb => exact .arrow iha ihb
  | all v b ih => exact .all v.id (every v.name) ih

/-- Without names, types that are alike are the same. -/
theorem Ty.Alike.nameless_eq (alike : a.Alike R b) : a.nameless = b.nameless := by
  induction alike with
  | unit | var | ex => rfl
  | arrow _ _ dom cod => rw [Ty.nameless, dom, cod, Ty.nameless]
  | all i _ _ body => rw [Ty.nameless, body, Ty.nameless]

theorem Ty.Alike.eq (alike : a.Alike Eq b) : a = b := by
  induction alike with
  | unit | ex => rfl
  | var i name => rw [name]
  | arrow _ _ dom cod => rw [dom, cod]
  | all i name _ body => rw [name, body]

theorem Ty.Alike.maxId_eq (alike : a.Alike R b) : a.maxId = b.maxId := by
  induction alike with
  | unit | var | ex => rfl
  | arrow _ _ dom cod => rw [Ty.maxId, dom, cod, Ty.maxId]
  | all i _ _ body => rw [Ty.maxId, body, Ty.maxId]

theorem Expr.Alike.maxId_eq {e f : Expr} (alike : e.Alike R f) : e.maxId = f.maxId := by
  induction alike with
  | var | unit => rfl
  | lam i _ body => rw [Expr.maxId, body, Expr.maxId]
  | app _ _ fn arg => rw [Expr.maxId, fn, arg, Expr.maxId]
  | ann _ type expr => rw [Expr.maxId, expr, type.maxId_eq, Expr.maxId]
  | letIn i type _ _ value body =>
    rw [Expr.maxId, value, body, Expr.maxId]
    cases type with
    | none => rfl
    | some type => rw [Option.elim_some, Option.elim_some, type.maxId_eq]

end Alike

/-! ### Scoping -/

/-- The scopes have the same numbers, and `env` pairs their names. -/
inductive Scope.Pairs : List (String × String) → Scope → Scope → Prop where
  | nil : Pairs [] [] []
  | cons {x y : String} {env : List (String × String)} {sc sc' : Scope} (i : Nat)
      (rest : Pairs env sc sc') : Pairs ((x, y) :: env) (⟨x, i⟩ :: sc) (⟨y, i⟩ :: sc')

/-- The computations succeed with related results and the same supply, or fail both. -/
def Agrees {α β : Type} (related : α → β → Prop) (m : StateT Supply Option α)
    (m' : StateT Supply Option β) : Prop :=
  ∀ s, Option.Rel (fun p q => related p.1 q.1 ∧ p.2 = q.2) (m.run s) (m'.run s)

section Agrees

variable {α β γ δ : Type} {related : α → β → Prop} {results : γ → δ → Prop}

theorem Agrees.pure {a : α} {b : β} (same : related a b) : Agrees related (pure a) (pure b) :=
  fun _ => .some ⟨same, rfl⟩

theorem Agrees.bind {m : StateT Supply Option α} {m' : StateT Supply Option β}
    {f : α → StateT Supply Option γ} {f' : β → StateT Supply Option δ} (first : Agrees related m m')
    (next : ∀ a b, related a b → Agrees results (f a) (f' b)) :
    Agrees results (m >>= f) (m' >>= f') := by
  intro s
  rw [StateT.run_bind, StateT.run_bind]
  rcases run : m.run s with _ | ⟨a, s₁⟩ <;> rcases run' : m'.run s with _ | ⟨b, s₂⟩ <;>
    have step := first s <;> rw [run, run'] at step
  · exact .none
  · cases step
  · cases step
  · obtain ⟨same, rfl⟩ : related a b ∧ s₁ = s₂ := by
      cases step with
      | some both => exact both
    exact next a b same s₁

/-- New binders have the same number. -/
theorem agrees_freshBinder (x y : String) :
    Agrees (fun v w => ∃ i, v = ⟨x, i⟩ ∧ w = ⟨y, i⟩) (freshBinder x) (freshBinder y) :=
  fun s => .some ⟨⟨s.next, rfl, rfl⟩, rfl⟩

end Agrees

section Scoping

variable {env : List (String × String)} {sc sc' : Scope} {x y : String}

/-- Names that correspond are bound to the same number, or not at all. -/
theorem Scope.Pairs.find?_rel (pairs : Pairs env sc sc') (same : Corresponds env x y) :
    Option.Rel (fun v w => ∃ i, v = ⟨x, i⟩ ∧ w = ⟨y, i⟩) (sc.find? x) (sc'.find? y) := by
  induction same generalizing sc sc' with
  | here =>
    cases pairs with
    | cons i rest =>
      rw [Scope.find?, Scope.find?, List.find?_cons_of_pos (by simp), List.find?_cons_of_pos (by simp)]
      exact .some ⟨i, rfl, rfl⟩
  | further left right _ ih =>
    cases pairs with
    | cons i rest =>
      rw [Scope.find?, Scope.find?, List.find?_cons_of_neg (by simpa using Ne.symm left),
        List.find?_cons_of_neg (by simpa using Ne.symm right)]
      exact ih rest
  | free =>
    cases pairs
    exact .none

theorem agrees_lookup (pairs : Scope.Pairs env sc sc') (same : Corresponds env x y) :
    Agrees (fun v w => ∃ i, v = ⟨x, i⟩ ∧ w = ⟨y, i⟩) (liftM (sc.find? x)) (liftM (sc'.find? y)) := by
  intro s
  have found := pairs.find?_rel same
  revert found
  cases sc.find? x <;> cases sc'.find? y <;> intro found
  · exact .none
  · cases found
  · cases found
  · cases found with
    | some number => exact .some ⟨number, rfl⟩

theorem agrees_resolveType {a b : TypeExpr} (pairs : Scope.Pairs env sc sc') (same : a.Alpha env b) :
    Agrees (Ty.Alike fun _ _ => True) (resolveType sc a) (resolveType sc' b) := by
  induction same generalizing sc sc' with
  | unit => exact .pure .unit
  | name same =>
    refine .bind (agrees_lookup pairs same) ?_
    rintro _ _ ⟨i, rfl, rfl⟩
    exact .pure (.var i trivial)
  | arrow _ _ dom cod =>
    exact .bind (dom pairs) fun _ _ left => .bind (cod pairs) fun _ _ right => .pure (.arrow left right)
  | all _ body =>
    refine .bind (agrees_freshBinder _ _) ?_
    rintro _ _ ⟨i, rfl, rfl⟩
    exact .bind (body (pairs.cons i)) fun _ _ inner => .pure (.all i trivial inner)

/-- Positions do not matter. -/
theorem resolveType_erase (sc : Scope) (t : TypeExpr) : resolveType sc t.erase = resolveType sc t := by
  induction t generalizing sc with
  | unit | name => rfl
  | arrow a b iha ihb => simp only [TypeExpr.erase, resolveType, iha, ihb]
  | all n b ih => simp only [TypeExpr.erase, resolveType, ih]

theorem agrees_resolveType_of_erase {a b : TypeExpr} (same : a.erase = b.erase) :
    Agrees (Ty.Alike Eq) (resolveType sc a) (resolveType sc b) := by
  rw [← resolveType_erase sc a, same, resolveType_erase]
  intro s
  cases (resolveType sc b).run s with
  | none => exact .none
  | some out => exact .some ⟨.refl (fun _ => rfl) _, rfl⟩

variable {R : String → String → Prop} {types : TypeExpr → TypeExpr → Prop}

theorem agrees_resolveOptional {a b : Option TypeExpr}
    (annotations : ∀ a b, types a b → Agrees (Ty.Alike R) (resolveType [] a) (resolveType [] b))
    (same : Option.Rel types a b) :
    Agrees (Option.Rel (Ty.Alike R)) (resolveOptional a) (resolveOptional b) := by
  cases same with
  | none => exact .pure .none
  | some type => exact .bind (annotations _ _ type) fun _ _ same => .pure (.some same)

/-- Terms with corresponding names, whose annotations are scoped alike, are scoped alike. -/
theorem agrees_resolveTerm {t u : Term}
    (annotations : ∀ a b, types a b → Agrees (Ty.Alike R) (resolveType [] a) (resolveType [] b))
    (pairs : Scope.Pairs env sc sc') (same : t.Alpha types env u) :
    Agrees (Expr.Alike R) (resolveTerm sc t) (resolveTerm sc' u) := by
  induction same generalizing sc sc' with
  | var same =>
    refine .bind (agrees_lookup pairs same) ?_
    rintro _ _ ⟨i, rfl, rfl⟩
    exact .pure (.var i)
  | unit => exact .pure .unit
  | lam _ body =>
    refine .bind (agrees_freshBinder _ _) ?_
    rintro _ _ ⟨i, rfl, rfl⟩
    exact .bind (body (pairs.cons i)) fun _ _ inner => .pure (.lam i inner)
  | app _ _ fn arg =>
    exact .bind (fn pairs) fun _ _ left => .bind (arg pairs) fun _ _ right => .pure (.app left right)
  | ann _ type term =>
    exact .bind (term pairs) fun _ _ left => .bind (annotations _ _ type) fun _ _ right =>
      .pure (.ann left right)
  | letIn type _ _ value body =>
    refine .bind (agrees_resolveOptional annotations type) fun _ _ head =>
      .bind (value pairs) fun _ _ bound => .bind (agrees_freshBinder _ _) ?_
    rintro _ _ ⟨i, rfl, rfl⟩
    exact .bind (body (pairs.cons i)) fun _ _ inner => .pure (.letIn i head bound inner)

/-- Terms that differ in bound names only are scoped to expressions that differ in names only, or both
fail. -/
theorem resolve_alpha {t u : Term}
    (annotations : ∀ a b, types a b → Agrees (Ty.Alike R) (resolveType [] a) (resolveType [] b))
    (same : t.Alpha types [] u) : Option.Rel (Expr.Alike R) (resolve t) (resolve u) := by
  have agrees := agrees_resolveTerm annotations .nil same 0
  rw [resolve, resolve]
  revert agrees
  cases (resolveTerm [] t).run 0 <;> cases (resolveTerm [] u).run 0 <;> intro agrees
  · exact .none
  · cases agrees
  · cases agrees
  · cases agrees with
    | some both => exact .some both.1

end Scoping

end TermBot.Scoped
