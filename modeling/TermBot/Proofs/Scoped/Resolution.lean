import Mathlib.Algebra.Group.Nat.Defs
import TermBot.Proofs.Typing.Binders

/-!
# What scoping does

A term is scoped just when it is closed: every variable stands under a binder of its name, and the variables
of an annotation under quantifiers of that annotation (`resolve_isSome`). The scoped form is the term as it
was written, every variable in it is the innermost binder of its name among those around it
(`written_resolveTerm`), and its binders are numbered in the order in which they are met
(`numbers_resolveTerm`).
-/

namespace TermBot.Surface

/-- How many quantifiers there are. -/
def TypeExpr.binders : TypeExpr → Nat
  | .unit | .name .. => 0
  | .arrow a b => a.binders + b.binders
  | .all _ b => 1 + b.binders

/-- Every name is that of a quantifier around it, or one of the names `bound`. -/
def TypeExpr.Closed (bound : List String) : TypeExpr → Prop
  | .unit => True
  | .name n _ => n ∈ bound
  | .arrow a b => a.Closed bound ∧ b.Closed bound
  | .all n b => b.Closed (n :: bound)

/-- How many binders there are, with the quantifiers of the annotations. -/
def Term.binders : Term → Nat
  | .var .. | .unit _ => 0
  | .lam _ b _ => 1 + b.binders
  | .app f a => f.binders + a.binders
  | .ann t ty _ => t.binders + ty.binders
  | .letIn _ ty v b _ => ty.elim 0 TypeExpr.binders + v.binders + (1 + b.binders)

/-- Every variable has the name of an abstraction or of a definition whose body it is in, or one of the names
`bound`; a defined name does not stand for itself in its own value. Every annotation is closed by itself. -/
def Term.Closed (bound : List String) : Term → Prop
  | .var n _ => n ∈ bound
  | .unit _ => True
  | .lam n b _ => b.Closed (n :: bound)
  | .app f a => f.Closed bound ∧ a.Closed bound
  | .ann t ty _ => t.Closed bound ∧ ty.Closed []
  | .letIn n ty v b _ => (∀ t ∈ ty, t.Closed []) ∧ v.Closed bound ∧ b.Closed (n :: bound)

end TermBot.Surface

namespace TermBot.Scoped

open Surface (Term TypeExpr)

/-- The binder is the innermost one of its name among `around`. -/
def Ident.Innermost (v : Ident) (around : List Ident) : Prop :=
  ∃ inner outer, around = inner ++ v :: outer ∧ ∀ w ∈ inner, w.name ≠ v.name

/-- Every variable is the innermost binder of its name among the quantifiers around it and those of `around`,
and there are no existentials. -/
def Ty.Linked (around : List Ident) : Ty → Prop
  | .unit => True
  | .var v => v.Innermost around
  | .ex _ => False
  | .arrow a b => a.Linked around ∧ b.Linked around
  | .all v b => b.Linked (v :: around)

/-- The type as it is written without numbers; an existential is written as its text. -/
def Ty.written : Ty → TypeExpr
  | .unit => .unit
  | .var v => .name v.name .start
  | .ex id => .name (renderEx id) .start
  | .arrow a b => .arrow a.written b.written
  | .all v b => .all v.name b.written

/-- The same for the variables of an expression and the binders around them. The annotations see none of
those. -/
def Expr.Linked (around : List Ident) : Expr → Prop
  | .var x => x.Innermost around
  | .unit => True
  | .lam x b => b.Linked (x :: around)
  | .app f a => f.Linked around ∧ a.Linked around
  | .ann e t => e.Linked around ∧ t.Linked []
  | .letIn x t v b => (∀ ty ∈ t, ty.Linked []) ∧ v.Linked around ∧ b.Linked (x :: around)

/-- The expression as it is written without numbers. -/
def Expr.written : Expr → Term
  | .var x => .var x.name .start
  | .unit => .unit .start
  | .lam x b => .lam x.name b.written .start
  | .app f a => .app f.written a.written
  | .ann e t => .ann e.written t.written .start
  | .letIn x t v b => .letIn x.name (t.map Ty.written) v.written b.written .start

/-- The numbers of all binders, quantifiers of the annotations included, in the order in which they are
met. -/
def Expr.binders : Expr → List Nat
  | .var _ | .unit => []
  | .lam x b => x.id :: b.binders
  | .app f a => f.binders ++ a.binders
  | .ann e t => e.binders ++ t.binders
  | .letIn x t v b => t.elim [] Ty.binders ++ v.binders ++ x.id :: b.binders

variable {sc : Scope} {s s' : Supply}

/-! ### Lookup -/

theorem Scope.innermost_of_find? {n : String} {x : Ident} (found : sc.find? n = some x) :
    x.name = n ∧ x.Innermost sc := by
  obtain ⟨same, inner, outer, split, others⟩ := List.find?_eq_some_iff_append.1 found
  have same : x.name = n := of_decide_eq_true same
  refine ⟨same, inner, outer, split, fun w mem eq => ?_⟩
  simpa [eq, same] using others w mem

theorem Scope.exists_find?_iff {n : String} : (∃ x, sc.find? n = some x) ↔ n ∈ sc.map (·.name) := by
  rw [← Option.isSome_iff_exists, find?, List.find?_isSome]
  simp

/-- A variable is looked up without a number being given out. -/
theorem run_lookup {n : String} {x : Ident} :
    (liftM (sc.find? n) : StateT Supply Option Ident).run s = some (x, s') ↔
      sc.find? n = some x ∧ s' = s := by
  cases sc.find? n <;> simp [eq_comm]

/-! ### What is scoped -/

theorem exists_resolveType {t : TypeExpr} :
    (∃ ty s', (resolveType sc t).run s = some (ty, s')) ↔ t.Closed (sc.map (·.name)) := by
  induction t generalizing sc s with
  | unit => exact ⟨fun _ => trivial, fun _ => ⟨_, _, rfl⟩⟩
  | name n p =>
    rw [TypeExpr.Closed, ← Scope.exists_find?_iff]
    constructor
    · rintro ⟨_, _, run⟩
      obtain ⟨x, _, found, -⟩ := run_bind_some.1 run
      exact ⟨x, (run_lookup.1 found).1⟩
    · rintro ⟨x, found⟩
      exact ⟨_, _, run_bind_some.2 ⟨x, s, run_lookup.2 ⟨found, rfl⟩, rfl⟩⟩
  | arrow a b iha ihb =>
    constructor
    · rintro ⟨_, _, run⟩
      obtain ⟨_, _, first, rest⟩ := run_bind_some.1 run
      obtain ⟨_, _, second, -⟩ := run_bind_some.1 rest
      exact ⟨iha.1 ⟨_, _, first⟩, ihb.1 ⟨_, _, second⟩⟩
    · rintro ⟨left, right⟩
      obtain ⟨a', s₁, first⟩ := (iha (s := s)).2 left
      obtain ⟨b', s₂, second⟩ := (ihb (s := s₁)).2 right
      exact ⟨_, _, run_bind_some.2 ⟨_, _, first, run_bind_some.2 ⟨_, _, second, rfl⟩⟩⟩
  | all n b ih =>
    constructor
    · rintro ⟨_, _, run⟩
      obtain ⟨_, _, ⟨⟩, rest⟩ := run_bind_some.1 run
      obtain ⟨_, _, body, -⟩ := run_bind_some.1 rest
      exact ih.1 ⟨_, _, body⟩
    · intro closed
      obtain ⟨b', s₁, body⟩ := (@ih (⟨n, s.next⟩ :: sc) (s.skip 1)).2 closed
      exact ⟨_, _, run_bind_some.2 ⟨_, _, rfl, run_bind_some.2 ⟨_, _, body, rfl⟩⟩⟩

theorem exists_resolveOptional {t : Option TypeExpr} :
    (∃ ty s', (resolveOptional t).run s = some (ty, s')) ↔ ∀ ty ∈ t, ty.Closed [] := by
  cases t with
  | none => exact ⟨fun _ => nofun, fun _ => ⟨_, _, rfl⟩⟩
  | some t =>
    constructor
    · rintro ⟨_, _, run⟩ _ ⟨⟩
      obtain ⟨_, _, type, -⟩ := run_bind_some.1 run
      exact exists_resolveType.1 ⟨_, _, type⟩
    · intro closed
      obtain ⟨ty, s₁, type⟩ := (@exists_resolveType [] s _).2 (closed t rfl)
      exact ⟨_, _, run_bind_some.2 ⟨_, _, type, rfl⟩⟩

theorem exists_resolveTerm {t : Term} :
    (∃ e s', (resolveTerm sc t).run s = some (e, s')) ↔ t.Closed (sc.map (·.name)) := by
  induction t generalizing sc s with
  | var n p =>
    rw [Term.Closed, ← Scope.exists_find?_iff]
    constructor
    · rintro ⟨_, _, run⟩
      obtain ⟨x, _, found, -⟩ := run_bind_some.1 run
      exact ⟨x, (run_lookup.1 found).1⟩
    · rintro ⟨x, found⟩
      exact ⟨_, _, run_bind_some.2 ⟨x, s, run_lookup.2 ⟨found, rfl⟩, rfl⟩⟩
  | unit p => exact ⟨fun _ => trivial, fun _ => ⟨_, _, rfl⟩⟩
  | lam n b p ih =>
    constructor
    · rintro ⟨_, _, run⟩
      obtain ⟨_, _, ⟨⟩, rest⟩ := run_bind_some.1 run
      obtain ⟨_, _, body, -⟩ := run_bind_some.1 rest
      exact ih.1 ⟨_, _, body⟩
    · intro closed
      obtain ⟨b', s₁, body⟩ := (@ih (⟨n, s.next⟩ :: sc) (s.skip 1)).2 closed
      exact ⟨_, _, run_bind_some.2 ⟨_, _, rfl, run_bind_some.2 ⟨_, _, body, rfl⟩⟩⟩
  | app f a ihf iha =>
    constructor
    · rintro ⟨_, _, run⟩
      obtain ⟨_, _, first, rest⟩ := run_bind_some.1 run
      obtain ⟨_, _, second, -⟩ := run_bind_some.1 rest
      exact ⟨ihf.1 ⟨_, _, first⟩, iha.1 ⟨_, _, second⟩⟩
    · rintro ⟨left, right⟩
      obtain ⟨f', s₁, first⟩ := (ihf (s := s)).2 left
      obtain ⟨a', s₂, second⟩ := (iha (s := s₁)).2 right
      exact ⟨_, _, run_bind_some.2 ⟨_, _, first, run_bind_some.2 ⟨_, _, second, rfl⟩⟩⟩
  | ann t ty p ih =>
    constructor
    · rintro ⟨_, _, run⟩
      obtain ⟨_, _, expr, rest⟩ := run_bind_some.1 run
      obtain ⟨_, _, type, -⟩ := run_bind_some.1 rest
      exact ⟨ih.1 ⟨_, _, expr⟩, exists_resolveType.1 ⟨_, _, type⟩⟩
    · rintro ⟨left, right⟩
      obtain ⟨e, s₁, expr⟩ := (ih (s := s)).2 left
      obtain ⟨ty', s₂, type⟩ := (@exists_resolveType [] s₁ _).2 right
      exact ⟨_, _, run_bind_some.2 ⟨_, _, expr, run_bind_some.2 ⟨_, _, type, rfl⟩⟩⟩
  | letIn n ty v b p ihv ihb =>
    constructor
    · rintro ⟨_, _, run⟩
      obtain ⟨_, _, type, rest⟩ := run_bind_some.1 run
      obtain ⟨_, _, value, rest⟩ := run_bind_some.1 rest
      obtain ⟨_, _, ⟨⟩, rest⟩ := run_bind_some.1 rest
      obtain ⟨_, _, body, -⟩ := run_bind_some.1 rest
      exact ⟨exists_resolveOptional.1 ⟨_, _, type⟩, ihv.1 ⟨_, _, value⟩, ihb.1 ⟨_, _, body⟩⟩
    · rintro ⟨given, inner, outer⟩
      obtain ⟨ty', s₁, type⟩ := (exists_resolveOptional (s := s)).2 given
      obtain ⟨v', s₂, value⟩ := (ihv (s := s₁)).2 inner
      obtain ⟨b', s₃, body⟩ := (@ihb (⟨n, s₂.next⟩ :: sc) (s₂.skip 1)).2 outer
      exact ⟨_, _, run_bind_some.2 ⟨_, _, type, run_bind_some.2 ⟨_, _, value,
        run_bind_some.2 ⟨_, _, rfl, run_bind_some.2 ⟨_, _, body, rfl⟩⟩⟩⟩⟩

/-- A term is scoped just when it is closed. -/
theorem resolve_isSome {t : Term} : (resolve t).isSome = true ↔ t.Closed [] := by
  rw [← List.map_nil, ← exists_resolveTerm (s := 0), resolve, Option.isSome_map, Option.isSome_iff_exists]
  exact Prod.exists

/-! ### The scoped form -/

/-- Of the numbers from one state of the supply to another, `ids` has each one once, in order. -/
structure Supply.Numbers (s s' : Supply) (ids : List Nat) (count : Nat) : Prop where
  leads : s.Leads s'
  used : s'.used = s.used + count
  ids : s'.Fits → ids = List.range' s.used count

theorem Supply.Numbers.refl (s : Supply) : s.Numbers s [] 0 := ⟨.refl s, rfl, fun _ => rfl⟩

theorem Supply.Numbers.append {s s₁ s₂ : Supply} {ids ids' : List Nat} {count count' : Nat}
    (first : s.Numbers s₁ ids count) (second : s₁.Numbers s₂ ids' count') :
    s.Numbers s₂ (ids ++ ids') (count + count') where
  leads := first.leads.trans second.leads
  used := by rw [second.used, first.used, Nat.add_assoc]
  ids fits := by
    rw [first.ids (second.leads.fits fits), second.ids fits, first.used, List.range'_append_1]

/-- A new binder has the next number. -/
theorem Supply.Numbers.binder (s : Supply) (n : String) :
    s.Numbers (s.skip 1) [(⟨n, s.next⟩ : Ident).id] 1 where
  leads := ⟨Nat.le_succ _, rfl⟩
  used := rfl
  ids fits := by rw [(run_freshBinder (n := n) (x := ⟨n, s.next⟩) rfl).2.2 fits]; rfl

theorem numbers_resolveType {t : TypeExpr} {ty : Ty} (run : (resolveType sc t).run s = some (ty, s')) :
    s.Numbers s' ty.binders t.binders := by
  induction t generalizing sc s s' ty with
  | unit =>
    cases run
    exact .refl s
  | name n p =>
    obtain ⟨x, _, found, rest⟩ := run_bind_some.1 run
    cases rest
    obtain ⟨-, rfl⟩ := run_lookup.1 found
    exact .refl _
  | arrow a b iha ihb =>
    obtain ⟨_, _, first, rest⟩ := run_bind_some.1 run
    obtain ⟨_, _, second, rest⟩ := run_bind_some.1 rest
    cases rest
    exact (iha first).append (ihb second)
  | all n b ih =>
    obtain ⟨_, _, ⟨⟩, rest⟩ := run_bind_some.1 run
    obtain ⟨_, _, body, rest⟩ := run_bind_some.1 rest
    cases rest
    exact (Supply.Numbers.binder s n).append (ih body)

theorem numbers_resolveOptional {t : Option TypeExpr} {ty : Option Ty}
    (run : (resolveOptional t).run s = some (ty, s')) :
    s.Numbers s' (ty.elim [] Ty.binders) (t.elim 0 TypeExpr.binders) := by
  cases t with
  | none =>
    cases run
    exact .refl s
  | some t =>
    obtain ⟨_, _, type, rest⟩ := run_bind_some.1 run
    cases rest
    exact numbers_resolveType type

/-- The binders of a term are numbered in the order in which they are met. -/
theorem numbers_resolveTerm {t : Term} {e : Expr} (run : (resolveTerm sc t).run s = some (e, s')) :
    s.Numbers s' e.binders t.binders := by
  induction t generalizing sc s s' e with
  | var n p =>
    obtain ⟨x, _, found, rest⟩ := run_bind_some.1 run
    cases rest
    obtain ⟨-, rfl⟩ := run_lookup.1 found
    exact .refl _
  | unit p =>
    cases run
    exact .refl s
  | lam n b p ih =>
    obtain ⟨_, _, ⟨⟩, rest⟩ := run_bind_some.1 run
    obtain ⟨_, _, body, rest⟩ := run_bind_some.1 rest
    cases rest
    exact (Supply.Numbers.binder s n).append (ih body)
  | app f a ihf iha =>
    obtain ⟨_, _, first, rest⟩ := run_bind_some.1 run
    obtain ⟨_, _, second, rest⟩ := run_bind_some.1 rest
    cases rest
    exact (ihf first).append (iha second)
  | ann t ty p ih =>
    obtain ⟨_, _, expr, rest⟩ := run_bind_some.1 run
    obtain ⟨_, _, type, rest⟩ := run_bind_some.1 rest
    cases rest
    exact (ih expr).append (numbers_resolveType type)
  | letIn n ty v b p ihv ihb =>
    obtain ⟨_, _, type, rest⟩ := run_bind_some.1 run
    obtain ⟨_, _, value, rest⟩ := run_bind_some.1 rest
    obtain ⟨_, _, ⟨⟩, rest⟩ := run_bind_some.1 rest
    obtain ⟨_, _, body, rest⟩ := run_bind_some.1 rest
    cases rest
    exact ((numbers_resolveOptional type).append (ihv value)).append
      ((Supply.Numbers.binder _ n).append (ihb body))

theorem written_resolveType {t : TypeExpr} {ty : Ty} (run : (resolveType sc t).run s = some (ty, s')) :
    ty.written = t.erase ∧ ty.Linked sc := by
  induction t generalizing sc s s' ty with
  | unit =>
    cases run
    exact ⟨rfl, trivial⟩
  | name n p =>
    obtain ⟨x, _, found, rest⟩ := run_bind_some.1 run
    cases rest
    obtain ⟨rfl, innermost⟩ := Scope.innermost_of_find? (run_lookup.1 found).1
    exact ⟨rfl, innermost⟩
  | arrow a b iha ihb =>
    obtain ⟨_, _, first, rest⟩ := run_bind_some.1 run
    obtain ⟨_, _, second, rest⟩ := run_bind_some.1 rest
    cases rest
    obtain ⟨left, linkedLeft⟩ := iha first
    obtain ⟨right, linkedRight⟩ := ihb second
    exact ⟨by rw [Ty.written, left, right, TypeExpr.erase], linkedLeft, linkedRight⟩
  | all n b ih =>
    obtain ⟨_, _, ⟨⟩, rest⟩ := run_bind_some.1 run
    obtain ⟨_, _, body, rest⟩ := run_bind_some.1 rest
    cases rest
    obtain ⟨same, linked⟩ := ih body
    exact ⟨by rw [Ty.written, same, TypeExpr.erase], linked⟩

theorem written_resolveOptional {t : Option TypeExpr} {ty : Option Ty}
    (run : (resolveOptional t).run s = some (ty, s')) :
    ty.map Ty.written = t.map TypeExpr.erase ∧ ∀ u ∈ ty, u.Linked [] := by
  cases t with
  | none =>
    cases run
    exact ⟨rfl, nofun⟩
  | some t =>
    obtain ⟨u, _, type, rest⟩ := run_bind_some.1 run
    cases rest
    obtain ⟨same, linked⟩ := written_resolveType type
    refine ⟨congrArg some same, ?_⟩
    rintro _ ⟨⟩
    exact linked

/-- The scoped form of a term is written as the term is, and its variables are the innermost binders of their
names. -/
theorem written_resolveTerm {t : Term} {e : Expr} (run : (resolveTerm sc t).run s = some (e, s')) :
    e.written = t.erase ∧ e.Linked sc := by
  induction t generalizing sc s s' e with
  | var n p =>
    obtain ⟨x, _, found, rest⟩ := run_bind_some.1 run
    cases rest
    obtain ⟨rfl, innermost⟩ := Scope.innermost_of_find? (run_lookup.1 found).1
    exact ⟨rfl, innermost⟩
  | unit p =>
    cases run
    exact ⟨rfl, trivial⟩
  | lam n b p ih =>
    obtain ⟨_, _, ⟨⟩, rest⟩ := run_bind_some.1 run
    obtain ⟨_, _, body, rest⟩ := run_bind_some.1 rest
    cases rest
    obtain ⟨same, linked⟩ := ih body
    exact ⟨by rw [Expr.written, same, Term.erase], linked⟩
  | app f a ihf iha =>
    obtain ⟨_, _, first, rest⟩ := run_bind_some.1 run
    obtain ⟨_, _, second, rest⟩ := run_bind_some.1 rest
    cases rest
    obtain ⟨left, linkedLeft⟩ := ihf first
    obtain ⟨right, linkedRight⟩ := iha second
    exact ⟨by rw [Expr.written, left, right, Term.erase], linkedLeft, linkedRight⟩
  | ann t ty p ih =>
    obtain ⟨_, _, expr, rest⟩ := run_bind_some.1 run
    obtain ⟨_, _, type, rest⟩ := run_bind_some.1 rest
    cases rest
    obtain ⟨left, linkedExpr⟩ := ih expr
    obtain ⟨right, linkedType⟩ := written_resolveType type
    exact ⟨by rw [Expr.written, left, right, Term.erase], linkedExpr, linkedType⟩
  | letIn n ty v b p ihv ihb =>
    obtain ⟨_, _, type, rest⟩ := run_bind_some.1 run
    obtain ⟨_, _, value, rest⟩ := run_bind_some.1 rest
    obtain ⟨_, _, ⟨⟩, rest⟩ := run_bind_some.1 rest
    obtain ⟨_, _, body, rest⟩ := run_bind_some.1 rest
    cases rest
    obtain ⟨given, linkedType⟩ := written_resolveOptional type
    obtain ⟨inner, linkedValue⟩ := ihv value
    obtain ⟨outer, linkedBody⟩ := ihb body
    exact ⟨by rw [Expr.written, given, inner, outer, Term.erase], linkedType, linkedValue, linkedBody⟩

/-- Scoping succeeds just on the closed terms. What it gives is the term as written, its binders have the
numbers from 0 on, each one once, and every variable is the innermost binder of its name. -/
theorem resolve_correct {t : Term} (few : t.binders < 2 ^ 32) :
    ((resolve t).isSome = true ↔ t.Closed []) ∧
      ∀ e, resolve t = some e →
        e.written = t.erase ∧ e.binders.Nodup ∧ e.binders = List.range t.binders ∧ e.Linked [] := by
  refine ⟨resolve_isSome, fun e resolved => ?_⟩
  obtain ⟨⟨_, s⟩, run, rfl⟩ := Option.map_eq_some_iff.1 resolved
  obtain ⟨written, linked⟩ := written_resolveTerm run
  have numbers := numbers_resolveTerm run
  have fits : s.Fits := by
    refine .inr ?_
    rw [numbers.used, numbers.leads.2]
    exact Nat.le_of_lt (Nat.lt_of_le_of_lt (Nat.le_of_eq (Nat.zero_add _)) few)
  have ids := (numbers.ids fits).trans List.range_eq_range'.symm
  exact ⟨written, ids ▸ List.nodup_range, ids, linked⟩

/-- A definition that hides the parameter of its name, whose value still means the parameter. -/
theorem resolve_correct_shadow :
    let t : Term := .lam "x" (.letIn "x" (some (.all "a" (.name "a" .start))) (.var "x" .start)
      (.var "x" .start) .start) .start
    t.binders < 2 ^ 32 ∧
      ∃ e, resolve t = some e ∧ e.written = t.erase ∧ e.binders = [0, 1, 2] ∧ e.Linked [] := by
  intro t
  have few : t.binders < 2 ^ 32 := by decide
  have closed : t.Closed [] := by simp [t, Term.Closed, TypeExpr.Closed]
  obtain ⟨succeeds, correct⟩ := resolve_correct few
  obtain ⟨e, resolved⟩ := Option.isSome_iff_exists.1 (succeeds.2 closed)
  obtain ⟨written, -, ids, linked⟩ := correct e resolved
  exact ⟨few, e, resolved, written, ids, linked⟩

end TermBot.Scoped
