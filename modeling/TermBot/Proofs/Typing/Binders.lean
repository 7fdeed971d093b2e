import TermBot.Proofs.Typing.Annotations

/-!
# Binders of scoped expressions

Scoping numbers binders in the order in which it meets them. While its numbers do not run out, no
binder has the number of one around it (`bindsNew_of_resolveTerm`), and all numbers of the expression were
given out by scoping (`maxId_lt_of_resolveTerm`).
-/

namespace TermBot.Scoped

open Surface (Term TypeExpr)

/-- No binder has one of the numbers `outer`, nor that of a binder around it. -/
def Expr.BindsNew (outer : List Nat) : Expr → Prop
  | .var _ | .unit => True
  | .lam x b => x.id ∉ outer ∧ b.BindsNew (x.id :: outer)
  | .app f a => f.BindsNew outer ∧ a.BindsNew outer
  | .ann e _ => e.BindsNew outer
  | .letIn x _ v b => v.BindsNew outer ∧ x.id ∉ outer ∧ b.BindsNew (x.id :: outer)

theorem Expr.BindsNew.mono {e : Expr} {outer outer' : List Nat} (new : e.BindsNew outer)
    (sub : outer' ⊆ outer) : e.BindsNew outer' := by
  induction e generalizing outer outer' with
  | var | unit => trivial
  | lam x b ih => exact ⟨fun mem => new.1 (sub mem), ih new.2 (List.cons_subset_cons _ sub)⟩
  | app f a ihf iha => exact ⟨ihf new.1 sub, iha new.2 sub⟩
  | ann e t ih => exact ih new sub
  | letIn x t v b ihv ihb =>
    exact ⟨ihv new.1 sub, fun mem => new.2.1 (sub mem), ihb new.2.2 (List.cons_subset_cons _ sub)⟩

/-- The second supply is a later state of the first one. -/
def Supply.Leads (s s' : Supply) : Prop := s.used ≤ s'.used ∧ s'.size = s.size

theorem Supply.Leads.refl (s : Supply) : s.Leads s := ⟨Nat.le_refl _, rfl⟩

theorem Supply.Leads.trans {s s' s'' : Supply} (first : s.Leads s') (second : s'.Leads s'') : s.Leads s'' :=
  ⟨Nat.le_trans first.1 second.1, second.2.trans first.2⟩

/-- The supply did not start again. -/
def Supply.Fits (s : Supply) : Prop := s.size = 0 ∨ s.used ≤ s.size

theorem Supply.Leads.fits {s s' : Supply} (leads : s.Leads s') (fits : s'.Fits) : s.Fits :=
  fits.imp (fun h => leads.2 ▸ h) fun h => Nat.le_trans leads.1 (leads.2 ▸ h)

/-- The binders of the scope have numbers that were given out. -/
def Scope.Below (sc : Scope) (s : Supply) : Prop := ∀ v ∈ sc, v.id < s.used

theorem Scope.Below.leads {sc : Scope} {s s' : Supply} (below : sc.Below s) (leads : s.Leads s') :
    sc.Below s' := fun v mem => Nat.lt_of_lt_of_le (below v mem) leads.1

section Resolve

variable {sc : Scope} {s s' : Supply} {n : String} {x : Ident}

theorem run_freshBinder (run : (freshBinder n).run s = some (x, s')) :
    s.Leads s' ∧ s'.used = s.used + 1 ∧ (s'.Fits → x.id = s.used) := by
  cases run
  refine ⟨⟨Nat.le_succ _, rfl⟩, rfl, ?_⟩
  rintro (zero | le)
  · have zero : s.size = 0 := zero
    simp only [Supply.next, Supply.wrap, zero, Nat.mod_zero]
  · exact Nat.mod_eq_of_lt le

theorem run_find? (run : (liftM (sc.find? n) : StateT Supply Option Ident).run s = some (x, s')) :
    x ∈ sc ∧ s' = s := by
  cases found : sc.find? n with
  | none =>
    rw [found] at run
    cases run
  | some v =>
    rw [found] at run
    cases run
    exact ⟨List.mem_of_find?_eq_some found, rfl⟩

/-- A new binder in front of the scope. -/
theorem Scope.Below.push (below : sc.Below s) (run : (freshBinder n).run s = some (x, s')) (fits : s'.Fits) :
    Scope.Below (x :: sc) s' := by
  obtain ⟨leads, used, number⟩ := run_freshBinder run
  refine List.forall_mem_cons.2 ⟨?_, below.leads leads⟩
  rw [number fits, used]
  exact Nat.lt_succ_self _

theorem leads_of_resolveType {t : TypeExpr} {ty : Ty} (run : (resolveType sc t).run s = some (ty, s')) :
    s.Leads s' := by
  induction t generalizing sc s s' ty with
  | unit =>
    cases run
    exact .refl s
  | name n p =>
    obtain ⟨_, _, found, rest⟩ := run_bind_some.1 run
    cases rest
    obtain ⟨-, rfl⟩ := run_find? found
    exact .refl _
  | arrow a b iha ihb =>
    obtain ⟨_, _, first, rest⟩ := run_bind_some.1 run
    obtain ⟨_, _, second, rest⟩ := run_bind_some.1 rest
    cases rest
    exact (iha first).trans (ihb second)
  | all n b ih =>
    obtain ⟨_, _, binder, rest⟩ := run_bind_some.1 run
    obtain ⟨_, _, body, rest⟩ := run_bind_some.1 rest
    cases rest
    exact (run_freshBinder binder).1.trans (ih body)

theorem maxId_lt_of_resolveType {t : TypeExpr} {ty : Ty} (run : (resolveType sc t).run s = some (ty, s'))
    (fits : s'.Fits) (below : sc.Below s) : ty.maxId < max 1 s'.used := by
  induction t generalizing sc s s' ty with
  | unit =>
    cases run
    rw [Ty.maxId]
    omega
  | name n p =>
    obtain ⟨v, _, found, rest⟩ := run_bind_some.1 run
    cases rest
    obtain ⟨mem, rfl⟩ := run_find? found
    have lt := below v mem
    rw [Ty.maxId]
    omega
  | arrow a b iha ihb =>
    obtain ⟨_, _, first, rest⟩ := run_bind_some.1 run
    obtain ⟨_, _, second, rest⟩ := run_bind_some.1 rest
    cases rest
    have between := leads_of_resolveType second
    have left := iha first (between.fits fits) below
    have right := ihb second fits (below.leads (leads_of_resolveType first))
    have le := between.1
    rw [Ty.maxId]
    omega
  | all n b ih =>
    obtain ⟨v, _, binder, rest⟩ := run_bind_some.1 run
    obtain ⟨_, _, body, rest⟩ := run_bind_some.1 rest
    cases rest
    have between := leads_of_resolveType body
    have inner := below.push binder (between.fits fits)
    have right := ih body fits inner
    have left : v.id < _ := inner v List.mem_cons_self
    have le := between.1
    rw [Ty.maxId]
    omega

theorem leads_of_resolveOptional {t : Option TypeExpr} {ty : Option Ty}
    (run : (resolveOptional t).run s = some (ty, s')) : s.Leads s' := by
  cases t with
  | none =>
    cases run
    exact .refl s
  | some t =>
    obtain ⟨_, _, inner, rest⟩ := run_bind_some.1 run
    cases rest
    exact leads_of_resolveType inner

theorem leads_of_resolveTerm {t : Term} {e : Expr} (run : (resolveTerm sc t).run s = some (e, s')) :
    s.Leads s' := by
  induction t generalizing sc s s' e with
  | var n p =>
    obtain ⟨_, _, found, rest⟩ := run_bind_some.1 run
    cases rest
    obtain ⟨-, rfl⟩ := run_find? found
    exact .refl _
  | unit p =>
    cases run
    exact .refl s
  | lam n b p ih =>
    obtain ⟨_, _, binder, rest⟩ := run_bind_some.1 run
    obtain ⟨_, _, body, rest⟩ := run_bind_some.1 rest
    cases rest
    exact (run_freshBinder binder).1.trans (ih body)
  | app f a ihf iha =>
    obtain ⟨_, _, first, rest⟩ := run_bind_some.1 run
    obtain ⟨_, _, second, rest⟩ := run_bind_some.1 rest
    cases rest
    exact (ihf first).trans (iha second)
  | ann t ty p ih =>
    obtain ⟨_, _, expr, rest⟩ := run_bind_some.1 run
    obtain ⟨_, _, type, rest⟩ := run_bind_some.1 rest
    cases rest
    exact (ih expr).trans (leads_of_resolveType type)
  | letIn n ty v b p ihv ihb =>
    obtain ⟨_, _, type, rest⟩ := run_bind_some.1 run
    obtain ⟨_, _, value, rest⟩ := run_bind_some.1 rest
    obtain ⟨_, _, binder, rest⟩ := run_bind_some.1 rest
    obtain ⟨_, _, body, rest⟩ := run_bind_some.1 rest
    cases rest
    exact (((leads_of_resolveOptional type).trans (ihv value)).trans (run_freshBinder binder).1).trans
      (ihb body)

/-- While numbers do not run out, no binder has the number of one around it. -/
theorem bindsNew_of_resolveTerm {t : Term} {e : Expr} {outer : List Nat}
    (run : (resolveTerm sc t).run s = some (e, s')) (fits : s'.Fits) (old : ∀ x ∈ outer, x < s.used) :
    e.BindsNew outer := by
  induction t generalizing sc s s' e outer with
  | var n p =>
    obtain ⟨_, _, -, rest⟩ := run_bind_some.1 run
    cases rest
    trivial
  | unit p =>
    cases run
    trivial
  | lam n b p ih =>
    obtain ⟨x, s₁, binder, rest⟩ := run_bind_some.1 run
    obtain ⟨_, _, body, rest⟩ := run_bind_some.1 rest
    cases rest
    obtain ⟨-, used, number⟩ := run_freshBinder binder
    have number := number ((leads_of_resolveTerm body).fits fits)
    refine ⟨fun mem => ?_, ih body fits (List.forall_mem_cons.2 ⟨by omega, fun y mem => ?_⟩)⟩
    · exact Nat.lt_irrefl _ (number ▸ old _ mem)
    · have lt := old y mem
      omega
  | app f a ihf iha =>
    obtain ⟨_, _, first, rest⟩ := run_bind_some.1 run
    obtain ⟨_, _, second, rest⟩ := run_bind_some.1 rest
    cases rest
    refine ⟨ihf first ((leads_of_resolveTerm second).fits fits) old, iha second fits fun x mem => ?_⟩
    exact Nat.lt_of_lt_of_le (old x mem) (leads_of_resolveTerm first).1
  | ann t ty p ih =>
    obtain ⟨_, _, expr, rest⟩ := run_bind_some.1 run
    obtain ⟨_, _, type, rest⟩ := run_bind_some.1 rest
    cases rest
    have inner := ih expr ((leads_of_resolveType type).fits fits) old
    exact inner
  | letIn n ty v b p ihv ihb =>
    obtain ⟨_, s₁, type, rest⟩ := run_bind_some.1 run
    obtain ⟨_, s₂, value, rest⟩ := run_bind_some.1 rest
    obtain ⟨x, s₃, binder, rest⟩ := run_bind_some.1 rest
    obtain ⟨_, _, body, rest⟩ := run_bind_some.1 rest
    cases rest
    obtain ⟨more, used, number⟩ := run_freshBinder binder
    have fits₃ := (leads_of_resolveTerm body).fits fits
    have number := number fits₃
    have old₁ : ∀ y ∈ outer, y < s₁.used := fun y mem =>
      Nat.lt_of_lt_of_le (old y mem) (leads_of_resolveOptional type).1
    have old₂ : ∀ y ∈ outer, y < s₂.used := fun y mem =>
      Nat.lt_of_lt_of_le (old₁ y mem) (leads_of_resolveTerm value).1
    refine ⟨ihv value (more.fits fits₃) old₁, fun mem => ?_,
      ihb body fits (List.forall_mem_cons.2 ⟨by omega, fun y mem => ?_⟩)⟩
    · exact Nat.lt_irrefl _ (number ▸ old₂ _ mem)
    · have lt := old₂ y mem
      omega

/-- The numbers of a scoped expression were given out while scoping. -/
theorem maxId_lt_of_resolveTerm {t : Term} {e : Expr} (run : (resolveTerm sc t).run s = some (e, s'))
    (fits : s'.Fits) (below : sc.Below s) : e.maxId < max 1 s'.used := by
  induction t generalizing sc s s' e with
  | var n p =>
    obtain ⟨v, _, found, rest⟩ := run_bind_some.1 run
    cases rest
    obtain ⟨mem, rfl⟩ := run_find? found
    have lt := below v mem
    rw [Expr.maxId]
    omega
  | unit p =>
    cases run
    rw [Expr.maxId]
    omega
  | lam n b p ih =>
    obtain ⟨x, _, binder, rest⟩ := run_bind_some.1 run
    obtain ⟨_, _, body, rest⟩ := run_bind_some.1 rest
    cases rest
    have between := leads_of_resolveTerm body
    have inner := below.push binder (between.fits fits)
    have left : x.id < _ := inner x List.mem_cons_self
    have right := ih body fits inner
    have le := between.1
    rw [Expr.maxId]
    omega
  | app f a ihf iha =>
    obtain ⟨_, _, first, rest⟩ := run_bind_some.1 run
    obtain ⟨_, _, second, rest⟩ := run_bind_some.1 rest
    cases rest
    have between := leads_of_resolveTerm second
    have left := ihf first (between.fits fits) below
    have right := iha second fits (below.leads (leads_of_resolveTerm first))
    have le := between.1
    rw [Expr.maxId]
    omega
  | ann t ty p ih =>
    obtain ⟨_, _, expr, rest⟩ := run_bind_some.1 run
    obtain ⟨_, _, type, rest⟩ := run_bind_some.1 rest
    cases rest
    have between := leads_of_resolveType type
    have left := ih expr (between.fits fits) below
    have right := maxId_lt_of_resolveType type fits (by simp [Scope.Below])
    have le := between.1
    rw [Expr.maxId]
    omega
  | letIn n ty v b p ihv ihb =>
    obtain ⟨ann, s₁, type, rest⟩ := run_bind_some.1 run
    obtain ⟨_, s₂, value, rest⟩ := run_bind_some.1 rest
    obtain ⟨x, s₃, binder, rest⟩ := run_bind_some.1 rest
    obtain ⟨_, _, body, rest⟩ := run_bind_some.1 rest
    cases rest
    obtain ⟨more, -, -⟩ := run_freshBinder binder
    have last := leads_of_resolveTerm body
    have middle := leads_of_resolveTerm value
    have fits₂ := more.fits (last.fits fits)
    have below₁ := below.leads (leads_of_resolveOptional type)
    have inner := (below₁.leads middle).push binder (last.fits fits)
    have noted : ann.elim 0 Ty.maxId < max 1 s₁.used := by
      cases ty with
      | none =>
        cases type
        exact Nat.lt_of_lt_of_le Nat.zero_lt_one (Nat.le_max_left _ _)
      | some t =>
        obtain ⟨_, _, type, rest⟩ := run_bind_some.1 type
        cases rest
        exact maxId_lt_of_resolveType type (middle.fits fits₂) (by simp [Scope.Below])
    have left := ihv value fits₂ below₁
    have name : x.id < _ := inner x List.mem_cons_self
    have right := ihb body fits inner
    have le₁ := middle.1
    have le₂ := more.1
    have le₃ := last.1
    rw [Expr.maxId]
    omega

end Resolve

end TermBot.Scoped
