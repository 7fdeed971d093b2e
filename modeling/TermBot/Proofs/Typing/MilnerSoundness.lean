import TermBot.Proofs.Typing.InferenceSoundness
import TermBot.Proofs.Typing.Milner

/-!
# Inference without annotations gives schemes

For an expression without annotations a derivation of inference is one in the system of Damas and
Milner, under every valuation that satisfies the context it leaves: `Infers.milner`. Expressions are
checked against monotypes only there, and what the variables of the context have are schemes
(`Context.Schemes`), so that subsumption is instantiation.
-/

namespace TermBot.Typing

open Scoped

/-- The types of the variables are schemes, under every valuation. -/
def Context.Schemes (c : Context) : Prop :=
  ∀ {Δ : Finset Nat} {σ : Nat → Poly}, (∀ x ∈ Δ, c.allocated ≤ x) → Sat Δ σ c.entries →
    (env σ c.entries).Schemes (scope Δ c.entries)

/-- What a goal says in the system of Damas and Milner. -/
def Goal.Milner (Δ : Finset Nat) (Γ : Env) (σ : Nat → Poly) : Goal → Prop
  | .check e t => t.isMono = true → Typing.Milner Δ Γ e (t.read σ [])
  | .synth e t | .bind _ e t => Typing.Milner Δ Γ e (t.read σ [])
  | .apply f arg t => ∀ fn, Typing.Milner Δ Γ fn (f.read σ []) → Typing.Milner Δ Γ (.app fn arg) (t.read σ [])

section Schemes

variable {c c' : Context} {x : Ident} {t : Ty}

theorem Context.Schemes.leads (schemes : c.Schemes) (leads : Leads c c') : c'.Schemes := by
  intro Δ σ base sat
  rw [leads.ext.env_eq, leads.scope_eq]
  exact schemes (leads.above base) (sat.of_extends leads.ext)

/-- A binding of a name to what is a scheme under every valuation. -/
theorem Context.Schemes.pushTerm (schemes : c.Schemes)
    (scheme : ∀ {Δ σ}, (∀ x ∈ Δ, c.allocated ≤ x) → Sat Δ σ c.entries →
      (t.read σ []).Scheme ∧ (t.read σ []).Within (scope Δ c.entries) 0) : (c.push [.term x t]).Schemes := by
  intro Δ σ base sat
  have before := (sat_append.1 sat).1
  obtain ⟨here, within⟩ := scheme base before
  rw [env_push, scope_push]
  exact (schemes base before).cons here within

theorem Context.Schemes.pushMono (schemes : c.Schemes) (mono : t.isMono = true)
    (within : InScope c.entries [] t) : (c.push [.term x t]).Schemes := by
  exact schemes.pushTerm fun _ sat => ⟨(sat.read_mono within mono).scheme, sat.within within⟩

theorem Context.Schemes.withMarker (schemes : c.Schemes) : c.withMarker.Schemes := by
  intro Δ σ base sat
  rw [scope_withMarker, env_withMarker]
  exact schemes (fun x mem => Nat.le_of_succ_le (base x mem)) (sat_append.1 sat).1

theorem Context.Schemes.withLambda (schemes : c.Schemes) : (c.withLambda x).Schemes := by
  intro Δ σ base sat
  have grows : c.allocated ≤ (c.withLambda x).allocated := by
    simp [Context.withLambda, Context.allocated, Supply.skip]
  have before := schemes (fun x mem => Nat.le_trans grows (base x mem)) (sat_append.1 sat).1
  have image := sat.ex (i := c.allocated + 1) (by simp [Context.withLambda])
  rw [scope_withLambda] at image
  rw [scope_withLambda, env_withLambda]
  exact before.cons image.1.scheme image.2

end Schemes

/-- On `c` the value has the type, under every valuation of the context `c'` that inference leads to. -/
def BoundTo (c c' : Context) (value : Expr) (t : Ty) : Prop :=
  ∀ {Δ : Finset Nat} {σ : Nat → Poly}, (∀ x ∈ Δ, c'.allocated ≤ x) → Sat Δ σ c'.entries →
    Milner (scope Δ c.entries) (env σ c.entries) value (t.read σ [])

section Binding

variable {c c₁ c₂ : Context} {x : Ident} {value e : Expr} {bound : Ty}

/-- A name that is bound to the type of its value. -/
theorem Context.Schemes.pushBound (schemes : c.Schemes) (leads : Leads c c₁)
    (holds : BoundTo c c₁ value bound) : (c₁.push [.term x bound]).Schemes := by
  refine Context.Schemes.pushTerm (schemes.leads leads) fun base sat => ?_
  rw [leads.scope_eq]
  exact (holds base sat).scheme (schemes (leads.above base) (sat.of_extends leads.ext))

/-- The body of a binding in the scope of its name. -/
theorem BoundTo.letIn {Δ : Finset Nat} {σ : Nat → Poly} {ann : Option Ty} {B : Poly}
    (holds : BoundTo c c₁ value bound) (first : Leads c c₁) (second : Leads (c₁.push [.term x bound]) c₂)
    (none : ann.toList = []) (schemes : c.Schemes) (base : ∀ x ∈ Δ, c₂.allocated ≤ x)
    (sat : Sat Δ σ c₂.entries)
    (typed : Milner (scope Δ (c₁.push [.term x bound]).entries)
      (env σ (c₁.push [.term x bound]).entries) e B) :
    Milner (scope Δ c.entries) (env σ c.entries) (.letIn x ann value e) B := by
  have base₁ : ∀ x ∈ Δ, c₁.allocated ≤ x := second.above base
  have sat₁ : Sat Δ σ c₁.entries := (sat_append.1 (sat.of_extends second.ext)).1
  rw [scope_push, first.scope_eq, env_push, first.ext.env_eq] at typed
  rw [Option.toList_eq_nil_iff.1 none]
  exact (holds base₁ sat₁).letScheme typed (schemes (first.above base₁) (sat₁.of_extends first.ext))

end Binding

/-- Inference without annotations is sound for the system of Damas and Milner. -/
theorem Infers.milner {c c' : Context} {goal : Goal} (infers : Infers c goal c') {Δ : Finset Nat}
    {σ : Nat → Poly} (posed : goal.Posed c) (plain : goal.annotations = []) (schemes : c.Schemes)
    (base : ∀ x ∈ Δ, c'.allocated ≤ x) (sat : Sat Δ σ c'.entries) :
    goal.Milner (scope Δ c.entries) (env σ c.entries) σ := by
  induction infers generalizing Δ σ with
  | checkAll => simp [Goal.Milner, Ty.isMono]
  | checkUnit => exact fun _ => .unit
  | @checkLam c c' x e dom cod body ih =>
    intro mono
    have inner := posed.checkLam
    have parts := inScope_arrow.1 posed.input
    have monos : dom.isMono = true ∧ cod.isMono = true := by simpa [Ty.isMono] using mono
    have leads := inner.leads body
    obtain ⟨σ', sat', kept⟩ := leads.reenter rfl (by simp) sat
    rw [allocated_dropFrom] at base
    have satC := (sat_append.1 (sat'.of_extends leads.ext)).1
    have typed := ih inner plain (schemes.pushMono monos.1 parts.1) base sat' monos.2
    rw [scope_push, env_push] at typed
    have rule := Milner.lam (satC.read_mono parts.1 monos.1) (satC.within parts.1)
      (satC.read_mono parts.2 monos.2) typed
    rw [env_congr posed.valid.ordered kept] at rule
    rw [← Ty.read_congr fun j mem => kept j (InScope.mem_exIds posed.input mem)]
    exact rule
  | @checkLet c c₁ c₂ x ann value e bound t binding body ihBinding ihBody =>
    intro mono
    obtain ⟨plainBinding, plainBody⟩ := List.append_eq_nil_iff.1 plain
    obtain ⟨first, within, apart⟩ := binding.gives posed.checkBinding rfl
    have inner := posed.checkBody first within apart
    have second := inner.leads body
    rw [allocated_remove] at base
    have sat₂ := second.reenterTerm sat
    have holds : BoundTo c c₁ value bound := fun base sat =>
      ihBinding posed.checkBinding plainBinding schemes base sat
    refine holds.letIn first second (List.append_eq_nil_iff.1 plainBinding).1 schemes base sat₂ ?_
    exact ihBody inner plainBody (schemes.pushBound first holds) base sat₂ mono
  | @checkSub c c₁ c₂ e s t synth sub ih =>
    intro mono
    have first := posed.checkSynth.leads synth
    have second := (sub.advances first.valid).leads
    have sat₁ := sat.of_extends second.ext
    have typed := ih posed.checkSynth plain schemes (second.above base) sat₁
    have satC := sat₁.of_extends first.ext
    have scheme := (typed.scheme (schemes (first.above (second.above base)) satC)).1
    exact .inst typed (.inst (.of_sub (synth.sub sub posed base sat) scheme (satC.read_mono posed.input mono)))
  | var found => exact .var (lookup_env found)
  | unit => exact .unit
  | ann => simp [Goal.annotations, Expr.annotations] at plain
  | @lam c c₁ c₂ x e t body gen ih =>
    have inner := posed.synthLam
    have leads := inner.leads body
    refine Generalizing.lambda .gen posed leads gen (fun {Δ σ} base sat => ?_) base sat
    have typed : Milner (scope Δ (c.withLambda x).entries) (env σ (c.withLambda x).entries) e
        (σ (c.allocated + 2)) := ih inner plain schemes.withLambda base sat rfl
    have before := sat.of_extends leads.ext
    have dom := before.ex (i := c.allocated + 1) (by simp [Context.withLambda])
    have cod := before.ex (i := c.allocated + 2) (by simp [Context.withLambda])
    rw [scope_withLambda] at typed dom
    rw [env_withLambda] at typed
    exact .lam dom.1 dom.2 cod.1 typed
  | @app c c₁ c₂ fn arg s t fnType applied ihFn ihApply =>
    obtain ⟨plainFn, plainArg⟩ := List.append_eq_nil_iff.1 plain
    obtain ⟨first, output, apart⟩ := fnType.gives posed.synthFn rfl
    have inner := posed.synthArg first output apart
    have second := inner.leads applied
    have sat₁ := sat.of_extends second.ext
    have fnTyped := ihFn posed.synthFn plainFn schemes (second.above base) sat₁
    have rule := ihApply inner plainArg (schemes.leads first) base sat
    rw [Goal.Milner, sat₁.read_apply first.valid (fun _ => output.mem_exIds) apart, first.scope_eq,
      first.ext.env_eq] at rule
    exact rule fn fnTyped
  | @letIn c c₁ c₂ x ann value e bound t binding body ihBinding ihBody =>
    obtain ⟨plainBinding, plainBody⟩ := List.append_eq_nil_iff.1 plain
    obtain ⟨first, within, apart⟩ := binding.gives posed.synthBinding rfl
    have inner := posed.synthBody first within apart
    have second := inner.leads body
    rw [allocated_remove] at base
    have sat₂ := second.reenterTerm sat
    have holds : BoundTo c c₁ value bound := fun base sat =>
      ihBinding posed.synthBinding plainBinding schemes base sat
    refine holds.letIn first second (List.append_eq_nil_iff.1 plainBinding).1 schemes base sat₂ ?_
    exact ihBody inner plainBody (schemes.pushBound first holds) base sat₂
  | @applyAll c c' v b t arg body ih =>
    have opened := Leads.withUnsolved posed.valid
    have leads := posed.applyAll.leads body
    have satU := sat.of_extends leads.ext
    have rule := ih posed.applyAll plain (schemes.leads opened) base sat
    rw [Goal.Milner, opened.scope_eq, opened.ext.env_eq] at rule
    have start := schemes (opened.above (leads.above base)) (satU.of_extends opened.ext)
    intro fn fnTyped
    obtain ⟨scheme, closed⟩ := fnTyped.scheme start
    obtain ⟨read, mono, image⟩ := satU.read_unsolvedBody posed.input
    refine rule fn (fnTyped.inst ?_)
    rw [read]
    exact .openWith mono image scheme closed
  | @applyEx c c' i arg before after split checked ih =>
    have opened := (Advances.withArrow posed.valid split).leads
    have inner := posed.applyEx split
    have before' := sat.of_extends (inner.leads checked).ext
    have solution : σ i = .arrow (σ (c.allocated + 1)) (σ c.allocated) :=
      before'.solved (t := .arrow (.ex (c.allocated + 1)) (.ex c.allocated)) (by simp [Context.withArrow])
    have typed := ih inner plain (schemes.leads opened) base sat rfl
    rw [opened.scope_eq, opened.ext.env_eq] at typed
    have dom := (before'.ex (i := c.allocated + 1) (by simp [Context.withArrow])).1
    have cod := (before'.ex (i := c.allocated) (by simp [Context.withArrow])).1
    intro fn fnTyped
    rw [Ty.read, solution] at fnTyped
    exact .app dom cod fnTyped typed
  | @applyArrow c c' dom cod arg checked ih =>
    have leads := posed.applyArrow.leads checked
    have start := schemes (leads.above base) (sat.of_extends leads.ext)
    intro fn fnTyped
    have mono : ((Ty.arrow dom cod).read σ []).Mono := (fnTyped.scheme start).1
    have typed := ih posed.applyArrow plain schemes base sat (Ty.isMono_of_read mono.1)
    exact .app mono.1 mono.2 fnTyped typed
  | annotated => simp [Goal.annotations] at plain
  | generalized synth gen ih =>
    exact Generalizing.binding .gen posed synth gen (ih posed.bindGeneralized plain schemes.withMarker) base sat

end TermBot.Typing
