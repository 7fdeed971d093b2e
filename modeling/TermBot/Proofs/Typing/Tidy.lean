import TermBot.Proofs.Typing.Annotations
import TermBot.Proofs.Typing.Leads

/-!
# Binders that capture nothing

Substitution and reading compare numbers, so the binders of a type must not be rigid variables of the
context (`Context.Apart`). `Context.Tidy` asks this of the term variables of a context and of the
annotations of an expression; inference then gives a type of this kind too: `Infers.apart`.
-/

namespace TermBot.Typing

open Scoped

/-- The types that a goal is given. -/
def Goal.given : Goal → List Ty
  | .check _ t | .apply t _ _ => [t]
  | _ => []

/-- The type that a goal asks for. -/
def Goal.result : Goal → List Ty
  | .check .. => []
  | .synth _ t | .apply _ _ t | .bind _ _ t => [t]

/-- The annotations in the expression of a goal. -/
def Goal.annotations : Goal → List Ty
  | .check e _ | .synth e _ | .apply _ e _ => e.annotations
  | .bind ann e _ => ann.toList ++ e.annotations

/-- No binder captures a variable: neither one in the types of the term variables nor one in the
annotations of an expression, which have no existentials either. -/
structure Context.Tidy (c : Context) (annotations : List Ty) : Prop where
  terms : ∀ {x t}, .term x t ∈ c.entries → c.Apart t
  annotations : ∀ t ∈ annotations, t.exOccurrences = [] ∧ c.Apart t

section Tidy

variable {c c' : Context} {l l' : List Ty} {t b u : Ty} {v x : Ident}

theorem Context.Apart.leads (apart : c.Apart t) (leads : Leads c c') : c'.Apart t :=
  apart.step leads.grows fun _ mem => .inl (leads.ext.rigidIds_eq ▸ mem)

theorem Context.Apart.pushTerm (apart : c.Apart t) : (c.push [.term x u]).Apart t :=
  apart.step (Nat.le_refl _) fun _ mem => .inl (by simpa [Context.push] using mem)

theorem Context.Apart.remove {k : EntryKind} {i : Nat} (apart : c.Apart t) : (c.remove k i).Apart t := by
  rw [Context.remove]
  split
  · exact apart.step (Nat.le_refl _) fun _ mem =>
      .inl ((List.Sublist.filterMap _ (List.eraseIdx_sublist ..)).subset mem)
  · exact apart

theorem Context.Apart.unsolvedBody (apart : c.Apart (.all v b)) (valid : c.Valid) :
    c.withUnsolved.Apart (b.substVar v.id (.ex c.allocated)) := by
  rw [Context.Apart, Ty.binders_substVar rfl]
  exact apart.body.leads (Leads.withUnsolved valid)

theorem Context.Tidy.step (tidy : c.Tidy l) (grows : c.allocated ≤ c'.allocated)
    (rigids : ∀ x ∈ rigidIds c'.entries, x ∈ rigidIds c.entries ∨ c.allocated ≤ x)
    (terms : ∀ {x t}, .term x t ∈ c'.entries → .term x t ∈ c.entries ∨ c'.Apart t) : c'.Tidy l where
  terms mem := (terms mem).elim (fun mem => (tidy.terms mem).step grows rigids) id
  annotations t mem := ⟨(tidy.annotations t mem).1, (tidy.annotations t mem).2.step grows rigids⟩

theorem Context.Tidy.mono (tidy : c.Tidy l) (sub : l' ⊆ l) : c.Tidy l' :=
  ⟨tidy.terms, fun t mem => tidy.annotations t (sub mem)⟩

theorem Context.Tidy.leads (tidy : c.Tidy l) (leads : Leads c c') : c'.Tidy l :=
  tidy.step leads.grows (fun _ mem => .inl (leads.ext.rigidIds_eq ▸ mem)) fun mem =>
    .inl (leads.ext.mem_of_fixed mem rfl)

/-- Entries added at the end. -/
theorem Context.Tidy.append {es : List Entry} {s : Supply} (tidy : c.Tidy l) (grows : c.allocated ≤ s.used)
    (rigids : ∀ x ∈ rigidIds es, c.allocated ≤ x) (terms : ∀ {x t}, .term x t ∈ es → c.Apart t) :
    (⟨c.entries ++ es, s⟩ : Context).Tidy l := by
  have all : ∀ x ∈ rigidIds (c.entries ++ es), x ∈ rigidIds c.entries ∨ c.allocated ≤ x := by
    intro x mem
    rw [rigidIds_append, List.mem_append] at mem
    exact mem.imp id (rigids x)
  refine tidy.step grows all fun mem => ?_
  exact (List.mem_append.1 mem).imp id fun mem => (terms mem).step grows all

theorem Context.Tidy.push (tidy : c.Tidy l) (apart : c.Apart t) : (c.push [.term x t]).Tidy l := by
  refine tidy.append (Nat.le_refl _) (by simp) fun mem => ?_
  cases List.mem_singleton.1 mem
  exact apart

theorem Context.Tidy.withRigid (tidy : c.Tidy l) : (c.withRigid v).Tidy l :=
  tidy.append (by simp [Supply.skip, Context.allocated]) (by simp) (by simp)

theorem Context.Tidy.withLambda (tidy : c.Tidy l) : (c.withLambda x).Tidy l := by
  refine tidy.append (by simp [Supply.skip, Context.allocated]) (by simp) fun mem => ?_
  simp only [List.mem_cons, List.not_mem_nil, or_false, reduceCtorEq, false_or, Entry.term.injEq] at mem
  exact mem.2 ▸ apart_of_mono rfl

theorem Context.Tidy.withMarker (tidy : c.Tidy l) : c.withMarker.Tidy l :=
  tidy.append (by simp [Supply.skip, Context.allocated]) (by simp) (by simp)

end Tidy

/-! ### Goals that may be posed -/

/-- A goal may be posed on a context that is valid and does not run out of numbers, if the type that the goal is
given is in scope there and no binder captures a variable. -/
structure Goal.Posed (goal : Goal) (c : Context) : Prop where
  valid : c.Valid
  unlimited : c.supply.size = 0
  input : goal.Input c.entries
  tidy : c.Tidy goal.annotations
  given : ∀ t ∈ goal.given, c.Apart t

namespace Goal.Posed

variable {c c₁ : Context} {goal : Goal} {x v : Ident} {e value fn arg : Expr} {ann : Option Ty}
  {s t b dom cod bound : Ty} {i : Nat} {before after : List Entry}

theorem leads (posed : goal.Posed c) (infers : Infers c goal c₁) : Leads c c₁ :=
  (infers.leads posed.valid posed.unlimited posed.input).1

theorem checkAll (posed : (check e (.all v b)).Posed c) : (check e (c.rigidBody v b)).Posed (c.withRigid v) where
  valid := posed.valid.withRigid
  unlimited := posed.unlimited
  input := InScope.rigidBody posed.input
  tidy := posed.tidy.withRigid
  given := by simpa [Goal.given] using (posed.given (.all v b) (by simp [Goal.given])).rigidBody

theorem checkLam (posed : (check (.lam x e) (.arrow dom cod)).Posed c) : (check e cod).Posed (c.push [.term x dom]) where
  valid := posed.valid.pushTerm (inScope_arrow.1 posed.input).1
  unlimited := posed.unlimited
  input := (inScope_arrow.1 posed.input).2.append_right
  tidy := posed.tidy.push (apart_arrow.1 (posed.given (.arrow dom cod) (by simp [Goal.given]))).1
  given := by
    have apart : c.Apart dom ∧ c.Apart cod := apart_arrow.1 (posed.given _ (by simp [Goal.given]))
    simpa [Goal.given] using apart.2.pushTerm

theorem checkBinding (posed : (check (.letIn x ann value e) t).Posed c) : (bind ann value bound).Posed c where
  valid := posed.valid
  unlimited := posed.unlimited
  input := trivial
  tidy := posed.tidy.mono (List.subset_append_left _ _)
  given := by simp [Goal.given]

theorem checkBody (posed : (check (.letIn x ann value e) t).Posed c) (leads : Leads c c₁)
    (within : InScope c₁.entries [] bound) (apart : c₁.Apart bound) :
    (check e t).Posed (c₁.push [.term x bound]) where
  valid := leads.valid.pushTerm within
  unlimited := leads.size.trans posed.unlimited
  input := (leads.ext.inScope posed.input).append_right
  tidy := ((posed.tidy.mono (List.subset_append_right _ _)).leads leads).push apart
  given := by
    have here := ((posed.given t (by simp [Goal.given])).leads leads).pushTerm (x := x) (u := bound)
    simpa [Goal.given] using here

theorem checkSynth (posed : (check e t).Posed c) : (synth e s).Posed c where
  valid := posed.valid
  unlimited := posed.unlimited
  input := trivial
  tidy := posed.tidy
  given := by simp [Goal.given]

theorem synthAnn (posed : (synth (.ann e t) s).Posed c) (within : InScope c.entries [] t) : (check e t).Posed c where
  valid := posed.valid
  unlimited := posed.unlimited
  input := within
  tidy := posed.tidy.mono (List.subset_cons_self _ _)
  given := by simpa [Goal.given] using (posed.tidy.annotations t (by simp [annotations, Expr.annotations])).2

theorem synthLam (posed : (synth (.lam x e) t).Posed c) : (check e (.ex (c.allocated + 2))).Posed (c.withLambda x) where
  valid := posed.valid.withLambda
  unlimited := posed.unlimited
  input := by simp [Goal.Input, Context.withLambda]
  tidy := posed.tidy.withLambda
  given := by simpa [Goal.given] using apart_of_mono rfl

theorem synthFn (posed : (synth (.app fn arg) t).Posed c) : (synth fn s).Posed c where
  valid := posed.valid
  unlimited := posed.unlimited
  input := trivial
  tidy := posed.tidy.mono (List.subset_append_left _ _)
  given := by simp [Goal.given]

theorem synthArg (posed : (synth (.app fn arg) t).Posed c) (leads : Leads c c₁) (within : InScope c₁.entries [] s)
    (apart : c₁.Apart s) : (apply (c₁.apply s) arg t).Posed c₁ where
  valid := leads.valid
  unlimited := leads.size.trans posed.unlimited
  input := leads.valid.inScope_apply within
  tidy := (posed.tidy.mono (List.subset_append_right _ _)).leads leads
  given := by simpa [Goal.given] using apart.apply leads.valid

theorem synthBinding (posed : (synth (.letIn x ann value e) t).Posed c) : (bind ann value bound).Posed c where
  valid := posed.valid
  unlimited := posed.unlimited
  input := trivial
  tidy := posed.tidy.mono (List.subset_append_left _ _)
  given := by simp [Goal.given]

theorem synthBody (posed : (synth (.letIn x ann value e) t).Posed c) (leads : Leads c c₁)
    (within : InScope c₁.entries [] bound) (apart : c₁.Apart bound) :
    (synth e t).Posed (c₁.push [.term x bound]) where
  valid := leads.valid.pushTerm within
  unlimited := leads.size.trans posed.unlimited
  input := trivial
  tidy := ((posed.tidy.mono (List.subset_append_right _ _)).leads leads).push apart
  given := by simp [Goal.given]

theorem applyAll (posed : (apply (.all v b) arg t).Posed c) :
    (apply (b.substVar v.id (.ex c.allocated)) arg t).Posed c.withUnsolved where
  valid := (Leads.withUnsolved posed.valid).valid
  unlimited := posed.unlimited
  input := by
    have wider : InScope c.withUnsolved.entries [v.id] b := (inScope_all.1 posed.input).append_right
    exact wider.substVar (by simp [Context.withUnsolved])
  tidy := posed.tidy.leads (Leads.withUnsolved posed.valid)
  given := by
    have apart : c.Apart (.all v b) := posed.given _ (by simp [Goal.given])
    simpa [Goal.given] using apart.unsolvedBody posed.valid

theorem applyEx (posed : (apply (.ex i) arg t).Posed c) (split : c.entries = before ++ .unsolved i :: after) :
    (check arg (.ex (c.allocated + 1))).Posed (c.withArrow before i after) where
  valid := (Advances.withArrow posed.valid split).valid
  unlimited := posed.unlimited
  input := by simp [Goal.Input, Context.withArrow]
  tidy := posed.tidy.leads (Advances.withArrow posed.valid split).leads
  given := by simpa [Goal.given] using apart_of_mono rfl

theorem applyArrow (posed : (apply (.arrow dom cod) arg t).Posed c) : (check arg dom).Posed c where
  valid := posed.valid
  unlimited := posed.unlimited
  input := (inScope_arrow.1 posed.input).1
  tidy := posed.tidy
  given := by
    have apart : c.Apart dom ∧ c.Apart cod := apart_arrow.1 (posed.given _ (by simp [Goal.given]))
    simpa [Goal.given] using apart.1

theorem bindAnnotated (posed : (bind (some t) value s).Posed c) (within : InScope c.entries [] t) :
    (check value t).Posed c where
  valid := posed.valid
  unlimited := posed.unlimited
  input := within
  tidy := posed.tidy.mono (List.subset_append_right _ _)
  given := by simpa [Goal.given] using (posed.tidy.annotations t (by simp [annotations])).2

theorem bindGeneralized (posed : (bind none value t).Posed c) : (synth value s).Posed c.withMarker where
  valid := posed.valid.withMarker
  unlimited := posed.unlimited
  input := trivial
  tidy := posed.tidy.withMarker
  given := by simp [Goal.given]

end Goal.Posed

/-- The binders of a generalised type are those of the type and the new variables. -/
theorem Leads.apart_generalize {c c₁ c₂ : Context} {rest : List Entry} {s : Supply} {t u : Ty}
    (leads : Leads ⟨c.entries ++ .marker c.allocated :: rest, s⟩ c₁) (valid : c.Valid)
    (unlimited : c.supply.size = 0) (size : s.size = c.supply.size) (le : c.allocated ≤ s.used)
    (unmarked : .marker c.allocated ∉ rest) (flat : rigidIds rest = []) (within : InScope c₁.entries [] u)
    (gen : (Typing.generalize c.allocated (c₁.apply u)).run c₁ = (.ok t, c₂)) (apart : c₁.Apart u) :
    (c₂.dropFrom .marker c.allocated).Apart t := by
  obtain ⟨front, back, pairs, split, -, generalizes, rfl, dropped, left, -⟩ :=
    leads.generalize unlimited size le unmarked flat within gen
  have same : rigidIds front = rigidIds c.entries := left.ext.rigidIds_eq
  rw [dropped]
  intro x mem
  rcases Ty.mem_binders_closeOver mem with mem | mem
  · obtain ⟨lt, out⟩ := apart.apply leads.valid x mem
    refine ⟨Nat.lt_of_lt_of_le lt (Nat.le_add_right _ _), fun here => out ?_⟩
    rw [split, rigidIds_append, List.mem_append]
    exact .inl here
  · obtain ⟨ge, below⟩ := generalizes.number_bounds mem
    refine ⟨below, fun here => ?_⟩
    have lt := valid.rigid_lt (same ▸ here)
    have grows := Nat.le_trans le leads.grows
    omega

/-- No binder of the inferred type captures a variable. -/
theorem Infers.apart {c c' : Context} {goal : Goal} (infers : Infers c goal c') (posed : goal.Posed c) :
    ∀ t ∈ goal.result, c'.Apart t := by
  induction infers with
  | checkAll | checkUnit | checkLam | checkLet | checkSub => simp [Goal.result]
  | var found =>
    obtain ⟨before, x, after, split, -, -⟩ := Context.typeOf?_eq_some found
    simpa [Goal.result] using posed.tidy.terms (x := x) (by simp [split])
  | unit => simpa [Goal.result] using apart_of_mono rfl
  | @ann _ _ _ t within checked _ =>
    have apart := (posed.tidy.annotations t (by simp [Goal.annotations, Expr.annotations])).2
    simpa [Goal.result] using apart.leads ((posed.synthAnn within).leads checked)
  | @lam c c₁ c₂ x e t body gen _ =>
    have leads := posed.synthLam.leads body
    have within : InScope c₁.entries [] c.lambdaType :=
      leads.ext.inScope (by simp [Context.lambdaType, Context.withLambda])
    have apart := leads.apart_generalize posed.valid posed.unlimited rfl
      (by simp [Supply.skip, Context.allocated]) (by simp) (by simp) within gen (apart_of_mono rfl)
    simpa [Goal.result] using apart
  | @app c c₁ c₂ fn arg s t fnType applied ihFn ihApply =>
    obtain ⟨first, within⟩ := fnType.leads posed.valid posed.unlimited trivial
    exact ihApply (posed.synthArg first within (ihFn posed.synthFn s (by simp [Goal.result])))
  | @letIn c c₁ c₂ x ann value e bound t binding body ihBinding ihBody =>
    obtain ⟨first, within⟩ := binding.leads posed.valid posed.unlimited trivial
    have inner := posed.synthBody first within (ihBinding posed.synthBinding bound (by simp [Goal.result]))
    have apart : c₂.Apart t := ihBody inner t (by simp [Goal.result])
    simpa [Goal.result] using apart.remove
  | applyAll _ ih => exact ih posed.applyAll
  | applyEx _ _ _ => simpa [Goal.result] using apart_of_mono rfl
  | @applyArrow c _ dom cod _ checked _ =>
    have leads := posed.applyArrow.leads checked
    have parts : c.Apart dom ∧ c.Apart cod := apart_arrow.1 (posed.given _ (by simp [Goal.given]))
    simpa [Goal.result] using parts.2.leads leads
  | @annotated _ _ _ t within checked _ =>
    have apart := (posed.tidy.annotations t (by simp [Goal.annotations])).2
    simpa [Goal.result] using apart.leads ((posed.bindAnnotated within).leads checked)
  | @generalized c c₁ c₂ value s t synth gen ih =>
    obtain ⟨leads, within⟩ := synth.leads posed.valid.withMarker posed.unlimited trivial
    have apart := leads.apart_generalize posed.valid posed.unlimited rfl
      (by simp [Supply.skip, Context.allocated]) (by simp) (by simp) within gen
      (ih posed.bindGeneralized s (by simp [Goal.result]))
    simpa [Goal.result] using apart

/-- Inference leads from a context on which the goal may be posed to one in which the type is in scope that it
gives, whose binders capture nothing. -/
theorem Infers.gives {c c' : Context} {goal : Goal} {t : Ty} (infers : Infers c goal c') (posed : goal.Posed c)
    (result : goal.result = [t]) : Leads c c' ∧ InScope c'.entries [] t ∧ c'.Apart t := by
  obtain ⟨leads, output⟩ := infers.leads posed.valid posed.unlimited posed.input
  refine ⟨leads, ?_, infers.apart posed t (by simp [result])⟩
  cases goal with
  | check => cases result
  | _ =>
    cases result
    exact output

end TermBot.Typing
