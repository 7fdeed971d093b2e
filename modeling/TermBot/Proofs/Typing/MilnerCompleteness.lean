import TermBot.Proofs.Typing.Completeness
import TermBot.Proofs.Typing.InferenceSoundness
import TermBot.Proofs.Typing.Milner

/-!
# Inference without annotations is complete

If an expression has a scheme in the system of Damas and Milner, then inference succeeds on it and gives a
type of which every instance of the scheme is an instance: `Milner.complete`. The induction is on the
typing; the statement is about the instances of the scheme after monotypes are put for its free
variables, so that generalisation and instantiation are nothing to do. Where a name is bound, all
instances of the scheme of its value lead to the same run, and the values of the existentials that the run
leaves do not depend on the instance (`Sat.eq_of_refines`).
-/

namespace TermBot.Scoped.Ty

open Typing

section CloseOver

variable {σ : Nat → Poly} {Δ : Finset Nat} {es : List Entry} {t : Ty} {pairs : List (Nat × Ident)}

/-- A generalised type has the instances of the type, with the values of the existentials for the
quantified variables. -/
theorem instance_closeOver {τ : Poly} (within : InScope es [] t) (rigids : ∀ x ∈ rigidIds es, x ∈ Δ)
    (images : ∀ i ∈ t.exOccurrences ++ pairs.map Prod.fst, (σ i).Mono ∧ (σ i).Within Δ 0)
    (nodup : (pairs.map Prod.fst).Nodup) (distinct : (pairs.map (·.2.id)).Nodup)
    (new : ∀ x ∈ pairs.map (·.2.id), x ∉ rigidIds es ∧ x ∉ t.binders)
    (inst : Instance Δ (t.read σ []) τ) : Instance Δ ((t.closeOver pairs).read σ []) τ := by
  induction pairs with
  | nil => exact inst
  | cons p pairs ih =>
    obtain ⟨i, v⟩ := p
    rw [List.map_cons, List.nodup_cons] at nodup distinct
    obtain ⟨undeclared, free⟩ := new v.id (by simp)
    have image := images i (by simp)
    have wider : InScope es [v.id] t :=
      within.mono (fun _ mem => .inr mem) (fun _ _ mem => mem) (by simp)
    have body : InScope es [v.id] ((t.substEx i (.var v)).closeOver pairs) :=
      inScope_closeOver (inScope_substEx wider (by simp)) (List.Subset.refl _) fun j mem _ =>
        within.mem_exIds (mem_exOccurrences_substEx mem).1
    have values : ∀ j ∈ ((t.substEx i (.var v)).closeOver pairs).exOccurrences, (σ j).Within Δ 0 := by
      intro j mem
      have inside := (mem_exOccurrences_substEx (mem_exOccurrences_closeOver mem).1).1
      exact (images j (List.mem_append_left _ inside)).2
    have opened : (((t.substEx i (.var v)).closeOver pairs).substVar v.id (.ex i)).read σ [] =
        (((t.substEx i (.var v)).closeOver pairs).read σ [v.id]).openWith (σ i) :=
      read_open body rigids values fun _ _ => rfl
    rw [substVar_closeOver within (by simp) undeclared free nodup.1 distinct.1] at opened
    refine .all image.1 image.2 ?_
    rw [← opened]
    refine ih (fun j mem => images j ?_) nodup.2 distinct.2 fun x mem => new x (List.mem_cons_of_mem _ mem)
    rw [List.map_cons, List.mem_append, List.mem_cons]
    exact (List.mem_append.1 mem).imp id .inr

end CloseOver

end TermBot.Scoped.Ty

namespace TermBot.Typing

open Scoped

/-- The first environment gives each variable of the second one a type with all instances of its type
there. -/
def Env.AsGeneral (Δ : Finset Nat) (Γ' Γ : Env) : Prop :=
  ∀ ⦃x A⦄, Γ.lookup x = some A → ∃ B, Γ'.lookup x = some B ∧ ∀ ⦃τ⦄, Instance Δ A τ → Instance Δ B τ

theorem Env.AsGeneral.cons {Δ : Finset Nat} {Γ Γ' : Env} {x : Nat} {A B : Poly}
    (general : Env.AsGeneral Δ Γ' Γ) (instances : ∀ ⦃τ⦄, Instance Δ A τ → Instance Δ B τ) :
    Env.AsGeneral Δ ((x, B) :: Γ') ((x, A) :: Γ) := by
  intro y C found
  rw [List.lookup_cons] at found ⊢
  cases same : y == x with
  | true =>
    rw [same] at found
    cases found
    exact ⟨B, rfl, instances⟩
  | false =>
    rw [same] at found
    exact general found

/-- The context gives the variables types at least as general as `Γ` does, under a valuation in the type
variables `Δ`. It declares no rigid variable, as there are no annotations. -/
structure Context.Covers (c : Context) (Δ : Finset Nat) (σ : Nat → Poly) (Γ : Env) : Prop where
  valid : c.Valid
  unlimited : c.supply.size = 0
  tidy : c.Tidy []
  flat : rigidIds c.entries = []
  sat : Sat Δ σ c.entries
  general : Env.AsGeneral Δ (env σ c.entries) Γ

/-- The computation returns a type of which `τ` is an instance, and the valuation extends to the context
it leaves. -/
def Gives (Δ : Finset Nat) (c : Context) (σ : Nat → Poly) (m : Nat → Check Ty) (τ : Poly) : Prop :=
  ∃ t c' σ', Yields m c t c' ∧ Sat Δ σ' c'.entries ∧ (∀ j ∈ exIds c.entries, σ' j = σ j) ∧
    Instance Δ (t.read σ' []) τ

/-- Inference finds the type `τ` for the expression: synthesis gives a type of which it is an instance, and
checking succeeds against every type that stands for it. -/
structure Finds (Δ : Finset Nat) (c : Context) (σ : Nat → Poly) (e : Expr) (τ : Poly) : Prop where
  synth : Gives Δ c σ (fun n => synth n e) τ
  check : ∀ {t}, InScope c.entries [] t → t.read σ [] = τ →
    Attains Δ c σ fun c' => Yields (fun n => check n e t) c () c'

section Covers

variable {Δ : Finset Nat} {c c' c₁ : Context} {σ σ' : Nat → Poly} {Γ : Env} {x : Ident} {e : Expr} {s t u : Ty}
  {τ τ₁ τ₂ A : Poly}

namespace Context.Covers

theorem scope (covers : c.Covers Δ σ Γ) : scope Δ c.entries = Δ := by simp [Typing.scope, covers.flat]

theorem leads (covers : c.Covers Δ σ Γ) (leads : Leads c c') (sat : Sat Δ σ' c'.entries)
    (kept : ∀ j ∈ exIds c.entries, σ' j = σ j) : c'.Covers Δ σ' Γ where
  valid := leads.valid
  unlimited := leads.size.trans covers.unlimited
  tidy := covers.tidy.leads leads
  flat := leads.ext.rigidIds_eq.trans covers.flat
  sat := sat
  general := by
    rw [leads.ext.env_eq, env_congr covers.valid.ordered kept]
    exact covers.general

/-- A name with a type at least as general as a scheme. -/
theorem push (covers : c.Covers Δ σ Γ) (within : InScope c.entries [] t) (apart : c.Apart t)
    (instances : ∀ ⦃τ⦄, Instance Δ A τ → Instance Δ (t.read σ []) τ) :
    (c.push [.term x t]).Covers Δ σ ((x.id, A) :: Γ) where
  valid := covers.valid.pushTerm within
  unlimited := covers.unlimited
  tidy := covers.tidy.push apart
  flat := by simp [Context.push, covers.flat]
  sat := sat_append.2 ⟨covers.sat, trivial, trivial⟩
  general := by
    rw [env_push]
    exact covers.general.cons instances

theorem withMarker (covers : c.Covers Δ σ Γ) : c.withMarker.Covers Δ σ Γ where
  valid := covers.valid.withMarker
  unlimited := covers.unlimited
  tidy := covers.tidy.withMarker
  flat := by simp [Context.withMarker, covers.flat]
  sat := sat_append.2 ⟨covers.sat, trivial, trivial⟩
  general := by
    rw [env_withMarker]
    exact covers.general

/-- The existentials of an abstraction may stand for any two monotypes. -/
theorem withLambda (covers : c.Covers Δ σ Γ) (dom : τ₁.Mono ∧ τ₁.Within Δ 0) (cod : τ₂.Mono ∧ τ₂.Within Δ 0) :
    ∃ σ', (c.withLambda x).Covers Δ σ' ((x.id, τ₁) :: Γ) ∧ (∀ j ∈ exIds c.entries, σ' j = σ j) ∧
      σ' (c.allocated + 1) = τ₁ ∧ σ' (c.allocated + 2) = τ₂ := by
  have valid : (c.withLambda x).Valid := covers.valid.withLambda
  obtain ⟨σ', sat, kept, picked⟩ := covers.sat.extend
    (fun i => if i = c.allocated + 1 then τ₁ else τ₂) valid.ordered valid.distinct fun i _ => by
      rw [covers.scope]
      split
      · exact dom
      · exact cod
  have first : σ' (c.allocated + 1) = τ₁ := by
    rw [picked _ (by simp)]
    simp
  have second : σ' (c.allocated + 2) = τ₂ := by
    rw [picked _ (by simp)]
    simp
  have types : env σ' (c.withLambda x).entries = (x.id, τ₁) :: env σ c.entries := by
    rw [← env_congr covers.valid.ordered kept, ← first]
    exact env_withLambda
  refine ⟨σ', ⟨valid, covers.unlimited, covers.tidy.withLambda, ?_, sat, ?_⟩, kept, first, second⟩
  · simp [Context.withLambda, covers.flat]
  · rw [types]
    exact covers.general.cons fun _ inst => inst

/-- A new existential may stand for any monotype. -/
theorem withUnsolved (covers : c.Covers Δ σ Γ) (mono : τ.Mono) (within : τ.Within Δ 0) :
    ∃ σ', c.withUnsolved.Covers Δ σ' Γ ∧ (∀ j ∈ exIds c.entries, σ' j = σ j) ∧ σ' c.allocated = τ := by
  have leads := Leads.withUnsolved covers.valid
  obtain ⟨σ', sat, kept, picked⟩ := covers.sat.extend (fun _ => τ) leads.valid.ordered leads.valid.distinct
    fun i _ => by
      rw [covers.scope]
      exact ⟨mono, within⟩
  exact ⟨σ', covers.leads leads sat kept, kept, picked _ (by simp)⟩

end Context.Covers

theorem Context.Settled.unsolvedBody {v : Ident} {b : Ty} (settled : c.Settled (.all v b)) :
    c.withUnsolved.Settled (b.substVar v.id (.ex c.allocated)) := by
  intro i mem
  rcases Ty.mem_exOccurrences_substVar mem with mem | mem
  · exact List.mem_append_left _ (settled i mem)
  · simp only [Ty.exOccurrences, List.mem_singleton] at mem
    simp [Context.withUnsolved, mem]

/-- What synthesis of an expression without annotations leads to. -/
theorem Context.Covers.leads_synth (covers : c.Covers Δ σ Γ) (plain : e.annotations = [])
    (yields : Yields (fun n => synth n e) c t c') :
    Leads c c' ∧ InScope c'.entries [] t ∧ c'.Apart t := by
  obtain ⟨d, runs⟩ := yields
  have infers := (Infers.of_runs d).synths covers.unlimited (runs d (Nat.le_refl d))
  have tidy : c.Tidy (Goal.synth e t).annotations := by
    rw [Goal.annotations, plain]
    exact covers.tidy
  exact infers.gives ⟨covers.valid, covers.unlimited, trivial, tidy, by simp [Goal.given]⟩ rfl

theorem Context.Covers.leads_check (covers : c.Covers Δ σ Γ) (within : InScope c.entries [] t)
    (yields : Yields (fun n => check n e t) c () c') : Leads c c' := by
  obtain ⟨d, runs⟩ := yields
  have infers := (Infers.of_runs d).checks covers.unlimited (runs d (Nat.le_refl d))
  exact (infers.leads covers.valid covers.unlimited within).1

/-- A term variable that is taken out, or with all that follows it, does not matter to a valuation. -/
theorem Sat.leaveTerm (leads : Leads (c.push [.term x s]) c') (sat : Sat Δ σ c'.entries) :
    Sat Δ σ (c'.remove .term x.id).entries ∧ Sat Δ σ (c'.dropFrom .term x.id).entries := by
  obtain ⟨front, back, split, -, -, absent⟩ := leads.ext.leave rfl (by simp)
  have declares := Entry.declares_term.2 ⟨x, s, rfl, rfl⟩
  rw [Context.remove_split split declares absent, Context.dropFrom_split split declares absent]
  rw [split] at sat
  obtain ⟨first, -, second⟩ := sat_append.1 sat
  exact ⟨sat_append.2 ⟨first, by simpa [Typing.scope] using second⟩, first⟩

/-- Checking by synthesis and subtyping. -/
theorem Context.Covers.check_by_synth (covers : c.Covers Δ σ Γ) (plain : e.annotations = [])
    (by_synth : ∀ n, check (n + 1) e t = do subtype n (← applied (← synth n e)) (← applied t))
    (within : InScope c.entries [] t) (mono : (t.read σ []).Mono)
    (synth : Gives Δ c σ (fun n => synth n e) (t.read σ [])) :
    Attains Δ c σ fun c' => Yields (fun n => check n e t) c () c' := by
  obtain ⟨s, c₁, σ₁, yields, sat₁, kept₁, inst⟩ := synth
  obtain ⟨first, output, apart⟩ := covers.leads_synth plain yields
  have covers₁ := covers.leads first sat₁ kept₁
  have within₁ := first.ext.inScope within
  have apartT : c₁.Apart t := apart_of_mono (Ty.isMono_of_read mono)
  have declaredS : ∀ i ∈ s.exOccurrences, i ∈ exIds c₁.entries := fun _ => InScope.mem_exIds output
  have declaredT : ∀ i ∈ t.exOccurrences, i ∈ exIds c₁.entries := fun _ => within₁.mem_exIds
  have sub : Sub Δ (s.read σ₁ []) (t.read σ₁ []) := by
    have formed := sat₁.within output
    rw [covers₁.scope] at formed
    rw [Ty.read_congr fun j mem => kept₁ j (within.mem_exIds mem)]
    exact inst.sub formed
  rw [← sat₁.read_apply first.valid declaredS apart, ← sat₁.read_apply first.valid declaredT apartT,
    ← covers₁.scope] at sub
  obtain ⟨c₂, σ₂, derivation, sat₂, kept₂⟩ := Subtyping.complete first.valid
    (first.valid.settled_apply declaredS) (first.valid.settled_apply declaredT)
    (first.valid.inScope_apply output) (first.valid.inScope_apply within₁) (apart.apply first.valid)
    (apartT.apply first.valid) sat₁ (by simp [covers₁.flat]) sub
  refine ⟨c₂, σ₂, .of_succ ?_, sat₂, fun j mem => ?_⟩
  · simp only [by_synth]
    exact .seq yields (.step (run_applied_ok.2 ⟨rfl, rfl, first.valid.ended declaredS⟩)
      (.step (run_applied_ok.2 ⟨rfl, rfl, first.valid.ended declaredT⟩)
        (derivation.exists_run covers₁.unlimited)))
  · rw [kept₂ j (first.ext.exIds_subset mem), kept₁ j mem]

/-- Checking an expression that is not checked otherwise, or against an existential. -/
theorem Context.Covers.finds (covers : c.Covers Δ σ Γ) (plain : e.annotations = []) (mono : τ.Mono)
    (synth : Gives Δ c σ (fun n => synth n e) τ)
    (check : ∀ {t}, InScope c.entries [] t → t.read σ [] = τ →
      (∀ n, Typing.check (n + 1) e t = do subtype n (← applied (← Typing.synth n e)) (← applied t)) ∨
        Attains Δ c σ fun c' => Yields (fun n => Typing.check n e t) c () c') : Finds Δ c σ e τ where
  synth := synth
  check within read := (check within read).elim
    (fun by_synth => covers.check_by_synth plain by_synth within (read ▸ mono) (read ▸ synth)) id

/-- The end of a scope with a generalisation succeeds. The type it gives does not depend on a valuation,
and has under each of them the instances that the type had. -/
theorem Context.Covers.generalize {rest : List Entry} {s : Supply} (covers : c.Covers Δ σ Γ)
    (leads : Leads ⟨c.entries ++ .marker c.allocated :: rest, s⟩ c₁) (size : s.size = c.supply.size)
    (le : c.allocated ≤ s.used) (unmarked : .marker c.allocated ∉ rest) (flat : rigidIds rest = [])
    (within : InScope c₁.entries [] u) (apart : c₁.Apart u) :
    ∃ t c', (do
        let t ← Typing.generalize c.allocated (← applied u)
        modify (·.dropFrom .marker c.allocated)
        return t : Check Ty).run c₁ = (.ok t, c') ∧ Leads c c' ∧ Refines c.entries c'.entries ∧
      InScope c'.entries [] t ∧ c'.Apart t ∧ ∀ {σ₁}, Sat Δ σ₁ c₁.entries →
        Sat Δ σ₁ c'.entries ∧ ∀ {τ}, Instance Δ (u.read σ₁ []) τ → Instance Δ (t.read σ₁ []) τ := by
  obtain ⟨t, c₂, gen⟩ : ∃ t c₂, (Typing.generalize c.allocated (c₁.apply u)).run c₁ = (.ok t, c₂) := by
    obtain ⟨_, _, gen⟩ := run_generalize_skip (c := c₁) (c₁.apply u)
    exact ⟨_, _, gen⟩
  have declared : ∀ i ∈ u.exOccurrences, i ∈ exIds c₁.entries := fun _ => within.mem_exIds
  have apartT := leads.apart_generalize covers.valid covers.unlimited size le unmarked flat within gen apart
  obtain ⟨front, back, pairs, split, -, generalizes, rfl, dropped, left, output⟩ :=
    leads.generalize covers.unlimited size le unmarked flat within gen
  refine ⟨_, c₂.dropFrom .marker c.allocated, ?_, ?_, ?_, ?_, apartT, fun {σ₁} sat => ⟨?_, fun inst => ?_⟩⟩
  · rw [run_bind_of_ok (run_applied_ok.2 ⟨rfl, rfl, leads.valid.ended declared⟩), run_bind_of_ok gen,
      run_bind_of_ok run_modify, run_pure]
  · rw [dropped]
    exact left.leads
  · rw [dropped]
    exact left.refines
  · rw [dropped]
    exact output
  · rw [dropped]
    rw [split] at sat
    exact (sat_append.1 sat).1
  · have rigids : rigidIds c₁.entries = [] := by
      rw [leads.ext.rigidIds_eq]
      simp [covers.flat, flat]
    have scopes : Typing.scope Δ c₁.entries = Δ := by simp [Typing.scope, rigids]
    have within₁ := leads.valid.inScope_apply within
    rw [← sat.read_apply leads.valid declared apart] at inst
    refine Ty.instance_closeOver within₁ (by simp [rigids]) (fun i mem => ?_) generalizes.nodup
      generalizes.nodup_numbers (fun x mem => ⟨by simp [rigids], fun bound => ?_⟩) inst
    · have inside : i ∈ (c₁.apply u).exOccurrences := (List.mem_append.1 mem).elim id fun mem =>
        ((generalizes.mem i).1 mem).1
      have image := sat.ex (within₁.mem_exIds inside)
      rwa [scopes] at image
    · have ge := (generalizes.number_bounds mem).1
      exact absurd (apart.apply leads.valid x bound).1 (by omega)

/-- An abstraction. -/
theorem Context.Covers.lam (covers : c.Covers Δ σ Γ) (plain : e.annotations = [])
    (dom : τ₁.Mono ∧ τ₁.Within Δ 0) (cod : τ₂.Mono ∧ τ₂.Within Δ 0)
    (finds : ∀ {c' σ'}, c'.Covers Δ σ' ((x.id, τ₁) :: Γ) → Finds Δ c' σ' e τ₂) :
    Finds Δ c σ (.lam x e) (.arrow τ₁ τ₂) := by
  refine covers.finds plain ⟨dom.1, cod.1⟩ ?_ fun {t} within read => ?_
  · obtain ⟨σ', opened, kept, first, second⟩ := covers.withLambda (x := x) dom cod
    have here : InScope (c.withLambda x).entries [] (.ex (c.allocated + 2)) := by simp [Context.withLambda]
    obtain ⟨c₁, σ₁, yields, sat, same⟩ := (finds opened).check here second
    have leads := opened.leads_check here yields
    have within : InScope c₁.entries [] c.lambdaType :=
      leads.ext.inScope (by simp [Context.lambdaType, Context.withLambda])
    obtain ⟨t, c₂, closes, left, -, -, -, values⟩ := covers.generalize leads rfl
      (by simp [Supply.skip, Context.allocated]) (by simp) (by simp) within (apart_of_mono rfl)
    refine ⟨t, c₂, σ₁, .of_succ (.congr (fun n => run_withLambda (fun mark dom cod => _) covers.unlimited)
      (.seq yields (.of_run closes))), (values sat).1, fun j mem => ?_, (values sat).2 ?_⟩
    · rw [same j (by simp [Context.withLambda, mem]), kept j mem]
    · have read : c.lambdaType.read σ₁ [] = .arrow τ₁ τ₂ := by
        rw [Context.lambdaType, Ty.read, Ty.read, Ty.read, same _ (by simp [Context.withLambda]), first,
          same _ (by simp [Context.withLambda]), second]
      rw [read]
      exact .mono ⟨dom.1, cod.1⟩
  · cases t with
    | arrow a b =>
      right
      cases read
      have parts := inScope_arrow.1 within
      have opened := covers.push (x := x) parts.1 (apart_of_mono (Ty.isMono_of_read dom.1))
        fun _ inst => inst
      obtain ⟨c₁, σ₁, yields, sat, kept⟩ := (finds opened).check parts.2.append_right rfl
      have leads := opened.leads_check parts.2.append_right yields
      refine ⟨_, σ₁, .of_succ (.step run_modify (.seq yields (.of_run run_modify))),
        (sat.leaveTerm leads).2, fun j mem => kept j ?_⟩
      simpa [Context.push] using mem
    | ex i => exact .inl fun _ => rfl
    | var v => simp [Ty.read] at read
    | _ => cases read

/-- Application of what has a function type as an instance. -/
theorem Context.Covers.apply (covers : c.Covers Δ σ Γ) (inst : Instance Δ A τ) (function : τ = .arrow τ₁ τ₂)
    (read : s.read σ [] = A) (settled : c.Settled s) (within : InScope c.entries [] s)
    (argument : ∀ {c' σ'}, c'.Covers Δ σ' Γ → Finds Δ c' σ' e τ₁) :
    Gives Δ c σ (fun n => synthApp n s e) τ₂ := by
  induction inst generalizing c σ s with
  | mono mono =>
    rw [function] at read mono
    cases s with
    | ex i =>
      have unsolved := settled_ex.1 settled
      obtain ⟨before, after, split, last⟩ := Context.split_unsolved unsolved
      obtain ⟨σ', sat', kept, first, second⟩ := covers.sat.withArrow covers.valid split read
      have opened := (Advances.withArrow covers.valid split).leads
      have here : InScope (c.withArrow before i after).entries [] (.ex (c.allocated + 1)) := by
        simp [Context.withArrow]
      obtain ⟨c', σ₁, yields, sat, same⟩ := (argument (covers.leads opened sat' kept)).check here first
      have run : ∀ n, (synthApp (n + 1) (.ex i) e).run c = (do
          check n e (.ex (c.allocated + 1))
          return .ex c.allocated : Check Ty).run (c.withArrow before i after) := by
        intro n
        rw [synthApp, run_bind_of_ok run_get, if_pos (Context.has_unsolved.2 unsolved)]
        exact run_bind_of_ok (run_articulate covers.unlimited split last)
      refine ⟨.ex c.allocated, c', σ₁, .of_succ (.congr run (.seq yields (.of_run run_pure))), sat,
        fun j mem => ?_, ?_⟩
      · rw [same j (opened.ext.exIds_subset mem), kept j mem]
      · rw [Ty.read, same _ (by simp [Context.withArrow]), second]
        exact .mono mono.2
    | arrow a b =>
      have parts := inScope_arrow.1 within
      obtain ⟨readA, readB⟩ := Poly.arrow.inj read
      obtain ⟨c', σ₁, yields, sat, same⟩ := (argument covers).check parts.1 readA
      refine ⟨b, c', σ₁, .of_succ (.seq yields (.of_run run_pure)), sat, same, ?_⟩
      rw [Ty.read_congr fun j mem => same j (parts.2.mem_exIds mem), readB]
      exact .mono mono.2
    | var v => simp [Ty.read] at read
    | _ => cases read
  | @all A B τ₀ mono image rest ih =>
    cases s with
    | all v b =>
      obtain ⟨σ', covers', kept, value⟩ := covers.withUnsolved mono image
      have body : b.read σ' [v.id] = A := by
        have same : ∀ j ∈ b.exOccurrences, σ' j = σ j := fun j mem =>
          kept j ((inScope_all.1 within).mem_exIds mem)
        rw [Ty.read_congr same]
        exact Poly.all.inj read
      have opened : (b.substVar v.id (.ex c.allocated)).read σ' [] = A.openWith τ₀ := by
        rw [(covers'.sat.read_unsolvedBody within).1, value, body]
      have wider : InScope c.withUnsolved.entries [v.id] b := (inScope_all.1 within).append_right
      obtain ⟨t, c', σ₁, yields, sat, same, result⟩ := ih covers' function opened settled.unsolvedBody
        (wider.substVar (by simp [Context.withUnsolved]))
      refine ⟨t, c', σ₁, .of_succ (.congr (fun n => ?_) yields), sat, fun j mem => ?_, result⟩
      · exact run_withUnsolved (fun body => synthApp n body e) covers.unlimited
      · rw [same j (by simp [Context.withUnsolved, mem]), kept j mem]
    | ex i =>
      have image := (covers.sat.ex (inScope_ex.1 within)).1
      rw [show σ i = .all A from read] at image
      cases image
    | var v => simp [Ty.read] at read
    | _ => cases read

/-- The type of a binding has all instances of the scheme of its value. -/
theorem Context.Covers.bind (covers : c.Covers Δ σ Γ) (plain : e.annotations = []) (scheme : A.Scheme)
    (finds : ∀ {τ}, Instance Δ A τ → Finds Δ c.withMarker σ e τ) :
    ∃ t c' σ', Yields (fun n => bindingType n none e) c t c' ∧
      (c'.push [.term x t]).Covers Δ σ' ((x.id, A) :: Γ) ∧ Leads c c' ∧
      ∀ j ∈ exIds c.entries, σ' j = σ j := by
  obtain ⟨τ₀, inst₀⟩ := exists_instance (Δ := Δ) scheme
  obtain ⟨s, c₁, σ₁, yields, sat, kept, -⟩ := (finds inst₀).synth
  obtain ⟨leads, within, apart⟩ := covers.withMarker.leads_synth plain yields
  obtain ⟨t, c', closes, left, refines, output, apartT, values⟩ := covers.generalize leads rfl
    (by simp [Supply.skip, Context.allocated]) (by simp) (by simp) within apart
  have marked : exIds c.withMarker.entries = exIds c.entries := by simp [Context.withMarker]
  rw [marked] at kept
  have satC := (values sat).1
  refine ⟨t, c', σ₁, .of_succ (.congr (fun n => run_withMarker (fun mark => _) covers.unlimited)
    (.seq yields (.of_run closes))), ?_, left, kept⟩
  refine (covers.leads left satC kept).push output apartT fun τ inst => ?_
  -- the run is the same for every instance, and so are the values of what is left of the scope
  obtain ⟨s', c₁', σ₁', yields', sat', kept', inst'⟩ := (finds inst).synth
  obtain ⟨rfl, rfl⟩ := yields.unique yields'
  rw [marked] at kept'
  have same : ∀ j ∈ exIds c'.entries, σ₁ j = σ₁' j :=
    satC.eq_of_refines (values sat').1 refines fun j mem => by rw [kept j mem, kept' j mem]
  rw [Ty.read_congr fun j mem => same j (output.mem_exIds mem)]
  exact (values sat').2 inst'

/-- A binding. -/
theorem Context.Covers.letIn {value : Expr} (covers : c.Covers Δ σ Γ) (plain : value.annotations = [])
    (plainBody : e.annotations = []) (scheme : A.Scheme) (mono : τ.Mono)
    (bound : ∀ {τ}, Instance Δ A τ → Finds Δ c.withMarker σ value τ)
    (body : ∀ {c' σ'}, c'.Covers Δ σ' ((x.id, A) :: Γ) → Finds Δ c' σ' e τ) :
    Finds Δ c σ (.letIn x none value e) τ := by
  obtain ⟨s, c₁, σ₁, binding, opened, first, kept⟩ := covers.bind (x := x) plain scheme bound
  have finds := body opened
  have same : exIds (c₁.push [.term x s]).entries = exIds c₁.entries := by simp [Context.push]
  constructor
  · obtain ⟨t, c₂, σ₂, yields, sat, kept₂, inst⟩ := finds.synth
    have leads := (opened.leads_synth plainBody yields).1
    refine ⟨t, _, σ₂, .of_succ (.seq binding (.step run_modify (.seq yields (.step run_modify
      (.of_run run_pure))))), (sat.leaveTerm leads).1, fun j mem => ?_, inst⟩
    rw [kept₂ j (same ▸ first.ext.exIds_subset mem), kept j mem]
  · intro t within read
    have within₁ := first.ext.inScope within
    have read₁ : t.read σ₁ [] = τ := by
      rw [← read]
      exact Ty.read_congr fun j mem => kept j (within.mem_exIds mem)
    obtain ⟨c₂, σ₂, yields, sat, kept₂⟩ := finds.check within₁.append_right read₁
    have leads := opened.leads_check within₁.append_right yields
    have run : ∀ n, check (n + 1) (.letIn x none value e) t = (do
        let bound ← bindingType n none value
        modify (·.push [.term x bound])
        check n e t
        modify (·.remove .term x.id)) := by
      cases t with
      | all v b =>
        rw [← read] at mono
        cases mono
      | _ => exact fun _ => rfl
    refine ⟨_, σ₂, .of_succ ?_, (sat.leaveTerm leads).1, fun j mem => ?_⟩
    · simp only [run]
      exact .seq binding (.step run_modify (.seq yields (.of_run run_modify)))
    · rw [kept₂ j (same ▸ first.ext.exIds_subset mem), kept j mem]

/-- A variable. -/
theorem Context.Covers.var (covers : c.Covers Δ σ Γ) (found : Γ.lookup x.id = some A)
    (inst : Instance Δ A τ) : Finds Δ c σ (.var x) τ := by
  obtain ⟨B, here, instances⟩ := covers.general found
  obtain ⟨t, type, rfl⟩ := exists_typeOf? here
  have run : ∀ n, (synth (n + 1) (.var x)).run c = (.ok t, c) := by
    intro n
    rw [synth, run_bind_of_ok run_get, type]
    rfl
  refine covers.finds rfl inst.mono_right ⟨t, c, σ, .of_succ ⟨0, fun n _ => run n⟩, covers.sat,
    fun _ _ => rfl, instances inst⟩ fun {u} _ read => .inl ?_
  cases u with
  | all v b =>
    have mono := inst.mono_right
    rw [← read] at mono
    cases mono
  | _ => exact fun _ => rfl

theorem Context.Covers.unit (covers : c.Covers Δ σ Γ) : Finds Δ c σ .unit .unit := by
  refine covers.finds rfl mono_unit ⟨.unit, c, σ, .of_succ (.of_run run_pure), covers.sat, fun _ _ => rfl,
    .mono mono_unit⟩ fun {t} _ read => ?_
  cases t with
  | unit => exact .inr ⟨c, σ, .of_succ (.of_run run_pure), covers.sat, fun _ _ => rfl⟩
  | ex i => exact .inl fun _ => rfl
  | var v => simp [Ty.read] at read
  | _ => cases read

/-- An application. -/
theorem Context.Covers.app {fn : Expr} (covers : c.Covers Δ σ Γ) (plain : fn.annotations = [])
    (plainArg : e.annotations = []) (mono : τ₂.Mono) (function : Finds Δ c σ fn (.arrow τ₁ τ₂))
    (argument : ∀ {c' σ'}, c'.Covers Δ σ' Γ → Finds Δ c' σ' e τ₁) : Finds Δ c σ (.app fn e) τ₂ := by
  have both : (Expr.app fn e).annotations = [] := by rw [Expr.annotations, plain, plainArg, List.append_nil]
  refine covers.finds both mono ?_ fun {t} _ read => .inl ?_
  · obtain ⟨s, c₁, σ₁, yields, sat, kept, inst⟩ := function.synth
    obtain ⟨first, output, apart⟩ := covers.leads_synth plain yields
    have declared : ∀ i ∈ s.exOccurrences, i ∈ exIds c₁.entries := fun _ => output.mem_exIds
    obtain ⟨t, c₂, σ₂, yields₂, sat₂, kept₂, result⟩ := (covers.leads first sat kept).apply inst rfl
      (sat.read_apply first.valid declared apart) (first.valid.settled_apply declared)
      (first.valid.inScope_apply output) argument
    refine ⟨t, c₂, σ₂, .of_succ (.seq yields (.step (run_applied_ok.2
      ⟨rfl, rfl, first.valid.ended declared⟩) yields₂)), sat₂, fun j mem => ?_, result⟩
    rw [kept₂ j (first.ext.exIds_subset mem), kept j mem]
  · cases t with
    | all v b =>
      rw [← read] at mono
      cases mono
    | _ => exact fun _ => rfl

end Covers

/-- Inference without annotations is complete for the system of Damas and Milner: on a context that covers
the environment, with monotypes put for the free variables, it finds every instance of the scheme. -/
theorem Milner.complete {Δ Δ' : Finset Nat} {Γ : Env} {e : Expr} {A τ : Poly} {θ σ : Nat → Poly}
    {c : Context} (typed : Milner Δ Γ e A) (schemes : Γ.Schemes Δ) (assigns : Assigns θ Δ Δ')
    (inst : Instance Δ' (A.subst θ) τ) (covers : c.Covers Δ' σ (Γ.subst θ)) : Finds Δ' c σ e τ := by
  induction typed generalizing θ τ c σ with
  | var found => exact covers.var (by rw [Env.lookup_subst, found]; rfl) inst
  | unit =>
    rw [inst.eq_of_mono mono_unit]
    exact covers.unit
  | @lam Δ Γ x e τ₁ τ₂ mono within mono' body ih =>
    have inner := schemes.cons (x := x.id) mono.scheme within
    have within' := (body.scheme inner).2
    have monos := And.intro (mono.subst within assigns) (mono'.subst within' assigns)
    rw [inst.eq_of_mono monos]
    exact covers.lam body.annotations ⟨monos.1, within.subst assigns⟩ ⟨monos.2, within'.subst assigns⟩
      fun opened => ih inner assigns (.mono monos.2) opened
  | @app Δ Γ fn arg τ₁ τ₂ mono mono' fnTyped argTyped ihFn ihArg =>
    have within := (argTyped.scheme schemes).2
    have within' := (fnTyped.scheme schemes).2.2
    have monos := And.intro (mono.subst within assigns) (mono'.subst within' assigns)
    rw [inst.eq_of_mono monos.2]
    exact covers.app fnTyped.annotations argTyped.annotations monos.2 (ihFn schemes assigns (.mono monos) covers)
      fun covers' => ihArg schemes assigns (.mono monos.1) covers'
  | @letIn Δ Γ x value body A τ mono bound typed ihBound ihBody =>
    obtain ⟨scheme, within⟩ := bound.scheme schemes
    have inner := schemes.cons (x := x.id) scheme within
    refine covers.letIn bound.annotations typed.annotations (scheme.subst within assigns) inst.mono_right
      (fun inst => ihBound schemes assigns inst covers.withMarker)
      fun opened => ihBody inner assigns inst opened
  | @gen Δ Γ e A x new env within typed ih =>
    cases inst with
    | mono mono => cases mono
    | @all _ _ τ₀ mono image rest =>
      -- the variable of the scheme stands for what the quantifier is instantiated with
      have same : ∀ y ∈ Δ, Function.update θ x τ₀ y = θ y := update_same new
      refine ih (schemes.mono (Finset.subset_insert x Δ)) (assigns.update new mono image) ?_ ?_
      · rwa [Poly.openWith, subst_openAt within assigns new]
      · rwa [Env.subst_congr env same]
  | inst typed generic ih =>
    exact ih schemes assigns (generic.instances (typed.scheme schemes).2 assigns inst) covers

end TermBot.Typing
