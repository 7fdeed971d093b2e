import TermBot.Proofs.Typing.MilnerCompleteness
import TermBot.Proofs.Typing.MilnerSoundness
import TermBot.Proofs.Typing.Termination

/-!
# Inferred types are principal

For an expression without annotations inference gives its principal type in the system of Damas and
Milner, and it fails only if there is none: `infer_principal`. Soundness (`Infers.milner_closed`) says
that the expression has the inferred scheme; completeness (`Milner.inferred`) that inference succeeds on
what has any scheme, with a type that has all instances of it. As the run is the same for all schemes of
the expression, one type has the instances of them all.
-/

namespace TermBot.Typing

open Scoped

section Empty

variable {c c' : Context} {e : Expr} {t : Ty} {Δ : Finset Nat} {σ : Nat → Poly}

theorem Context.Valid.of_empty (none : c.entries = []) : c.Valid :=
  ⟨by simp [none, Ordered], by simp [none], by simp [none]⟩

theorem Context.Covers.of_empty (none : c.entries = []) (unlimited : c.supply.size = 0) : c.Covers Δ σ [] where
  valid := .of_empty none
  unlimited := unlimited
  tidy := ⟨by simp [none], by simp⟩
  flat := by simp [none]
  sat := by simp [none]
  general := by
    intro x A found
    cases found

/-- The expression has the scheme that is inferred for it. -/
theorem Infers.milner_closed (none : c.entries = []) (unlimited : c.supply.size = 0)
    (plain : e.annotations = []) (infers : Infers c (.bind .none e t) c') : Milner ∅ [] e t.poly := by
  obtain ⟨closed, empty⟩ := infers.bind_closed none unlimited
  have tidy : c.Tidy (Goal.bind .none e t).annotations := by
    rw [show (Goal.bind .none e t).annotations = [] from plain]
    exact ⟨by simp [none], by simp⟩
  have schemes : c.Schemes := by
    intro Δ σ base sat
    simp [none, env, Env.Schemes]
  have sat : Sat ∅ (fun _ => .unit) c'.entries := by simp [empty]
  have typed : Milner (scope ∅ c.entries) (env (fun _ => .unit) c.entries) e (t.read (fun _ => .unit) []) :=
    infers.milner ⟨.of_empty none, unlimited, trivial, tidy, by simp [Goal.given]⟩ plain schemes (by simp) sat
  rwa [none, scope_nil, read_eq_poly closed] at typed

/-- Where the type of a binding is inferred, so is the type of an expression. -/
theorem Yields.inferAt (valid : c.Valid) (unlimited : c.supply.size = 0)
    (bound : Yields (fun n => bindingType n none e) c t c') :
    ∃ c'', Yields (fun n => fresh >>= Typing.inferAt n e) c t c'' := by
  obtain ⟨d, runs⟩ := bound
  have run := runs (d + 1) (Nat.le_succ d)
  unfold bindingType at run
  rw [run_withMarker (fun mark => _) unlimited] at run
  obtain ⟨s, c₁, synthesised, rest⟩ := run_bind_ok.1 run
  obtain ⟨c₂, ended, gen, -⟩ := run_close_ok rest
  have unlimited' : c.withMarker.supply.size = 0 := unlimited
  have deeper : ∀ n ≥ d, (synth n e).run c.withMarker = (.ok s, c₁) := fun n deep =>
    ((follows_synth deep e).run_eq unlimited' (by simp [Ends, synthesised])).trans synthesised
  have derivation : Infers c.withMarker (.synth e s) c₁ := (Infers.of_runs d).synths unlimited synthesised
  obtain ⟨leads, -⟩ := derivation.leads valid.withMarker unlimited trivial
  have valid₂ : c₂.Valid := by
    obtain ⟨u, k, same⟩ := run_generalize_skip (c := c₁) (c₁.apply s)
    cases same.symm.trans gen
    exact leads.valid.withSupply (by simp [Supply.skip, Context.allocated])
  have caught : Yields (fun n => tryCatch (synth n e) fun err => do
      modify (·.remove .marker c.allocated)
      throw err) c.withMarker s c₁ := ⟨d, fun n deep => run_tryCatch_of_ok (deeper n deep)⟩
  exact ⟨_, .congr (fun n => run_withMarker (fun mark => _) unlimited) (.seq caught
    (.step (run_applied_ok.2 ⟨rfl, rfl, ended⟩) (.step gen (.step (run_close valid₂) (.of_run run_pure)))))⟩

/-- If the expression has a scheme, then a type is inferred that has all instances of it. -/
theorem Milner.inferred {A : Poly} (typed : Milner Δ [] e A) (none : c.entries = [])
    (unlimited : c.supply.size = 0) : ∃ t c', Yields (fun n => fresh >>= Typing.inferAt n e) c t c' ∧
      ∀ {τ}, Instance Δ A τ → Instance Δ t.poly τ := by
  have schemes : Env.Schemes Δ [] := by simp [Env.Schemes]
  have assigns : Assigns .fvar Δ Δ := fun x mem => ⟨mono_fvar, mem⟩
  have covers : c.Covers Δ (fun _ => .unit) [] := .of_empty none unlimited
  obtain ⟨t, c', σ', yields, opened, -, -⟩ := covers.bind (x := default) typed.annotations
    (typed.scheme schemes).1 fun {τ} inst =>
      typed.complete schemes assigns (by rwa [subst_fvar]) covers.withMarker
  obtain ⟨c'', inferred⟩ := yields.inferAt (.of_empty none) unlimited
  obtain ⟨d, runs⟩ := yields
  have derivation := (Infers.of_runs d).binds unlimited (runs d (Nat.le_refl d))
  obtain ⟨closed, -⟩ := derivation.bind_closed none unlimited
  obtain ⟨B, found, instances⟩ := opened.general (List.lookup_cons_self)
  rw [env_push, List.lookup_cons_self, Option.some_inj] at found
  refine ⟨t, c'', inferred, fun {τ} inst => ?_⟩
  have here := instances inst
  rwa [← found, read_eq_poly closed] at here

end Empty

/-- Inference decides whether an expression without annotations has a type in the system of Damas and
Milner, and the type it gives is closed and is the principal one. -/
theorem infer_principal {e : Expr} (plain : e.annotations = []) :
    ∃ r c, Concludes (fun n => infer n e) {} r c ∧
      ((∃ t, r = .ok t) ↔ ∃ Δ A, Milner Δ [] e A) ∧
      ∀ t, r = .ok t → t.exOccurrences = [] ∧ Principal e t.poly := by
  obtain ⟨r, c, concludes⟩ := infer_terminates (c := {}) (e := e) (.of_empty rfl)
  obtain ⟨d, runs⟩ := concludes.unlimited
  let c₀ : Context := ⟨[], ⟨e.maxId + 1, 0⟩⟩
  have start : (({} : Context).resize 0).reserveAbove e.maxId = c₀ := by
    rw [reserveAbove_of_lt (.inl rfl), show (({} : Context).resize 0).allocated = 0 from rfl, Nat.zero_max]
    rfl
  have inferred : ∀ n ≥ d, (fresh >>= inferAt n e).run c₀ = (r, c.resize 0) := by
    intro n deep
    rw [← start, ← run_infer, runs n deep]
  -- all schemes of the expression lead to the one run there is
  have complete : ∀ {Δ A}, Milner Δ [] e A →
      ∃ t, r = .ok t ∧ ∀ {τ}, Instance Δ A τ → Instance Δ t.poly τ := by
    intro Δ A typed
    obtain ⟨t, c', ⟨d', runs'⟩, instances⟩ := typed.inferred (c := c₀) rfl rfl
    have same := (inferred (max d d') (Nat.le_max_left _ _)).symm.trans (runs' _ (Nat.le_max_right _ _))
    cases same
    exact ⟨t, rfl, instances⟩
  have sound : ∀ t, r = .ok t → t.exOccurrences = [] ∧ Milner ∅ [] e t.poly := by
    intro t ok
    have run := inferred d (Nat.le_refl d)
    rw [ok] at run
    obtain ⟨s, c₁, c₂, synth, gen, -⟩ := run_inferAt_ok rfl run
    have derivation : Infers c₀ (.bind none e t) (c₂.dropFrom .marker c₀.allocated) :=
      .generalized synth gen
    exact ⟨(derivation.bind_closed rfl rfl).1, derivation.milner_closed rfl rfl plain⟩
  refine ⟨r, c, concludes, ⟨?_, ?_⟩, fun t ok => ⟨(sound t ok).1, (sound t ok).2, fun {Δ B} typed => ?_⟩⟩
  · rintro ⟨t, ok⟩
    exact ⟨∅, t.poly, (sound t ok).2⟩
  · rintro ⟨Δ, A, typed⟩
    obtain ⟨t, ok, -⟩ := complete typed
    exact ⟨t, ok⟩
  · have none : ∀ {Δ}, Env.Schemes Δ [] := by simp [Env.Schemes]
    obtain ⟨scheme, right⟩ := typed.scheme none
    have left : t.poly.Within ∅ 0 := ((sound t ok).2.scheme none).2
    refine .of_instances scheme (left.mono (Finset.empty_subset Δ) (Nat.le_refl 0)) right fun more inst => ?_
    obtain ⟨t', ok', instances⟩ := complete (typed.weaken none more)
    cases ok.symm.trans ok'
    exact instances inst

/-- The identity, bound to a name and applied to itself: its two uses have different types. -/
theorem infer_principal_let :
    let x : Ident := ⟨"x", 0⟩
    let f : Ident := ⟨"f", 1⟩
    let e : Expr := .letIn f none (.lam x (.var x)) (.app (.var f) (.var f))
    e.annotations = [] ∧ ∃ t c, Concludes (fun n => infer n e) {} (.ok t) c ∧ Principal e t.poly := by
  intro x f e
  have plain : e.annotations = [] := rfl
  let unitToUnit : Poly := .arrow .unit .unit
  have monos : unitToUnit.Mono := ⟨trivial, trivial⟩
  have bound : Milner ∅ [] (.lam x (.var x)) (.all (.arrow (.bvar 0) (.bvar 0))) := by
    refine .gen (x := 0) (by simp) (by simp [Env.Within]) (by simp [Poly.Within]) ?_
    exact .lam mono_fvar (Finset.mem_insert_self 0 ∅) mono_fvar (.var rfl)
  have used : ∀ {τ : Poly}, τ.Mono → τ.Within ∅ 0 →
      Milner ∅ [(f.id, .all (.arrow (.bvar 0) (.bvar 0)))] (.var f) (.arrow τ τ) := fun mono within =>
    .inst (.var rfl) (.inst (.all mono within (.mono ⟨mono, mono⟩)))
  have typed : Milner ∅ [] e unitToUnit :=
    .letIn monos bound (.app monos monos (used monos ⟨trivial, trivial⟩) (used mono_unit trivial))
  obtain ⟨r, c, concludes, typable, principal⟩ := infer_principal plain
  obtain ⟨t, rfl⟩ := typable.2 ⟨∅, _, typed⟩
  exact ⟨plain, t, c, concludes, (principal t rfl).2⟩

end TermBot.Typing
