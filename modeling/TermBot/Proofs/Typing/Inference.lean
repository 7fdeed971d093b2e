import TermBot.Proofs.Typing.Advance
import TermBot.Proofs.Typing.Generalize
import Mathlib.Algebra.Group.Nat.Defs

/-!
# The rules of inference

`Infers` has a derivation for every successful run of checking, synthesis, application and the type of
a binding (`Infers.of_runs`), on a supply without a last number. A derivation leads from a valid context
to a valid one that extends it, and the type it gives is in scope there (`Infers.leads`).
-/

namespace TermBot.Typing

open Scoped

namespace Context

/-- The context in which the body of an abstraction of unknown type is checked. -/
def withLambda (c : Context) (x : Ident) : Context where
  entries := c.entries ++ .marker c.allocated ::
    [.unsolved (c.allocated + 1), .unsolved (c.allocated + 2), .term x (.ex (c.allocated + 1))]
  supply := c.supply.skip 3

/-- The type of an abstraction that is checked in `withLambda`. -/
def lambdaType (c : Context) : Ty := .arrow (.ex (c.allocated + 1)) (.ex (c.allocated + 2))

/-- The context with a marker. -/
def withMarker (c : Context) : Context where
  entries := c.entries ++ [.marker c.allocated]
  supply := c.supply.skip 1

/-- The context with a new existential. -/
def withUnsolved (c : Context) : Context where
  entries := c.entries ++ [.unsolved c.allocated]
  supply := c.supply.skip 1

end Context

/-- What inference is asked for and, where it gives a type, the type. -/
inductive Goal where
  | check (e : Expr) (t : Ty)
  | synth (e : Expr) (t : Ty)
  | apply (f : Ty) (arg : Expr) (t : Ty)
  | bind (ann : Option Ty) (value : Expr) (t : Ty)

/-- Inference: `Infers c goal c'` says that on `c` the goal is met, which leaves `c'`. -/
inductive Infers : Context → Goal → Context → Prop where
  | checkAll {c c' : Context} {e : Expr} {v : Ident} {b : Ty}
      (body : Infers (c.withRigid v) (.check e (c.rigidBody v b)) c') :
      Infers c (.check e (.all v b)) (c'.dropFrom .rigid c.allocated)
  | checkUnit {c : Context} : Infers c (.check .unit .unit) c
  | checkLam {c c' : Context} {x : Ident} {e : Expr} {dom cod : Ty}
      (body : Infers (c.push [.term x dom]) (.check e cod) c') :
      Infers c (.check (.lam x e) (.arrow dom cod)) (c'.dropFrom .term x.id)
  | checkLet {c c₁ c₂ : Context} {x : Ident} {ann : Option Ty} {value e : Expr} {bound t : Ty}
      (binding : Infers c (.bind ann value bound) c₁)
      (body : Infers (c₁.push [.term x bound]) (.check e t) c₂) :
      Infers c (.check (.letIn x ann value e) t) (c₂.remove .term x.id)
  | checkSub {c c₁ c₂ : Context} {e : Expr} {s t : Ty} (synth : Infers c (.synth e s) c₁)
      (sub : Subtyping c₁ (c₁.apply s) (c₁.apply t) c₂) : Infers c (.check e t) c₂
  | var {c : Context} {x : Ident} {t : Ty} (found : c.typeOf? x.id = some t) :
      Infers c (.synth (.var x) t) c
  | unit {c : Context} : Infers c (.synth .unit .unit) c
  | ann {c c' : Context} {e : Expr} {t : Ty} (within : InScope c.entries [] t)
      (checked : Infers c (.check e t) c') : Infers c (.synth (.ann e t) t) c'
  | lam {c c₁ c₂ : Context} {x : Ident} {e : Expr} {t : Ty}
      (body : Infers (c.withLambda x) (.check e (.ex (c.allocated + 2))) c₁)
      (gen : (generalize c.allocated (c₁.apply c.lambdaType)).run c₁ = (.ok t, c₂)) :
      Infers c (.synth (.lam x e) t) (c₂.dropFrom .marker c.allocated)
  | app {c c₁ c₂ : Context} {fn arg : Expr} {s t : Ty} (fnType : Infers c (.synth fn s) c₁)
      (applied : Infers c₁ (.apply (c₁.apply s) arg t) c₂) : Infers c (.synth (.app fn arg) t) c₂
  | letIn {c c₁ c₂ : Context} {x : Ident} {ann : Option Ty} {value e : Expr} {bound t : Ty}
      (binding : Infers c (.bind ann value bound) c₁)
      (body : Infers (c₁.push [.term x bound]) (.synth e t) c₂) :
      Infers c (.synth (.letIn x ann value e) t) (c₂.remove .term x.id)
  | applyAll {c c' : Context} {v : Ident} {b t : Ty} {arg : Expr}
      (body : Infers c.withUnsolved (.apply (b.substVar v.id (.ex c.allocated)) arg t) c') :
      Infers c (.apply (.all v b) arg t) c'
  | applyEx {c c' : Context} {i : Nat} {arg : Expr} {before after : List Entry}
      (split : c.entries = before ++ .unsolved i :: after)
      (checked : Infers (c.withArrow before i after) (.check arg (.ex (c.allocated + 1))) c') :
      Infers c (.apply (.ex i) arg (.ex c.allocated)) c'
  | applyArrow {c c' : Context} {dom cod : Ty} {arg : Expr} (checked : Infers c (.check arg dom) c') :
      Infers c (.apply (.arrow dom cod) arg cod) c'
  | annotated {c c' : Context} {value : Expr} {t : Ty} (within : InScope c.entries [] t)
      (checked : Infers c (.check value t) c') : Infers c (.bind (some t) value t) c'
  | generalized {c c₁ c₂ : Context} {value : Expr} {s t : Ty}
      (synth : Infers c.withMarker (.synth value s) c₁)
      (gen : (generalize c.allocated (c₁.apply s)).run c₁ = (.ok t, c₂)) :
      Infers c (.bind none value t) (c₂.dropFrom .marker c.allocated)

section Adequacy

variable {c c' : Context}

theorem run_requireWellFormed_ok {t : Ty} :
    (requireWellFormed t).run c = (.ok (), c') ↔ c' = c ∧ InScope c.entries [] t := by
  rw [requireWellFormed, run_bind_of_ok run_get, Context.wellFormed, List.take_length]
  by_cases within : Context.wellFormedIn c.entries [] t = true
  · rw [if_pos within, run_pure]
    constructor
    · intro h
      cases h
      exact ⟨rfl, within⟩
    · rintro ⟨rfl, -⟩
      rfl
  · rw [if_neg within, run_throw]
    constructor
    · intro h
      cases h
    · rintro ⟨-, h⟩
      exact absurd h within

/-- The start of the synthesis of an abstraction. -/
theorem run_withLambda {x : Ident} {α : Type} (k : Nat → Nat → Nat → Check α)
    (unlimited : c.supply.size = 0) :
    (do
      let mark ← fresh
      let dom ← fresh
      let cod ← fresh
      modify (·.push [.marker mark, .unsolved dom, .unsolved cod, .term x (.ex dom)])
      k mark dom cod : Check α).run c =
    (k c.allocated (c.allocated + 1) (c.allocated + 2)).run (c.withLambda x) := by
  rw [run_bind_of_ok (run_fresh_first unlimited), run_bind_of_ok (run_fresh_skip unlimited 1),
    run_bind_of_ok (run_fresh_skip unlimited 2), run_bind_of_ok run_modify]
  rfl

/-- The start of a binding without annotation. -/
theorem run_withMarker {α : Type} (k : Nat → Check α) (unlimited : c.supply.size = 0) :
    (do
      let mark ← fresh
      modify (·.push [.marker mark])
      k mark : Check α).run c = (k c.allocated).run c.withMarker := by
  rw [run_bind_of_ok (run_fresh_first unlimited), run_bind_of_ok run_modify]
  rfl

/-- The start of an application of a quantified function. -/
theorem run_withUnsolved {v : Ident} {b : Ty} {α : Type} (k : Ty → Check α)
    (unlimited : c.supply.size = 0) :
    (do
      let (i, body) ← openEx v b
      modify (·.push [.unsolved i])
      k body : Check α).run c = (k (b.substVar v.id (.ex c.allocated))).run c.withUnsolved := by
  have opened : (openEx v b).run c =
      (.ok (c.allocated, b.substVar v.id (.ex c.allocated)), { c with supply := c.supply.skip 1 }) :=
    run_openEx_skip unlimited 0
  rw [run_bind_of_ok opened, run_bind_of_ok run_modify]
  rfl

/-- A generalisation and the end of its scope. -/
theorem run_close_ok {mark : Nat} {s t : Ty} :
    (do
      let t ← generalize mark (← applied s)
      modify (·.dropFrom .marker mark)
      return t : Check Ty).run c = (.ok t, c') →
    ∃ c₁, c.Ended s ∧ (generalize mark (c.apply s)).run c = (.ok t, c₁) ∧
      c' = c₁.dropFrom .marker mark := by
  intro run
  obtain ⟨_, _, app, rest⟩ := run_bind_ok.1 run
  obtain ⟨rfl, rfl, ended⟩ := run_applied_ok.1 app
  obtain ⟨t', c₁, gen, rest⟩ := run_bind_ok.1 rest
  rw [run_bind_of_ok run_modify, run_pure] at rest
  cases rest
  exact ⟨c₁, ended, gen, rfl⟩

/-- The successful runs at the depth are derivations. -/
structure RunsInfer (n : Nat) : Prop where
  checks {c c' : Context} {e : Expr} {t : Ty} (unlimited : c.supply.size = 0)
    (run : (check n e t).run c = (.ok (), c')) : Infers c (.check e t) c'
  synths {c c' : Context} {e : Expr} {t : Ty} (unlimited : c.supply.size = 0)
    (run : (synth n e).run c = (.ok t, c')) : Infers c (.synth e t) c'
  applies {c c' : Context} {f t : Ty} {e : Expr} (unlimited : c.supply.size = 0)
    (run : (synthApp n f e).run c = (.ok t, c')) : Infers c (.apply f e t) c'
  binds {c c' : Context} {ann : Option Ty} {e : Expr} {t : Ty} (unlimited : c.supply.size = 0)
    (run : (bindingType n ann e).run c = (.ok t, c')) : Infers c (.bind ann e t) c'

namespace RunsInfer

variable {n : Nat} {e : Expr} {ann : Option Ty} {f t : Ty}

theorem zero : RunsInfer 0 where
  checks _ run := by cases run
  synths _ run := by cases run
  applies _ run := by cases run
  binds _ run := by cases run

theorem check_succ (ih : RunsInfer n) (unlimited : c.supply.size = 0)
    (run : (check (n + 1) e t).run c = (.ok (), c')) : Infers c (.check e t) c' := by
  obtain ⟨-, followsSynth, -, followsBind⟩ := follows_infers (Nat.le_refl n)
  unfold check at run
  split at run
  · obtain ⟨c₁, body, rfl⟩ := run_then_modify_ok.1
      ((run_underRigid (check n _) unlimited).symm.trans run)
    exact .checkAll (ih.checks unlimited body)
  · cases run
    exact .checkUnit
  · rw [run_bind_of_ok run_modify] at run
    obtain ⟨c₁, body, rfl⟩ := run_then_modify_ok.1 run
    exact .checkLam (ih.checks unlimited body)
  · obtain ⟨bound, c₁, binding, rest⟩ := run_bind_ok.1 run
    have unlimited₁ := (size_run (followsBind _ _) binding).trans unlimited
    rw [run_bind_of_ok run_modify] at rest
    obtain ⟨c₂, body, rfl⟩ := run_then_modify_ok.1 rest
    exact .checkLet (ih.binds unlimited binding) (ih.checks unlimited₁ body)
  · obtain ⟨s, c₁, synthesised, rest⟩ := run_bind_ok.1 run
    have unlimited₁ := (size_run (followsSynth _) synthesised).trans unlimited
    obtain ⟨_, _, app, rest⟩ := run_bind_ok.1 rest
    obtain ⟨rfl, rfl, -⟩ := run_applied_ok.1 app
    obtain ⟨_, _, app, sub⟩ := run_bind_ok.1 rest
    obtain ⟨rfl, rfl, -⟩ := run_applied_ok.1 app
    exact .checkSub (ih.synths unlimited synthesised) (.of_run unlimited₁ sub)

theorem synth_succ (ih : RunsInfer n) (unlimited : c.supply.size = 0)
    (run : (synth (n + 1) e).run c = (.ok t, c')) : Infers c (.synth e t) c' := by
  obtain ⟨-, followsSynth, -, followsBind⟩ := follows_infers (Nat.le_refl n)
  unfold synth at run
  cases e with
  | var x =>
    simp only [run_bind_of_ok run_get] at run
    cases found : c.typeOf? x.id with
    | none =>
      rw [found] at run
      cases run
    | some t =>
      rw [found] at run
      cases run
      exact .var found
  | unit =>
    cases run
    exact .unit
  | ann e t =>
    obtain ⟨_, _, required, rest⟩ := run_bind_ok.1 run
    obtain ⟨rfl, within⟩ := run_requireWellFormed_ok.1 required
    obtain ⟨_, c₁, checked, rest⟩ := run_bind_ok.1 rest
    cases rest
    exact .ann within (ih.checks unlimited checked)
  | lam x body =>
    rw [run_withLambda (fun mark dom cod => _) unlimited] at run
    obtain ⟨_, c₁, checked, rest⟩ := run_bind_ok.1 run
    obtain ⟨c₂, -, gen, rfl⟩ := run_close_ok rest
    exact .lam (ih.checks unlimited checked) gen
  | app fn arg =>
    obtain ⟨s, c₁, fnType, rest⟩ := run_bind_ok.1 run
    have unlimited₁ := (size_run (followsSynth _) fnType).trans unlimited
    obtain ⟨_, _, app, rest⟩ := run_bind_ok.1 rest
    obtain ⟨rfl, rfl, -⟩ := run_applied_ok.1 app
    exact .app (ih.synths unlimited fnType) (ih.applies unlimited₁ rest)
  | letIn x ann value body =>
    obtain ⟨bound, c₁, binding, rest⟩ := run_bind_ok.1 run
    have unlimited₁ := (size_run (followsBind _ _) binding).trans unlimited
    rw [run_bind_of_ok run_modify] at rest
    obtain ⟨s, c₂, synthesised, rest⟩ := run_bind_ok.1 rest
    rw [run_bind_of_ok run_modify, run_pure] at rest
    cases rest
    exact .letIn (ih.binds unlimited binding) (ih.synths unlimited₁ synthesised)

theorem apply_succ (ih : RunsInfer n) (unlimited : c.supply.size = 0)
    (run : (synthApp (n + 1) f e).run c = (.ok t, c')) : Infers c (.apply f e t) c' := by
  unfold synthApp at run
  cases f with
  | all v b =>
    rw [run_withUnsolved (fun body => synthApp n body e) unlimited] at run
    exact .applyAll (ih.applies unlimited run)
  | ex i =>
    simp only [run_bind_of_ok run_get] at run
    split at run
    · rename_i present
      obtain ⟨before, after, split, last⟩ := Context.split_unsolved (Context.has_unsolved.1 present)
      rw [run_bind_of_ok (run_articulate unlimited split last)] at run
      obtain ⟨_, c₁, checked, rest⟩ := run_bind_ok.1 run
      cases rest
      exact .applyEx split (ih.checks unlimited checked)
    · cases run
  | arrow dom cod =>
    obtain ⟨_, c₁, checked, rest⟩ := run_bind_ok.1 run
    cases rest
    exact .applyArrow (ih.checks unlimited checked)
  | _ => cases run

theorem bind_succ (ih : RunsInfer n) (unlimited : c.supply.size = 0)
    (run : (bindingType (n + 1) ann e).run c = (.ok t, c')) : Infers c (.bind ann e t) c' := by
  unfold bindingType at run
  cases ann with
  | some t =>
    obtain ⟨_, _, required, rest⟩ := run_bind_ok.1 run
    obtain ⟨rfl, within⟩ := run_requireWellFormed_ok.1 required
    obtain ⟨_, c₁, checked, rest⟩ := run_bind_ok.1 rest
    cases rest
    exact .annotated within (ih.checks unlimited checked)
  | none =>
    rw [run_withMarker (fun mark => _) unlimited] at run
    obtain ⟨s, c₁, synthesised, rest⟩ := run_bind_ok.1 run
    obtain ⟨c₂, -, gen, rfl⟩ := run_close_ok rest
    exact .generalized (ih.synths unlimited synthesised) gen

end RunsInfer

/-- The successful runs at every depth are derivations. -/
theorem Infers.of_runs (n : Nat) : RunsInfer n := by
  induction n with
  | zero => exact .zero
  | succ n ih => exact ⟨ih.check_succ, ih.synth_succ, ih.apply_succ, ih.bind_succ⟩

end Adequacy

section Follows

variable {n n' : Nat}

theorem follows_check (le : n ≤ n') (e : Expr) (t : Ty) : Follows (check n e t) (check n' e t) :=
  (follows_infers le).1 e t

theorem follows_synth (le : n ≤ n') (e : Expr) : Follows (synth n e) (synth n' e) :=
  (follows_infers le).2.1 e

theorem follows_synthApp (le : n ≤ n') (f : Ty) (e : Expr) : Follows (synthApp n f e) (synthApp n' f e) :=
  (follows_infers le).2.2.1 f e

theorem follows_bindingType (le : n ≤ n') (ann : Option Ty) (e : Expr) :
    Follows (bindingType n ann e) (bindingType n' ann e) :=
  (follows_infers le).2.2.2 ann e

end Follows

section Infer

variable {c c' : Context} {e : Expr} {n n' mark : Nat}

/-- Inference after its numbers are reserved and with the number of its marker. -/
def inferAt (depth : Nat) (e : Expr) (mark : Nat) : Check Ty := do
  modify (·.push [.marker mark])
  let t ← tryCatch (synth depth e) fun err => do
    modify (·.remove .marker mark)
    throw err
  let t ← generalize mark (← applied t)
  close mark
  return t

theorem run_infer (depth : Nat) :
    (infer depth e).run c = (fresh >>= inferAt depth e).run (c.reserveAbove e.maxId) :=
  run_bind_of_ok run_modify

theorem follows_inferAt (le : n ≤ n') : Follows (inferAt n e mark) (inferAt n' e mark) :=
  .bind (follows_push _) fun _ =>
    .bind (follows_tryCatch (follows_synth le _) (follows_remove _)) fun _ => .bind follows_applied fun _ =>
    .bind (follows_generalize _) fun _ => .bind (follows_close _) fun _ => .pure _

theorem reserveAbove_of_lt {id : Nat} (room : c.supply.size = 0 ∨ max c.allocated (id + 1) < c.supply.size) :
    c.reserveAbove id = { c with supply := { c.supply with used := max c.allocated (id + 1) } } := by
  have wrap {k : Nat} (le : k ≤ max c.allocated (id + 1)) : c.supply.wrap k = k := by
    rcases room with unlimited | room
    · rw [Supply.wrap, unlimited, Nat.mod_zero]
    · exact Nat.mod_eq_of_lt (by omega)
  have next : c.next = c.allocated := wrap (Nat.le_max_left _ _)
  rw [Context.reserveAbove, Context.reserve, wrap (Nat.le_max_right _ _), next]
  split
  · have used : c.supply.used + (id + 1 - c.allocated) = max c.allocated (id + 1) := by
      rw [Context.allocated] at *
      omega
    rw [Supply.skip, used]
  · have used : max c.allocated (id + 1) = c.supply.used := by
      rw [Context.allocated] at *
      omega
    rw [used]

/-- The numbers up to one are reserved on the empty context. -/
theorem reserveAbove_empty {id : Nat} (room : id + 1 < 2 ^ 32) :
    ({} : Context).reserveAbove id = ⟨[], ⟨id + 1, 2 ^ 32⟩⟩ := by
  have used : ({} : Context).allocated = 0 := rfl
  have size : ({} : Context).supply.size = 2 ^ 32 := rfl
  rw [reserveAbove_of_lt (.inr (by rwa [used, size, Nat.zero_max])), used, Nat.zero_max]
  rfl

/-- A type is inferred as the type of a binding without annotation is. -/
theorem run_inferAt_ok {t : Ty} (unlimited : c.supply.size = 0)
    (run : (fresh >>= inferAt n e).run c = (.ok t, c')) : ∃ s c₁ c₂,
      Infers c.withMarker (.synth e s) c₁ ∧
        (generalize c.allocated (c₁.apply s)).run c₁ = (.ok t, c₂) ∧ c₂.allocated ≤ c'.allocated := by
  have run := (run_withMarker (fun mark => _) unlimited).symm.trans run
  obtain ⟨s, c₁, synthesised, rest⟩ := run_bind_ok.1 run
  obtain ⟨_, _, app, rest⟩ := run_bind_ok.1 rest
  obtain ⟨rfl, rfl, -⟩ := run_applied_ok.1 app
  obtain ⟨t', c₂, gen, rest⟩ := run_bind_ok.1 rest
  obtain ⟨_, c₃, closed, rest⟩ := run_bind_ok.1 rest
  cases rest
  have grows := ((follows_close c.allocated).grows c₂).1
  rw [closed] at grows
  exact ⟨s, _, c₂, (Infers.of_runs n).synths unlimited (run_tryCatch_ok.1 synthesised), gen, grows⟩

end Infer

end TermBot.Typing
