import TermBot.Proofs.Typing.Coherent
import Mathlib.Algebra.Group.Nat.Defs

/-!
# Every context that inference reaches is well formed

From a regular context, a traced computation reaches regular contexts only, also where it fails, and
what its functions hand over is in scope: `Safe`. `Safe.bind` needs that of the first part, and of the
second part in the context that a success of the first one leaves, about which the rules of
subtyping and of inference say enough.
-/

namespace TermBot.Typing

open Scoped

/-- The context of a moment is regular, and the types that are handed over there are in scope. -/
structure Moment.Regular (x : Moment) : Prop where
  context : x.context.Regular
  handed : ∀ t ∈ x.handed, InScope x.context.entries [] t ∧ x.context.Apart t

/-- From this context, all that is reached is regular, and what a failure leaves too. -/
structure Safe {α : Type} (m : Traced α) (c : Context) : Prop where
  moments : ∀ x ∈ (m c).moments, x.Regular
  failed : ∀ err, (m c).result = .error err → (m c).context.Regular

theorem Leads.skip {c : Context} (valid : c.Valid) (k : Nat) :
    Leads c { c with supply := c.supply.skip k } :=
  ⟨valid.withSupply (Nat.le_add_right _ _), .refl _, Nat.le_add_right _ _, rfl⟩

namespace Safe

variable {α β : Type} {m : Check α} {m' : Traced α} {f : α → Traced β} {c c' : Context} {a : α} {t : Ty}
  {i : Nat} {v : Ident} {b : Ty}

theorem done : Safe (pure a : Traced α) c where
  moments _ mem := by cases mem
  failed _ failed := by cases failed

theorem bind (tracks : Tracks m m') (first : Safe m' c)
    (rest : ∀ {a c₁}, m.run c = (.ok a, c₁) → Safe (f a) c₁) : Safe (m' >>= f) c := by
  cases out : (m' c).result with
  | error err =>
    constructor
    · rw [Traced.bind_of_error out]
      exact first.moments
    · rw [Traced.bind_of_error out]
      exact fun _ _ => first.failed err out
  | ok a =>
    have second := rest ((tracks.erases c).trans (by rw [out]))
    constructor
    · rw [Traced.bind_of_ok out]
      exact List.forall_mem_append.2 ⟨first.moments, second.moments⟩
    · rw [Traced.bind_of_ok out]
      exact second.failed

theorem step {r : Except TypeError α} (run : m.run c = (r, c')) (regular : c'.Regular) :
    Safe (Traced.step m) c := by
  constructor
  · simp only [Traced.step, run, List.mem_singleton, forall_eq]
    exact ⟨regular, by simp⟩
  · simp only [Traced.step, run]
    exact fun _ _ => regular

theorem step_bind (run : m.run c = (.ok a, c')) (regular : c'.Regular) (rest : Safe (f a) c') :
    Safe (Traced.step m >>= f) c := by
  have first : Safe (Traced.step m) c := .step run regular
  have out : (Traced.step m c).result = .ok a := by rw [Traced.step, run]
  have context : (Traced.step m c).context = c' := by rw [Traced.step, run]
  constructor
  · rw [Traced.bind_of_ok out, context]
    exact List.forall_mem_append.2 ⟨first.moments, rest.moments⟩
  · rw [Traced.bind_of_ok out, context]
    exact rest.failed

theorem fail {err : TypeError} (regular : c.Regular) : Safe (Traced.step (throw err) : Traced α) c :=
  .step run_throw regular

theorem read {f : Context → Traced β} (regular : c.Regular) (rest : Safe (f c) c) :
    Safe (Traced.step get >>= f) c := .step_bind run_get regular rest

theorem change {g : Context → Context} (regular : (g c).Regular) : Safe (Traced.step (modify g)) c :=
  .step run_modify regular

theorem handing {ts : List Ty} (regular : c.Regular)
    (handed : ∀ t ∈ ts, InScope c.entries [] t ∧ c.Apart t) (rest : Safe m' c) :
    Safe (do Traced.handing ts; m') c where
  moments := List.forall_mem_cons.2 ⟨⟨regular, handed⟩, rest.moments⟩
  failed := rest.failed

theorem returning (regular : c.Regular) (within : InScope c.entries [] t) (apart : c.Apart t) :
    Safe (Traced.returning t) c := .handing regular (List.forall_mem_singleton.2 ⟨within, apart⟩) .done

theorem apply {f : Ty → Traced β} (regular : c.Regular) (rest : Safe (f (c.apply t)) c) :
    Safe (Traced.step (applied t) >>= f) c := by
  by_cases ended : c.Ended t
  · exact .step_bind (run_applied_ok.2 ⟨rfl, rfl, ended⟩) regular rest
  · have run : (applied t).run c = (.error .tooDeep, c) := by
      rw [run_applied, if_pos (by simpa [Context.Ended] using ended)]
    refine .bind (.applied t) (.step run regular) fun ok => ?_
    rw [run] at ok
    cases ok

theorem require {f : PUnit → Traced β} (regular : c.Regular)
    (rest : InScope c.entries [] t → Safe (f ()) c) : Safe (Traced.step (requireWellFormed t) >>= f) c := by
  by_cases within : InScope c.entries [] t
  · exact .step_bind (run_requireWellFormed_ok.2 ⟨rfl, within⟩) regular (rest within)
  · have run : (requireWellFormed t).run c = (.error (.illFormed t), c) := by
      have outside : ¬ Context.wellFormedIn c.entries [] t = true := within
      rw [requireWellFormed, run_bind_of_ok run_get, Context.wellFormed, List.take_length,
        if_neg outside, run_throw]
    refine .bind (.of_local local_requireWellFormed) (.step run regular) fun ok => ?_
    rw [run] at ok
    cases ok

/-- What is done under a quantifier that is opened with a rigid variable. -/
theorem underRigid {k : Ty → Check Unit} {k' : Ty → Traced Unit} (regular : c.Regular)
    (unlimited : c.supply.size = 0) (tracks : ∀ body, Tracks (k body) (k' body))
    (body : Safe (k' (c.rigidBody v b)) (c.withRigid v))
    (leads : ∀ {c'}, (k (c.rigidBody v b)).run (c.withRigid v) = (.ok (), c') → Leads (c.withRigid v) c') :
    Safe (do
      let (w, body) ← Traced.step (openRigid v b)
      Traced.step (modify (·.push [.rigid w]))
      k' body
      Traced.step (modify (·.dropFrom .rigid w.id))) c := by
  refine .step_bind (run_openRigid unlimited) (regular.leads (.skip regular.valid 1)) ?_
  refine .step_bind run_modify regular.withRigid (.bind (tracks _) body fun run => .change ?_)
  exact regular.leads (leads run).dropRigid

/-- What is done under a quantifier that is opened with an existential. -/
theorem underEx {k : Ty → Check Unit} {k' : Ty → Traced Unit} (regular : c.Regular)
    (unlimited : c.supply.size = 0) (tracks : ∀ body, Tracks (k body) (k' body))
    (body : Safe (k' (c.exBody v b)) c.withEx)
    (advances : ∀ {c'}, (k (c.exBody v b)).run c.withEx = (.ok (), c') → Advances c.withEx c') :
    Safe (do
      let mark ← Traced.step fresh
      let (j, body) ← Traced.step (openEx v b)
      Traced.step (modify (·.push [.marker mark, .unsolved j]))
      k' body
      Traced.step (modify (·.dropFrom .marker mark))) c := by
  refine .step_bind (run_fresh_first unlimited) (regular.leads (.skip regular.valid 1)) ?_
  refine .step_bind (run_openEx_skip unlimited 1) (regular.leads (.skip regular.valid 2)) ?_
  refine .step_bind run_modify regular.withEx (.bind (tracks _) body fun run => .change ?_)
  exact regular.leads (advances run).dropEx.leads

/-- Splitting an existential. -/
theorem articulate {before after : List Entry} (regular : c.Regular) (unlimited : c.supply.size = 0)
    (split : c.entries = before ++ .unsolved i :: after) (last : .unsolved i ∉ after) :
    Safe (Traced.articulate i) c := by
  refine .step_bind (run_fresh_first unlimited) (regular.leads (.skip regular.valid 1)) ?_
  refine .step_bind (run_fresh_skip unlimited 1) (regular.leads (.skip regular.valid 2)) ?_
  refine .step_bind run_modify ?_ .done
  rw [Nat.add_zero, replace_eq_withArrow split last]
  exact regular.leads (Advances.withArrow regular.valid split).leads

end Safe

section Subtyping

variable {c c₁ : Context} {n i : Nat} {a b t : Ty} {side : Side}

/-- The first step of instantiation leaves a regular context. -/
theorem Context.Regular.solveDirectly {r : Except TypeError Bool} (regular : c.Regular)
    (run : (solveDirectly i t).run c = (r, c₁)) : c₁.Regular := by
  cases r with
  | ok solved =>
    obtain ⟨before, after, split, last, result⟩ := run_solveDirectly_ok.1 run
    rcases result with ⟨-, mono, within, rfl⟩ | ⟨-, out, j, mid, back, rfl, rfl, lastj, rfl⟩ |
      ⟨-, -, -, rfl⟩
    · exact regular.leads (((Inst.solve split last mono within : Inst .left ..).advances regular.valid)).leads
    · exact regular.leads (((Inst.reach split last lastj out : Inst .left ..).advances regular.valid)).leads
    · exact regular
  | error err => exact run_solveDirectly_error run ▸ regular

theorem safe_instantiateOn (regular : c.Regular) (unlimited : c.supply.size = 0)
    (declared : InScope c.entries [] (.ex i)) (within : InScope c.entries [] t) (apart : c.Apart t) :
    Safe (Traced.instantiateOn side n i t) c := by
  induction n generalizing side c i t with
  | zero => cases side <;> exact .fail regular
  | succ n ih =>
    refine .handing regular (List.forall_mem_cons.2 ⟨⟨declared, apart_of_mono rfl⟩,
      List.forall_mem_singleton.2 ⟨within, apart⟩⟩) ?_
    refine .bind (.of_local local_solveDirectly) (.step rfl (regular.solveDirectly rfl))
      fun {solved c₁} run => ?_
    obtain ⟨before, after, split, last, result⟩ := run_solveDirectly_ok.1 run
    rcases result with ⟨rfl, -⟩ | ⟨rfl, -⟩ | ⟨rfl, -, noEx, same⟩
    · exact .done
    · exact .done
    · obtain rfl : c = c₁ := same.symm
      rw [if_neg (by simp)]
      cases t with
      | arrow a b =>
        refine .bind (tracks_articulate _) (.articulate regular unlimited split last) fun split' => ?_
        rw [run_articulate unlimited split last] at split'
        cases split'
        have opened := Advances.withArrow regular.valid split
        have wider := (inScope_arrow.1 (opened.leads.ext.inScope within))
        have apart := apart_arrow.1 (apart.leads opened.leads)
        refine .bind (tracks_instantiateOn _ _ _ _) (ih (regular.leads opened.leads) unlimited
          (by simp [Context.withArrow]) wider.1 apart.1) fun {_ c₂} domain => ?_
        have first := advances_instantiateOn opened.valid unlimited domain
        have regular₂ := regular.leads (opened.trans first).leads
        refine .apply regular₂ (ih regular₂ (first.size.trans unlimited) ?_ ?_ ?_)
        · exact first.ext.inScope (by simp [Context.withArrow])
        · exact first.valid.inScope_apply (first.ext.inScope wider.2)
        · exact (apart.2.leads first.leads).apply first.valid
      | all v b =>
        cases side with
        | left =>
          exact .underRigid regular unlimited (fun _ => tracks_instantiateOn .left n i _)
            (ih regular.withRigid unlimited declared.append_right (InScope.rigidBody within)
              apart.rigidBody)
            fun inner => (advances_instantiateOn regular.valid.withRigid unlimited inner).leads
        | right =>
          exact .underEx regular unlimited (fun _ => tracks_instantiateOn .right n i _)
            (ih regular.withEx unlimited declared.append_right (InScope.exBody within) apart.exBody)
            fun inner => advances_instantiateOn regular.valid.withEx unlimited inner
      | _ => exact .fail regular

theorem safe_instantiate (regular : c.Regular) (unlimited : c.supply.size = 0)
    (withinA : InScope c.entries [] a) (withinB : InScope c.entries [] b) (apartA : c.Apart a)
    (apartB : c.Apart b) : Safe (Traced.instantiate n a b) c := by
  refine .read regular ?_
  cases left : c.openEx? a b with
  | some i =>
    obtain ⟨rfl, -⟩ := openEx?_eq_some.1 left
    exact safe_instantiateOn regular unlimited withinA withinB apartB
  | none =>
    cases right : c.openEx? b a with
    | some j =>
      obtain ⟨rfl, -⟩ := openEx?_eq_some.1 right
      exact safe_instantiateOn regular unlimited withinB withinA apartA
    | none => exact .fail regular

theorem safe_subtype (regular : c.Regular) (unlimited : c.supply.size = 0)
    (withinA : InScope c.entries [] a) (withinB : InScope c.entries [] b) (apartA : c.Apart a)
    (apartB : c.Apart b) : Safe (Traced.subtype n a b) c := by
  induction n generalizing c a b with
  | zero => exact .fail regular
  | succ n ih =>
    unfold Traced.subtype
    refine .handing regular (List.forall_mem_cons.2 ⟨⟨withinA, apartA⟩,
      List.forall_mem_singleton.2 ⟨withinB, apartB⟩⟩) ?_
    split
    · exact .done
    · rw [inScope_arrow] at withinA withinB
      rw [apart_arrow] at apartA apartB
      refine .bind (tracks_subtype _ _ _) (ih regular unlimited withinB.1 withinA.1 apartB.1 apartA.1)
        fun {_ c₁} domain => ?_
      have first := advances_subtype regular.valid unlimited domain
      have regular₁ := regular.leads first.leads
      refine .apply regular₁ (.apply regular₁ (ih regular₁ (first.size.trans unlimited) ?_ ?_ ?_ ?_))
      · exact first.valid.inScope_apply (first.ext.inScope withinA.2)
      · exact first.valid.inScope_apply (first.ext.inScope withinB.2)
      · exact (apartA.2.leads first.leads).apply first.valid
      · exact (apartB.2.leads first.leads).apply first.valid
    · exact .underRigid regular unlimited (fun _ => tracks_subtype n _ _)
        (ih regular.withRigid unlimited withinA.append_right (InScope.rigidBody withinB)
          apartA.withRigid apartB.rigidBody)
        fun inner => (advances_subtype regular.valid.withRigid unlimited inner).leads
    · exact .underEx regular unlimited (fun body => tracks_subtype n body _)
        (ih regular.withEx unlimited (InScope.exBody withinA) withinB.append_right apartA.exBody
          apartB.withEx)
        fun inner => advances_subtype regular.valid.withEx unlimited inner
    · split
      · exact .fail regular
      · refine .read regular ?_
        split
        · exact .done
        · exact .fail regular
    · split
      · exact safe_instantiate regular unlimited withinA withinB apartA apartB
      · refine .read regular ?_
        split
        · exact .done
        · exact .fail regular
    · exact safe_instantiate regular unlimited withinA withinB apartA apartB

end Subtyping

section Generalize

variable {c c₁ : Context} {mark : Nat} {t u : Ty}

theorem safe_rename (regular : c.Regular) (ids : List Nat) (taken : List String) (t : Ty) :
    Safe (Traced.rename ids taken t) c := by
  induction ids generalizing c taken t with
  | nil => exact .done
  | cons i rest ih =>
    have skipped : Context.Regular { c with supply := c.supply.skip 1 } :=
      regular.leads (.skip regular.valid 1)
    refine .step_bind rfl skipped ?_
    exact .bind (tracks_rename _ _ _) (ih (regular.leads (.skip regular.valid 1)) _ _) fun _ => .done

theorem safe_generalize (regular : c.Regular) : Safe (Traced.generalize mark t) c := by
  refine .read regular ?_
  cases c.after? mark with
  | none => exact .done
  | some scope => exact .bind (tracks_rename _ _ _) (safe_rename regular _ _ _) fun _ => .done

/-- The end of a scope that a marker opened, with a generalisation. -/
theorem Safe.close {rest : List Entry} {s : Supply} (regular : c.Regular) (regular₁ : c₁.Regular)
    (leads : Leads ⟨c.entries ++ .marker c.allocated :: rest, s⟩ c₁) (unlimited : c.supply.size = 0)
    (size : s.size = c.supply.size) (le : c.allocated ≤ s.used) (unmarked : .marker c.allocated ∉ rest)
    (flat : rigidIds rest = []) (within : InScope c₁.entries [] u) (apart : c₁.Apart u) :
    Safe (do
      let t ← Traced.generalize c.allocated (← Traced.step (applied u))
      Traced.step (modify (·.dropFrom .marker c.allocated))
      Traced.returning t) c₁ := by
  refine .apply regular₁ (.bind (tracks_generalize _ _) (safe_generalize regular₁) fun {t c₂} gen => ?_)
  have result : (c₂.dropFrom .marker c.allocated).Apart t :=
    leads.apart_generalize regular.valid unlimited size le unmarked flat within gen apart
  obtain ⟨front, back, pairs, -, -, -, -, dropped, left, output⟩ :=
    leads.generalize unlimited size le unmarked flat within gen
  rw [dropped] at result
  have regular₂ := regular.leads left.leads
  refine .step_bind run_modify ?_ ?_
  · rwa [dropped]
  · rw [dropped]
    exact .returning regular₂ output result

end Generalize

section Infers

variable {c c' : Context} {n : Nat} {e : Expr} {ann : Option Ty} {t f : Ty}

theorem leads_check (valid : c.Valid) (unlimited : c.supply.size = 0) (within : InScope c.entries [] t)
    (run : (check n e t).run c = (.ok (), c')) : Leads c c' :=
  (((Infers.of_runs n).checks unlimited run).leads valid unlimited within).1

/-- A type that is synthesised is in scope, and its binders capture nothing. -/
theorem leads_synth (regular : c.Regular) (unlimited : c.supply.size = 0) (admits : c.Admits e)
    (run : (synth n e).run c = (.ok t, c')) : Leads c c' ∧ InScope c'.entries [] t ∧ c'.Apart t := by
  have infers := (Infers.of_runs n).synths unlimited run
  exact infers.gives ⟨regular.valid, unlimited, trivial, regular.tidy admits, by simp [Goal.given]⟩ rfl

theorem leads_bindingType (regular : c.Regular) (unlimited : c.supply.size = 0) (admits : c.Admits e)
    (given : ∀ t ∈ ann, t.exOccurrences = [] ∧ c.Apart t)
    (run : (bindingType n ann e).run c = (.ok t, c')) :
    Leads c c' ∧ InScope c'.entries [] t ∧ c'.Apart t := by
  have infers := (Infers.of_runs n).binds unlimited run
  have tidy : c.Tidy (ann.toList ++ e.annotations) := by
    refine ⟨(regular.tidy admits).terms, fun t mem => ?_⟩
    exact (List.mem_append.1 mem).elim (fun mem => given t (Option.mem_toList.1 mem))
      (admits.annotations t)
  exact infers.gives ⟨regular.valid, unlimited, trivial, tidy, by simp [Goal.given]⟩ rfl

/-- At the depth, inference is safe from a regular context that admits the expression. -/
structure SafeInfer (n : Nat) : Prop where
  checks {c : Context} {e : Expr} {t : Ty} (regular : c.Regular) (unlimited : c.supply.size = 0)
    (within : InScope c.entries [] t) (apart : c.Apart t) (admits : c.Admits e) : Safe (Traced.check n e t) c
  synths {c : Context} {e : Expr} (regular : c.Regular) (unlimited : c.supply.size = 0)
    (admits : c.Admits e) : Safe (Traced.synth n e) c
  applies {c : Context} {f : Ty} {e : Expr} (regular : c.Regular) (unlimited : c.supply.size = 0)
    (within : InScope c.entries [] f) (apart : c.Apart f) (admits : c.Admits e) :
    Safe (Traced.synthApp n f e) c
  binds {c : Context} {ann : Option Ty} {e : Expr} (regular : c.Regular) (unlimited : c.supply.size = 0)
    (given : ∀ t ∈ ann, t.exOccurrences = [] ∧ c.Apart t) (admits : c.Admits e) :
    Safe (Traced.bindingType n ann e) c

namespace SafeInfer

theorem zero : SafeInfer 0 where
  checks regular _ _ _ _ := .fail regular
  synths regular _ _ := .fail regular
  applies regular _ _ _ _ := .fail regular
  binds regular _ _ _ := .fail regular

theorem check_succ (ih : SafeInfer n) (regular : c.Regular) (unlimited : c.supply.size = 0)
    (within : InScope c.entries [] t) (apart : c.Apart t) (admits : c.Admits e) :
    Safe (Traced.check (n + 1) e t) c := by
  obtain ⟨tracksCheck, tracksSynth, -, tracksBind⟩ := tracks_infers n
  unfold Traced.check
  refine .handing regular (List.forall_mem_singleton.2 ⟨within, apart⟩) ?_
  split
  · exact .underRigid regular unlimited (fun _ => tracksCheck _ _)
      (ih.checks regular.withRigid unlimited (InScope.rigidBody within) apart.rigidBody admits.withRigid)
      fun inner => leads_check regular.valid.withRigid unlimited (InScope.rigidBody within) inner
  · exact .done
  · obtain ⟨below, new, inside, -⟩ := admits.lam
    rw [inScope_arrow] at within
    rw [apart_arrow] at apart
    have regular₁ := regular.pushTerm within.1 apart.1 below new
    refine .step_bind run_modify regular₁ (.bind (tracksCheck _ _)
      (ih.checks regular₁ unlimited within.2.append_right apart.2.pushTerm inside) fun inner => .change ?_)
    exact regular.leads (leads_check regular₁.valid unlimited within.2.append_right inner).dropTerm
  · rename_i x ann value body _
    obtain ⟨admitsValue, given, inBody⟩ := admits.letIn
    refine .bind (tracksBind _ _) (ih.binds regular unlimited given admitsValue)
      fun {bound c₁} run => ?_
    obtain ⟨first, output, boundApart⟩ :=
      leads_bindingType regular unlimited admitsValue given run
    obtain ⟨below, new, inside⟩ := inBody first
    have regular₁ := (regular.leads first).pushTerm output boundApart below new
    have within₁ : InScope (c₁.push [.term x bound]).entries [] t :=
      (first.ext.inScope within).append_right
    have unlimited₁ := first.size.trans unlimited
    refine .step_bind run_modify regular₁ (.bind (tracksCheck _ _)
      (ih.checks regular₁ unlimited₁ within₁ (apart.leads first).pushTerm inside) fun inner => .change ?_)
    exact regular.leads
      (first.trans (leads_check regular₁.valid unlimited₁ within₁ inner).removeTerm.1)
  · refine .bind (tracksSynth _) (ih.synths regular unlimited admits) fun {s c₁} run => ?_
    obtain ⟨first, output, sApart⟩ := leads_synth regular unlimited admits run
    have regular₁ := regular.leads first
    refine .apply regular₁ (.apply regular₁ (safe_subtype regular₁ (first.size.trans unlimited)
      (first.valid.inScope_apply output) (first.valid.inScope_apply (first.ext.inScope within))
      (sApart.apply first.valid) ((apart.leads first).apply first.valid)))

theorem synth_succ (ih : SafeInfer n) (regular : c.Regular) (unlimited : c.supply.size = 0)
    (admits : c.Admits e) : Safe (Traced.synth (n + 1) e) c := by
  obtain ⟨tracksCheck, tracksSynth, -, tracksBind⟩ := tracks_infers n
  unfold Traced.synth
  cases e with
  | var x =>
    refine .read regular ?_
    cases found : c.typeOf? x.id with
    | none => exact .fail regular
    | some t =>
      obtain ⟨before, y, after, split, -, -⟩ := Context.typeOf?_eq_some found
      have mem : .term y t ∈ c.entries := by simp [split]
      exact .returning regular (regular.valid.ordered.of_term mem) (regular.terms mem).2
  | unit => exact .returning regular inScope_unit (apart_of_mono rfl)
  | ann e t =>
    obtain ⟨inner, -, apart⟩ := admits.annotated
    refine .require regular fun within => ?_
    refine .bind (tracksCheck _ _) (ih.checks regular unlimited within apart inner) fun run => ?_
    have leads := leads_check regular.valid unlimited within run
    exact .returning (regular.leads leads) (leads.ext.inScope within) (apart.leads leads)
  | lam x body =>
    obtain ⟨below, new, -, inside⟩ := admits.lam (t := .unit)
    have regular₁ := regular.withLambda below new
    have within : InScope (c.withLambda x).entries [] (.ex (c.allocated + 2)) := by
      simp [Context.withLambda]
    refine .step_bind (run_fresh_first unlimited) (regular.leads (.skip regular.valid 1)) ?_
    refine .step_bind (run_fresh_skip unlimited 1) (regular.leads (.skip regular.valid 2)) ?_
    refine .step_bind (run_fresh_skip unlimited 2) (regular.leads (.skip regular.valid 3)) ?_
    refine .step_bind run_modify regular₁ (.bind (tracksCheck _ _)
      (ih.checks regular₁ unlimited within (apart_of_mono rfl) inside) fun inner => ?_)
    have leads := leads_check regular₁.valid unlimited within inner
    exact .close regular (regular₁.leads leads) leads unlimited rfl
      (by simp [Supply.skip, Context.allocated]) (by simp) (by simp)
      (leads.ext.inScope (by simp [Context.withLambda])) (apart_of_mono rfl)
  | app fn arg =>
    obtain ⟨admitsFn, admitsArg⟩ := admits.app
    refine .bind (tracksSynth _) (ih.synths regular unlimited admitsFn) fun {s c₁} run => ?_
    obtain ⟨first, output, sApart⟩ := leads_synth regular unlimited admitsFn run
    have regular₁ := regular.leads first
    exact .apply regular₁ (ih.applies regular₁ (first.size.trans unlimited)
      (first.valid.inScope_apply output) (sApart.apply first.valid) (admitsArg.leads first))
  | letIn x ann value body =>
    obtain ⟨admitsValue, given, inBody⟩ := admits.letIn
    refine .bind (tracksBind _ _) (ih.binds regular unlimited given admitsValue)
      fun {bound c₁} run => ?_
    obtain ⟨first, output, boundApart⟩ :=
      leads_bindingType regular unlimited admitsValue given run
    obtain ⟨below, new, inside⟩ := inBody first
    have regular₁ := (regular.leads first).pushTerm output boundApart below new
    have unlimited₁ := first.size.trans unlimited
    refine .step_bind run_modify regular₁ (.bind (tracksSynth _)
      (ih.synths regular₁ unlimited₁ inside) fun {t c₂} inner => ?_)
    obtain ⟨second, result, tApart⟩ := leads_synth regular₁ unlimited₁ inside inner
    have regular₂ := regular.leads (first.trans second.removeTerm.1)
    exact .step_bind run_modify regular₂ (.returning regular₂ (second.removeTerm.2 result) tApart.remove)

theorem apply_succ (ih : SafeInfer n) (regular : c.Regular) (unlimited : c.supply.size = 0)
    (within : InScope c.entries [] f) (apart : c.Apart f) (admits : c.Admits e) :
    Safe (Traced.synthApp (n + 1) f e) c := by
  obtain ⟨tracksCheck, -, -, -⟩ := tracks_infers n
  unfold Traced.synthApp
  refine .handing regular (List.forall_mem_singleton.2 ⟨within, apart⟩) ?_
  cases f with
  | all v b =>
    have opened := Leads.withUnsolved regular.valid
    have regular₁ := regular.leads opened
    have wider : InScope c.withUnsolved.entries [v.id] b := (inScope_all.1 within).append_right
    refine .step_bind (run_openEx_skip unlimited 0) (regular.leads (.skip regular.valid 1)) ?_
    exact .step_bind run_modify regular₁ (ih.applies regular₁ unlimited
      (wider.substVar (by simp [Context.withUnsolved])) (apart.unsolvedBody regular.valid)
      (admits.leads opened))
  | ex i =>
    refine .read regular ?_
    split
    · rename_i present
      obtain ⟨before, after, split, last⟩ := Context.split_unsolved (Context.has_unsolved.1 present)
      refine .bind (tracks_articulate _) (.articulate regular unlimited split last) fun run => ?_
      rw [run_articulate unlimited split last] at run
      cases run
      have opened := (Advances.withArrow regular.valid split).leads
      have regular₁ := regular.leads opened
      have domain : InScope (c.withArrow before i after).entries [] (.ex (c.allocated + 1)) := by
        simp [Context.withArrow]
      refine .bind (tracksCheck _ _) (ih.checks regular₁ unlimited domain (apart_of_mono rfl)
        (admits.leads opened)) fun inner => ?_
      have leads := leads_check opened.valid unlimited domain inner
      exact .returning (regular₁.leads leads)
        (leads.ext.inScope (by simp [Context.withArrow])) (apart_of_mono rfl)
    · exact .fail regular
  | arrow dom cod =>
    rw [inScope_arrow] at within
    rw [apart_arrow] at apart
    refine .bind (tracksCheck _ _) (ih.checks regular unlimited within.1 apart.1 admits) fun inner => ?_
    have leads := leads_check regular.valid unlimited within.1 inner
    exact .returning (regular.leads leads) (leads.ext.inScope within.2) (apart.2.leads leads)
  | _ => exact .fail regular

theorem bind_succ (ih : SafeInfer n) (regular : c.Regular) (unlimited : c.supply.size = 0)
    (given : ∀ t ∈ ann, t.exOccurrences = [] ∧ c.Apart t) (admits : c.Admits e) :
    Safe (Traced.bindingType (n + 1) ann e) c := by
  obtain ⟨tracksCheck, tracksSynth, -, -⟩ := tracks_infers n
  unfold Traced.bindingType
  cases ann with
  | some t =>
    have apart := (given t rfl).2
    refine .require regular fun within => ?_
    refine .bind (tracksCheck _ _) (ih.checks regular unlimited within apart admits) fun run => ?_
    have leads := leads_check regular.valid unlimited within run
    exact .returning (regular.leads leads) (leads.ext.inScope within) (apart.leads leads)
  | none =>
    have regular₁ := regular.withMarker
    refine .step_bind (run_fresh_first unlimited) (regular.leads (.skip regular.valid 1)) ?_
    refine .step_bind run_modify regular₁ (.bind (tracksSynth _)
      (ih.synths regular₁ unlimited admits.withMarker) fun {s c₁} run => ?_)
    obtain ⟨leads, output, sApart⟩ := leads_synth regular₁ unlimited admits.withMarker run
    exact .close regular (regular₁.leads leads) leads unlimited rfl
      (by simp [Supply.skip, Context.allocated]) (by simp) (by simp) output sApart

end SafeInfer

theorem safe_infers (n : Nat) : SafeInfer n := by
  induction n with
  | zero => exact .zero
  | succ n ih => exact ⟨ih.check_succ, ih.synth_succ, ih.apply_succ, ih.bind_succ⟩

end Infers

section Infer

variable {c : Context} {e : Expr} {n i : Nat}

/-- Taking a marker out. -/
theorem Context.Regular.removeMarker (regular : c.Regular) : (c.remove .marker i).Regular := by
  cases place : c.index? .marker i with
  | none => rwa [Context.remove, place]
  | some n =>
    obtain ⟨before, e, after, split, -, here, last⟩ := Context.index?_eq_some place
    obtain rfl := Entry.declares_marker.1 here
    rw [Context.remove_split split here last]
    have valid := regular.valid
    rw [show c = ⟨before ++ .marker i :: after, c.supply⟩ by rw [← split]] at valid
    refine ⟨valid.forget rfl rfl, ?_, fun {x t} mem => ?_, regular.positive⟩
    · have distinct := regular.distinct
      rw [split] at distinct
      refine distinct.sublist ?_
      simp only [fixedKeys_append, fixedKeys_marker]
      exact (List.Sublist.refl _).append (List.sublist_cons_self _ _)
    · have here : .term x t ∈ c.entries := by
        rw [split]
        simpa using mem
      obtain ⟨lt, apart⟩ := regular.terms here
      exact ⟨lt, apart.step (Nat.le_refl _) fun y mem => .inl (by simpa [split] using mem)⟩

theorem Safe.onError {α : Type} {m : Traced α} {g : Context → Context} (first : Safe m c)
    (change : ∀ {c : Context}, c.Regular → (g c).Regular) : Safe (Traced.onError m g) c := by
  cases out : (m c).result with
  | ok a =>
    have same : Traced.onError m g c = m c := by simp only [Traced.onError, out]
    exact ⟨same ▸ first.moments, same ▸ first.failed⟩
  | error err =>
    have regular := change (first.failed err out)
    constructor
    · simp only [Traced.onError, out]
      exact List.forall_mem_append.2 ⟨first.moments, List.forall_mem_singleton.2 ⟨regular, by simp⟩⟩
    · simp only [Traced.onError, out]
      exact fun _ _ => regular

theorem safe_inferFrom (regular : c.Regular) (unlimited : c.supply.size = 0) (admits : c.Admits e) :
    Safe (Traced.inferFrom n e) c := by
  have regular₁ := regular.withMarker
  refine .step_bind (run_fresh_first unlimited) (regular.leads (.skip regular.valid 1)) ?_
  refine .step_bind run_modify regular₁ (.bind (.onError ((tracks_infers n).2.1 e) local_remove)
    (((safe_infers n).synths regular₁ unlimited admits.withMarker).onError fun regular => regular.removeMarker)
    fun {s c₁} run => ?_)
  have leads := (leads_synth regular₁ unlimited admits.withMarker (run_tryCatch_ok.1 run)).1
  have regular₂ := regular₁.leads leads
  exact .apply regular₂ (.bind (tracks_generalize _ _) (safe_generalize regular₂) fun _ => .done)

/-- The context in which the numbers of a scoped expression are reserved, on a supply without a last
number. -/
theorem regular_reserved {t : Surface.Term} {s s' : Supply} (size : Nat)
    (resolved : (resolveTerm [] t).run s = some (e, s')) (fits : s'.Fits) :
    (⟨[], ⟨e.maxId + 1, size⟩⟩ : Context).Regular ∧ (⟨[], ⟨e.maxId + 1, size⟩⟩ : Context).Admits e := by
  refine ⟨⟨⟨trivial, by simp, by simp⟩, by simp, by simp, Nat.succ_pos _⟩,
    bindsNew_of_resolveTerm resolved fits (by simp [termIds]), Nat.lt_succ_self _, fun u mem => ?_⟩
  refine ⟨annotations_closed resolved mem, fun x bound => ⟨?_, by simp⟩⟩
  exact Nat.lt_succ_of_le (Nat.le_trans (Ty.le_maxId_of_mem_binders bound) (Expr.maxId_le_of_mem mem))

theorem wellFormed_all_iff {t : Ty} : c.wellFormed c.entries.length t = true ↔ InScope c.entries [] t := by
  rw [Context.wellFormed, List.take_length, InScope]

/-- What is reached on a supply with a last number is regular while numbers do not run out. -/
theorem Moment.Regular.of_inferFrom {size : Nat} {x : Moment} (regular : (⟨[], ⟨i, 0⟩⟩ : Context).Regular)
    (admits : (⟨[], ⟨i, 0⟩⟩ : Context).Admits e)
    (mem : x ∈ (Traced.inferFrom n e ⟨[], ⟨i, size⟩⟩).moments) (enough : x.context.allocated < size) :
    x.Regular ∧ x.context.next = x.context.allocated := by
  have tracks := tracks_inferFrom n e
  have same : x.context.supply.size = size := (tracks.later _ x mem).2
  have here := tracks.moments ⟨[], ⟨i, 0⟩⟩ size rfl x mem (.inr (by rw [same]; exact Nat.le_of_lt enough))
  obtain ⟨found, handed⟩ := (safe_inferFrom regular rfl admits).moments _ here
  refine ⟨⟨found.resize x.context.supply.size, handed⟩, ?_⟩
  rw [Context.next, Supply.next, Supply.wrap, same]
  exact Nat.mod_eq_of_lt enough

/-- Every context that the inference of a scoped expression reaches before it closes the context, also
where it fails, is coherent, and every type that one function hands to another there is well formed,
provided that fewer numbers than there are were given out. On each well-formed type, putting in
solutions comes to an end there, leaves no solved existential, and changes nothing the second time. -/
theorem inferOpen_coherent {t : Surface.Term} {s : Supply} (depth : Nat)
    (resolved : (resolveTerm [] t).run 0 = some (e, s)) (few : s.used < 2 ^ 32) :
    (infer depth e).run {} = (Traced.inferOpen depth e {}).andThen (fun (mark, ty) => do
      close mark
      return ty) ∧
    ∀ x ∈ (Traced.inferOpen depth e {}).moments, x.context.allocated < 2 ^ 32 →
      x.context.Coherent ∧
      (∀ ty ∈ x.handed, x.context.wellFormed x.context.entries.length ty = true ∧
        ty.maxId < x.context.next) ∧
      ∀ ty, x.context.wellFormed x.context.entries.length ty = true →
        (∀ r, Applies x.context ty r ↔ r = x.context.apply ty) ∧
        (∀ i ∈ (x.context.apply ty).exOccurrences, x.context.has .solved i = false) ∧
        x.context.apply (x.context.apply ty) = x.context.apply ty := by
  refine ⟨run_infer_eq_andThen depth e {}, fun x mem enough => ?_⟩
  have size : s.size = 2 ^ 32 := (leads_of_resolveTerm resolved).2
  have fits : s.Fits := .inr (by rw [size]; exact Nat.le_of_lt few)
  have reserved : e.maxId + 1 < 2 ^ 32 := by
    have lt := maxId_lt_of_resolveTerm resolved fits (by simp [Scope.Below])
    omega
  -- what is true of a valid context is asked of a regular one and of the empty one
  have applies (c : Context) (valid : c.Valid) : ∀ ty, c.wellFormed c.entries.length ty = true →
      (∀ r, Applies c ty r ↔ r = c.apply ty) ∧
        (∀ i ∈ (c.apply ty).exOccurrences, c.has .solved i = false) ∧ c.apply (c.apply ty) = c.apply ty := by
    intro ty within
    rw [wellFormed_all_iff] at within
    exact ⟨fun r => valid.applies_iff within, valid.has_solved_apply within, valid.apply_idem within⟩
  have promised (regular : x.Regular) (next : x.context.next = x.context.allocated) :
      x.context.Coherent ∧ (∀ ty ∈ x.handed, x.context.wellFormed x.context.entries.length ty = true ∧
        ty.maxId < x.context.next) ∧ _ :=
    ⟨regular.context.coherent next, fun ty handed =>
      ⟨wellFormed_all_iff.2 (regular.handed ty handed).1, next ▸ regular.context.maxId_lt
        (regular.handed ty handed).1 fun y bound => ((regular.handed ty handed).2 y bound).1⟩,
      applies x.context regular.context.valid⟩
  have start : ({} : Context).reserveAbove e.maxId = ⟨[], ⟨e.maxId + 1, 2 ^ 32⟩⟩ :=
    reserveAbove_empty reserved
  have moments : (Traced.inferOpen depth e {}).moments = ⟨{}, []⟩ ::
      ⟨⟨[], ⟨e.maxId + 1, 2 ^ 32⟩⟩, []⟩ ::
        (Traced.inferFrom depth e ⟨[], ⟨e.maxId + 1, 2 ^ 32⟩⟩).moments := by
    rw [← start]
    rfl
  rw [moments, List.mem_cons, List.mem_cons] at mem
  rcases mem with rfl | rfl | mem
  · exact ⟨⟨by simp, by simp, by simp, by simp, by simp, by simp⟩, by simp,
      applies {} ⟨trivial, by simp, by simp⟩⟩
  · exact promised ⟨(regular_reserved _ resolved fits).1, by simp⟩ (Nat.mod_eq_of_lt reserved)
  · obtain ⟨regular, admits⟩ := regular_reserved 0 resolved fits
    obtain ⟨reached, next⟩ := Moment.Regular.of_inferFrom regular admits mem enough
    exact promised reached next

/-- A function that is applied to itself is not typed. All contexts on the way there are coherent, the
last one too, from which the marker was taken out. -/
theorem inferOpen_coherent_self :
    let x : Ident := ⟨"x", 0⟩
    let e : Expr := .lam x (.app (.var x) (.var x))
    (Traced.inferOpen 9 e {}).result.isOk = false ∧ (Traced.inferOpen 9 e {}).moments.length = 26 ∧
      ∀ m ∈ (Traced.inferOpen 9 e {}).moments, m.context.Coherent := by
  intro x e
  have resolved : (resolveTerm [] (.lam "x" (.app (.var "x" default) (.var "x" default)) default)).run 0 =
      some (e, (0 : Supply).skip 1) := rfl
  have fails : (Traced.inferOpen 9 e {}).result.isOk = false := by decide +kernel
  have count : (Traced.inferOpen 9 e {}).moments.length = 26 := by decide +kernel
  have few : (Traced.inferOpen 9 e {}).moments.all (fun m => decide (m.context.allocated < 2 ^ 32)) = true := by
    decide +kernel
  refine ⟨fails, count, fun m mem => ?_⟩
  have enough := of_decide_eq_true (List.all_eq_true.1 few m mem)
  exact ((inferOpen_coherent 9 resolved (by decide)).2 m mem enough).1

end Infer

end TermBot.Typing
