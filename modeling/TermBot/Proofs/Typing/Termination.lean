import TermBot.Proofs.Typing.Halting
import TermBot.Proofs.Typing.Leads

/-!
# Inference comes to an end

Checking, synthesis, application and the type of a binding all come to an end on a valid context
(`infers_halts`): they go down in the expression, or open a quantifier of a type, or leave the rest to
subtyping. With it `infer` comes to an end on every expression.
-/

namespace TermBot.Typing

open Scoped

section Ends

variable {α β : Type} {m : Check α} {f : α → Check β} {c : Context} {t : Ty}

theorem Ends.bind (first : Ends m c) (rest : ∀ a c₁, m.run c = (.ok a, c₁) → Ends (f a) c₁) :
    Ends (m >>= f) c := by
  rcases run : m.run c with ⟨err | a, c₁⟩
  · rw [Ends, run] at first
    rw [Ends, run_bind_of_error run]
    simpa using first
  · rw [Ends, run_bind_of_ok run]
    exact rest a c₁ run

theorem ends_generalize {mark : Nat} : Ends (generalize mark t) c := by
  obtain ⟨u, k, run⟩ := @run_generalize_skip c mark t
  rw [Ends, run]
  simp

theorem ends_requireWellFormed : Ends (requireWellFormed t) c := by
  rw [Ends, requireWellFormed, run_bind_of_ok run_get]
  split
  · exact ends_pure
  · exact ends_throw (by simp)

theorem Context.Valid.ends_applied (valid : c.Valid) (within : InScope c.entries [] t) :
    Ends (applied t) c := by
  rw [Ends, run_applied_ok.2 ⟨rfl, rfl, valid.ended fun _ => within.mem_exIds⟩]
  simp

/-- The end of a scope with a generalisation. -/
theorem Context.Valid.ends_leave {mark : Nat} (valid : c.Valid) (within : InScope c.entries [] t) :
    Ends (do
      let t ← generalize mark (← applied t)
      modify (·.dropFrom .marker mark)
      return t) c :=
  .bind (valid.ends_applied within) fun _ _ _ => .bind ends_generalize fun _ _ _ =>
    .bind ends_modify fun _ _ _ => ends_pure

end Ends

/-- Checking the expression comes to an end. -/
def CheckHalts (e : Expr) : Prop :=
  ∀ {c t}, c.Valid → c.supply.size = 0 → InScope c.entries [] t → Halts (fun n => check n e t) c

/-- Synthesising the type of the expression comes to an end. -/
def SynthHalts (e : Expr) : Prop := ∀ {c}, c.Valid → c.supply.size = 0 → Halts (fun n => synth n e) c

/-- All that is asked of inference about an expression comes to an end. -/
structure HaltsAt (e : Expr) : Prop where
  check : CheckHalts e
  synth : SynthHalts e
  apply : ∀ {c f}, c.Valid → c.supply.size = 0 → InScope c.entries [] f →
    Halts (fun n => synthApp n f e) c
  bind : ∀ {c ann}, c.Valid → c.supply.size = 0 → Halts (fun n => bindingType n ann e) c

section Parts

variable {c : Context} {e : Expr} {t : Ty}

/-- The end of a check by synthesis. -/
theorem Context.Valid.applied_subtype_halts {s : Ty} (valid : c.Valid) (unlimited : c.supply.size = 0)
    (left : InScope c.entries [] s) (right : InScope c.entries [] t) :
    Halts (fun n => do subtype n (← applied s) (← applied t)) c := by
  have declared {u : Ty} (within : InScope c.entries [] u) : ∀ i ∈ u.exOccurrences, i ∈ exIds c.entries :=
    fun _ => within.mem_exIds
  refine .step (valid.ends_applied left) fun _ _ run => ?_
  obtain ⟨rfl, rfl, -⟩ := run_applied_ok.1 run
  refine .step (valid.ends_applied right) fun _ _ run => ?_
  obtain ⟨rfl, rfl, -⟩ := run_applied_ok.1 run
  exact subtype_halts valid unlimited (valid.settled_apply (declared left))
    (valid.settled_apply (declared right))

/-- A binding and what is done with its name. -/
theorem Halts.letIn {α β : Type} {x : Ident} {ann : Option Ty} {value : Expr} {k : Nat → Check α}
    {last : α → Check β} (valid : c.Valid) (unlimited : c.supply.size = 0) (binding : HaltsAt value)
    (follows : ∀ {n n'}, n ≤ n' → Follows (k n) (k n')) (followsLast : ∀ a, Follows (last a) (last a))
    (ends : ∀ a c', Ends (last a) c')
    (body : ∀ {bound c₁}, Leads c c₁ → InScope c₁.entries [] bound →
      Halts k (c₁.push [.term x bound])) :
    Halts (fun n => do
      let bound ← bindingType n ann value
      modify (·.push [.term x bound])
      last (← k n)) c := by
  refine .seq (fun le => follows_bindingType le _ _)
    (fun _ le => .bind (follows_push _) fun _ => .bind (follows le) followsLast) unlimited
    (binding.bind valid unlimited) fun n bound c₁ run => ?_
  obtain ⟨leads, within⟩ := ((Infers.of_runs n).binds unlimited run).leads valid unlimited trivial
  refine .congr (fun n => run_bind_of_ok run_modify) ?_
  exact .seq follows (fun a _ => followsLast a) (leads.size.trans unlimited) (body leads within)
    fun _ _ _ _ => .of_ends (ends _ _)

/-- Checking comes to an end if synthesis does and, for the expressions that are checked otherwise, so
do their parts. -/
theorem check_halts {c : Context} {t : Ty} (synth : SynthHalts e) (lam : ∀ {x body}, e = .lam x body → HaltsAt body)
    (letIn : ∀ {x ann value body}, e = .letIn x ann value body → HaltsAt value ∧ HaltsAt body)
    (valid : c.Valid) (unlimited : c.supply.size = 0) (within : InScope c.entries [] t) :
    Halts (fun n => check n e t) c := by
  refine .of_succ ?_
  obtain ⟨t', shape⟩ : ∃ t', t = t' := ⟨t, rfl⟩
  rw [shape]
  unfold check
  split
  · rename_i v b
    rw [shape] at within
    exact .underRigid (fun t le => follows_check le e t) unlimited
      (check_halts synth lam letIn valid.withRigid unlimited within.rigidBody)
  · exact .of_ends ends_pure
  · rename_i x body dom cod
    have parts := inScope_arrow.1 (shape ▸ within)
    refine .congr (fun n => run_bind_of_ok run_modify) ?_
    exact .seq (fun le => follows_check le _ _) (fun _ _ => follows_dropFrom _) unlimited
      ((lam rfl).check (valid.pushTerm parts.1) unlimited parts.2.append_right)
      fun _ _ _ _ => .of_ends ends_modify
  · obtain ⟨value, body⟩ := letIn rfl
    refine .letIn valid unlimited value (fun le => follows_check le _ _) (fun _ => follows_remove _)
      (fun _ _ => ends_modify) fun leads bound => ?_
    exact body.check (leads.valid.pushTerm bound) (leads.size.trans unlimited)
      (leads.ext.inScope (shape ▸ within)).append_right
  · refine .seq (fun le => follows_synth le _) (fun _ le => .bind follows_applied fun _ =>
      .bind follows_applied fun _ => follows_subtype le _ _) unlimited (synth valid unlimited)
      fun n s c₁ run => ?_
    obtain ⟨leads, output⟩ := ((Infers.of_runs n).synths unlimited run).leads valid unlimited trivial
    exact leads.valid.applied_subtype_halts (leads.size.trans unlimited) output
      (leads.ext.inScope (shape ▸ within))
termination_by t.size
decreasing_by
  rw [shape, Context.rigidBody, Ty.size_substVar rfl]
  simp [Ty.size]

/-- Application comes to an end if checking the argument does. -/
theorem synthApp_halts {c : Context} {f : Ty} (check : CheckHalts e) (valid : c.Valid) (unlimited : c.supply.size = 0) (within : InScope c.entries [] f) :
    Halts (fun n => synthApp n f e) c := by
  refine .of_succ ?_
  unfold synthApp
  cases shape : f with
  | all v b =>
    rw [shape] at within
    have wider : InScope c.withUnsolved.entries [v.id] b := (inScope_all.1 within).append_right
    refine .congr (fun n => run_withUnsolved (fun body => synthApp n body e) unlimited) ?_
    exact synthApp_halts check (Leads.withUnsolved valid).valid unlimited
      (wider.substVar (by simp [Context.withUnsolved]))
  | ex i =>
    refine .congr (fun n => run_bind_of_ok run_get) ?_
    by_cases present : c.has .unsolved i = true
    · simp only [present, if_true]
      obtain ⟨before, after, split, last⟩ := Context.split_unsolved (Context.has_unsolved.1 present)
      refine .congr (fun n => run_bind_of_ok (run_articulate unlimited split last)) ?_
      exact .seq (fun le => follows_check le _ _) (fun _ _ => .pure _) unlimited
        (check (Advances.withArrow valid split).valid unlimited (by simp [Context.withArrow]))
        fun _ _ _ _ => .of_ends ends_pure
    · simp only [present]
      exact .of_ends (ends_throw (by simp))
  | arrow dom cod =>
    have parts := inScope_arrow.1 (shape ▸ within)
    exact .seq (fun le => follows_check le _ _) (fun _ _ => .pure _) unlimited
      (check valid unlimited parts.1) fun _ _ _ _ => .of_ends ends_pure
  | _ => exact .of_ends (ends_throw (by simp))
termination_by f.size
decreasing_by
  rw [shape, Ty.size_substVar rfl]
  simp [Ty.size]

/-- An annotated expression. -/
theorem Halts.annotated (check : CheckHalts e) (valid : c.Valid) (unlimited : c.supply.size = 0) :
    Halts (fun n => do
      requireWellFormed t
      Typing.check n e t
      return t) c := by
  refine .step ends_requireWellFormed fun _ _ run => ?_
  obtain ⟨rfl, within⟩ := run_requireWellFormed_ok.1 run
  exact .seq (fun le => follows_check le _ _) (fun _ _ => .pure _) unlimited
    (check valid unlimited within) fun _ _ _ _ => .of_ends ends_pure

/-- The type of a binding comes to an end if checking and synthesis do. -/
theorem bindingType_halts {ann : Option Ty} (check : CheckHalts e) (synth : SynthHalts e)
    (valid : c.Valid) (unlimited : c.supply.size = 0) : Halts (fun n => bindingType n ann e) c := by
  refine .of_succ ?_
  unfold bindingType
  cases ann with
  | some t => exact .annotated check valid unlimited
  | none =>
    refine .congr (fun n => run_withMarker (fun mark => _) unlimited) ?_
    refine .seq (fun le => follows_synth le _) (fun _ _ => .bind follows_applied fun _ =>
      .bind (follows_generalize _) fun _ => .bind (follows_dropFrom _) fun _ => .pure _) unlimited
      (synth valid.withMarker unlimited) fun n s c₁ run => ?_
    have derivation : Infers c.withMarker (.synth e s) c₁ := (Infers.of_runs n).synths unlimited run
    obtain ⟨leads, output⟩ := derivation.leads valid.withMarker unlimited trivial
    exact .of_ends (leads.valid.ends_leave output)

theorem HaltsAt.of_synth (synth : SynthHalts e) (lam : ∀ {x body}, e = .lam x body → HaltsAt body)
    (letIn : ∀ {x ann value body}, e = .letIn x ann value body → HaltsAt value ∧ HaltsAt body) :
    HaltsAt e where
  check := check_halts synth lam letIn
  synth := synth
  apply := synthApp_halts (check_halts synth lam letIn)
  bind := bindingType_halts (check_halts synth lam letIn) synth

end Parts

/-- All that is asked of inference about an expression comes to an end. -/
theorem infers_halts (e : Expr) : HaltsAt e := by
  induction e with
  | var x =>
    refine .of_synth (fun {c} _ _ => .of_succ (.congr (fun _ => run_bind_of_ok run_get) ?_))
      (by simp) (by simp)
    cases c.typeOf? x.id with
    | none => exact .of_ends (ends_throw (by simp))
    | some t => exact .of_ends ends_pure
  | unit => exact .of_synth (fun _ _ => .of_succ (.of_ends ends_pure)) (by simp) (by simp)
  | lam x body ih =>
    refine .of_synth (fun {c} valid unlimited => .of_succ ?_) (by rintro _ _ ⟨⟩; exact ih) (by simp)
    refine .congr (fun n => run_withLambda (fun mark dom cod => _) unlimited) ?_
    have opened : InScope (c.withLambda x).entries [] (.ex (c.allocated + 2)) := by
      simp [Context.withLambda]
    refine .seq (fun le => follows_check le _ _) (fun _ _ => .bind follows_applied fun _ =>
      .bind (follows_generalize _) fun _ => .bind (follows_dropFrom _) fun _ => .pure _) unlimited
      (ih.check valid.withLambda unlimited opened) fun n _ c₁ run => ?_
    have derivation : Infers (c.withLambda x) (.check body (.ex (c.allocated + 2))) c₁ :=
      (Infers.of_runs n).checks unlimited run
    have leads := (derivation.leads valid.withLambda unlimited opened).1
    exact .of_ends (leads.valid.ends_leave (leads.ext.inScope (by simp [Context.withLambda])))
  | app fn arg ihFn ihArg =>
    refine .of_synth (fun {c} valid unlimited => .of_succ ?_) (by simp) (by simp)
    refine .seq (fun le => follows_synth le _)
      (fun _ le => .bind follows_applied fun _ => follows_synthApp le _ _) unlimited
      (ihFn.synth valid unlimited) fun n s c₁ run => ?_
    obtain ⟨leads, output⟩ := ((Infers.of_runs n).synths unlimited run).leads valid unlimited trivial
    refine .step (leads.valid.ends_applied output) fun _ _ run => ?_
    obtain ⟨rfl, rfl, -⟩ := run_applied_ok.1 run
    exact ihArg.apply leads.valid (leads.size.trans unlimited) (leads.valid.inScope_apply output)
  | ann e t ih =>
    exact .of_synth (fun valid unlimited => .of_succ (.annotated ih.check valid unlimited))
      (by simp) (by simp)
  | letIn x ann value body ihValue ihBody =>
    refine .of_synth (fun {c} valid unlimited => .of_succ ?_) (by simp)
      (by rintro _ _ _ _ ⟨⟩; exact ⟨ihValue, ihBody⟩)
    exact .letIn valid unlimited ihValue (fun le => follows_synth le _)
      (fun _ => .bind (follows_remove _) fun _ => .pure _)
      (fun _ _ => .bind ends_modify fun _ _ _ => ends_pure)
      fun leads bound => ihBody.synth (leads.valid.pushTerm bound) (leads.size.trans unlimited)

section Infer

variable {c : Context} {e : Expr} {n n' mark : Nat}

theorem allocated_lt_fresh_bind {α : Type} {f f' : Nat → Check α} (rest : ∀ i, Follows (f i) (f' i)) :
    c.allocated < ((fresh >>= f).run c).2.allocated := by
  rw [run_bind_of_ok run_fresh]
  have grows := ((rest c.next).grows { c with supply := c.supply.skip 1 }).1
  exact Nat.lt_of_lt_of_le (Nat.lt_succ_self _) grows

theorem run_forM_of_ok {β : Type} {f : β → Check PUnit} {bs : List β}
    (each : ∀ b ∈ bs, (f b).run c = (.ok (), c)) : (bs.forM f).run c = (.ok (), c) := by
  induction bs with
  | nil => exact run_pure
  | cons b bs ih =>
    exact (run_bind_of_ok (each b (by simp))).trans (ih fun b mem => each b (List.mem_cons_of_mem _ mem))

theorem mem_solutionsAfter {t : Ty} (mem : t ∈ c.solutionsAfter mark) : ∃ i, .solved i t ∈ c.entries := by
  rw [Context.solutionsAfter, List.mem_filterMap] at mem
  obtain ⟨e, mem, eq⟩ := mem
  cases e with
  | solved i s =>
    cases eq
    rw [Context.after?] at mem
    cases place : c.index? .marker mark with
    | none => simp [place] at mem
    | some k =>
      rw [place] at mem
      exact ⟨i, List.mem_of_mem_drop mem⟩
  | _ => cases eq

/-- On a valid context all solutions have an end. -/
theorem run_close (valid : c.Valid) : (close mark).run c = (.ok (), c.close mark) := by
  rw [close, run_bind_of_ok run_get]
  refine (run_bind_of_ok (run_forM_of_ok fun t mem => ?_)).trans run_modify
  obtain ⟨i, here⟩ := mem_solutionsAfter mem
  have within := (valid.ordered.of_solved here).2
  have ended := run_applied_ok.2 ⟨rfl, rfl, valid.ended fun _ => within.mem_exIds⟩
  exact run_bind_of_ok ended

theorem ends_close (valid : c.Valid) : Ends (close mark) c := by
  rw [Ends, run_close valid]
  simp

theorem inferAt_halts (valid : c.Valid) (unlimited : c.supply.size = 0) :
    Halts (fun n => fresh >>= inferAt n e) c := by
  refine .congr (fun n => run_withMarker (fun mark => _) unlimited) ?_
  refine .seq (fun le => follows_tryCatch (follows_synth le _) (follows_remove _))
    (fun _ _ => .bind follows_applied fun _ => .bind (follows_generalize _) fun _ =>
      .bind (follows_close _) fun _ => .pure _) unlimited ?_ fun n s c₁ run => ?_
  · obtain ⟨d, ends⟩ := (infers_halts e).synth valid.withMarker unlimited
    refine ⟨d, ?_⟩
    rw [Ends] at ends ⊢
    rcases run : (synth d e).run c.withMarker with ⟨err | s, c₁⟩
    · rw [run] at ends
      rw [run_tryCatch_of_error run]
      exact ends
    · rw [run_tryCatch_of_ok run]
      simp
  · have derivation : Infers c.withMarker (.synth e s) c₁ :=
      (Infers.of_runs n).synths unlimited (run_tryCatch_ok.1 run)
    obtain ⟨leads, output⟩ := derivation.leads valid.withMarker unlimited trivial
    obtain ⟨u, k, gen⟩ := run_generalize_skip (c := c₁) (c₁.apply s)
    refine .of_ends (Ends.bind (leads.valid.ends_applied output) fun _ _ run => ?_)
    obtain ⟨rfl, rfl, -⟩ := run_applied_ok.1 run
    rw [Ends, run_bind_of_ok gen]
    exact Ends.bind (ends_close (leads.valid.withSupply (by simp [Supply.skip, Context.allocated])))
      fun _ _ _ => ends_pure

/-- Inference comes to an end on every expression. -/
theorem infer_terminates (valid : c.Valid) : Terminates (fun n => infer n e) c := by
  have start : (c.resize 0).reserveAbove e.maxId =
      { c with supply := ⟨max c.allocated (e.maxId + 1), 0⟩ } := reserveAbove_of_lt (.inl rfl)
  have follows {n n' : Nat} (le : n ≤ n') : Follows (fresh >>= inferAt n e) (fresh >>= inferAt n' e) :=
    .bind .fresh fun _ => follows_inferAt le
  refine Halts.terminates_from (·.reserveAbove e.maxId) follows (fun n _ => run_infer n) ?_
    (fun n fits => ?_) ?_
  · rw [start]
  · have grows : ((c.resize 0).reserveAbove e.maxId).allocated <
        ((fresh >>= inferAt n e).run ((c.resize 0).reserveAbove e.maxId)).2.allocated :=
      allocated_lt_fresh_bind fun _ => follows_inferAt (Nat.le_refl n)
    have room := Nat.lt_of_lt_of_le grows fits
    rw [start] at room ⊢
    rw [reserveAbove_of_lt (.inr room)]
    rfl
  · rw [start]
    exact inferAt_halts (valid.withSupply (Nat.le_max_left _ _)) rfl

end Infer

section Divergence

variable {c : Context} {i j n : Nat} {after : List Entry}

theorem not_ends_bind {α β : Type} {m : Check α} {f : α → Check β} (ends : ¬ Ends m c) :
    ¬ Ends (m >>= f) c := by
  rcases run : m.run c with ⟨err | a, c₁⟩ <;> rw [Ends, run] at ends
  · rw [Ends, run_bind_of_error run]
    simpa using ends
  · simp at ends

/-- Instantiation with an arrow into the existential itself goes on without end: the codomain of its
solution is to be instantiated with an arrow into itself again. -/
theorem instantiateL_not_ends (valid : c.Valid) (unlimited : c.supply.size = 0)
    (first : c.entries = .unsolved i :: after) (declared : j ∈ exIds c.entries)
    (reaches : c.apply (.ex j) = .ex i) : ¬ Ends (instantiateL n i (.arrow .unit (.ex j))) c := by
  induction n generalizing c i j after with
  | zero => simp [Ends, instantiateL, run_throw]
  | succ n ih =>
    have split : c.entries = [] ++ .unsolved i :: after := first
    have last : .unsolved i ∉ after := by
      have distinct := valid.distinct
      rw [first, exIds_unsolved, List.nodup_cons] at distinct
      exact fun mem => distinct.1 (mem_exIds.2 (.inl mem))
    have direct : (solveDirectly i (.arrow .unit (.ex j))).run c = (.ok false, c) :=
      run_solveDirectly_ok.2 ⟨[], after, split, last, .inr (.inr ⟨rfl, by simp, by simp, rfl⟩)⟩
    have step : (instantiateL (n + 1) i (.arrow .unit (.ex j))).run c = (do
        instantiateR n .unit (c.allocated + 1)
        instantiateL n c.allocated (← applied (.ex j)) : Check Unit).run (c.withArrow [] i after) := by
      refine (run_bind_of_ok direct).trans ?_
      exact run_bind_of_ok (run_articulate unlimited split last)
    rw [Ends, step]
    cases n with
    | zero => exact not_ends_bind (by simp [Ends, instantiateR, run_throw])
    | succ n =>
      have opened := Advances.withArrow valid split
      have fresh : .unsolved (c.allocated + 1) ∉ after := fun mem =>
        absurd (valid.unsolved_lt (k := c.allocated + 1) (by simp [first, mem])) (by omega)
      -- the domain is solved at once, and the codomain is where it started
      obtain ⟨c₂, run, entries⟩ : ∃ c₂, (instantiateR (n + 1) .unit (c.allocated + 1)).run
          (c.withArrow [] i after) = (.ok (), c₂) ∧ c₂.entries = .unsolved c.allocated ::
            .solved (c.allocated + 1) .unit ::
            .solved i (.arrow (.ex (c.allocated + 1)) (.ex c.allocated)) :: after :=
        ⟨_, run_bind_of_ok (run_solveDirectly_ok.2 ⟨[.unsolved c.allocated], _, rfl, by simp [fresh],
          .inl ⟨rfl, rfl, by simp, rfl⟩⟩), rfl⟩
      have unlimited' : (c.withArrow [] i after).supply.size = 0 := unlimited
      have run' : (instantiateOn .right (n + 1) (c.allocated + 1) .unit).run (c.withArrow [] i after) =
          (.ok (), c₂) := run
      have dom := Inst.of_run unlimited' run'
      have advances := opened.trans (dom.advances opened.valid)
      have codomain : c₂.apply (.ex c.allocated) = .ex c.allocated :=
        advances.valid.apply_unsolved (by simp [entries])
      have image : c₂.apply (.ex j) = .arrow .unit (.ex c.allocated) := by
        calc c₂.apply (.ex j) = c₂.apply (c.apply (.ex j)) := by
              refine (valid.apply_apply advances.valid (fun _ _ => advances.ext.solved_mem) ?_).symm
              simpa [Ty.exOccurrences] using declared
          _ = c₂.apply (.arrow (.ex (c.allocated + 1)) (.ex c.allocated)) := by
              rw [reaches]
              exact advances.valid.apply_solved (by simp [entries])
          _ = .arrow (c₂.apply (.ex (c.allocated + 1))) (c₂.apply (.ex c.allocated)) := rfl
          _ = .arrow .unit (.ex c.allocated) := by
              rw [codomain, advances.valid.apply_solved (t := .unit) (by simp [entries])]
              rfl
      have present : c.allocated ∈ exIds c₂.entries := by simp [entries]
      have ended : c₂.Ended (.ex j) := advances.valid.ended fun k mem =>
        advances.refines.exIds_subset (by simp_all [Ty.exOccurrences])
      rw [run_bind_of_ok run, run_bind_of_ok (run_applied_ok.2 ⟨rfl, rfl, ended⟩), image]
      exact ih advances.valid (advances.size.trans unlimited) entries present codomain

theorem not_terminates {α : Type} {m : Nat → Check α} (ends : ∀ n, ¬ Ends (m n) (c.resize 0)) :
    ¬ Terminates m c := by
  rintro ⟨r, c', depth, ⟨d, run⟩, -⟩
  refine ends d ?_
  rw [Ends, run d (Nat.le_refl d)]
  exact depth

end Divergence

/-- The checker comes to an end on every valid context. Subtyping and instantiation are given types in
which all solutions are put in, and the existential to instantiate does not occur in its type. -/
theorem inference_terminates {c : Context} (valid : c.Valid) :
    (∀ {a b}, c.Settled a → c.Settled b → Terminates (fun n => subtype n a b) c) ∧
    (∀ {i t}, c.Settled t → i ∉ t.exOccurrences →
      Terminates (fun n => instantiateL n i t) c ∧ Terminates (fun n => instantiateR n t i) c) ∧
    (∀ {e t}, InScope c.entries [] t → Terminates (fun n => check n e t) c) ∧
    (∀ {e}, Terminates (fun n => synth n e) c) ∧
    (∀ {f e}, InScope c.entries [] f → Terminates (fun n => synthApp n f e) c) ∧
    (∀ {ann e}, Terminates (fun n => bindingType n ann e) c) ∧
    ∀ {e}, Terminates (fun n => infer n e) c := by
  have valid' : (c.resize 0).Valid := valid.withSupply (Nat.le_refl _)
  refine ⟨fun left right => ?_, fun settled absent => ⟨?_, ?_⟩, fun {e t} within => ?_, fun {e} => ?_,
    fun {f e} within => ?_, fun {ann e} => ?_, infer_terminates valid⟩
  · exact (subtype_halts valid' rfl left right).terminates fun le => follows_subtype le _ _
  · have halts : Halts (fun n => instantiateOn .left n _ _) (c.resize 0) :=
      instantiateOn_halts valid' rfl settled absent
    exact halts.terminates fun le => follows_instantiateOn le .left _ _
  · have halts : Halts (fun n => instantiateOn .right n _ _) (c.resize 0) :=
      instantiateOn_halts valid' rfl settled absent
    exact halts.terminates fun le => follows_instantiateOn le .right _ _
  · exact ((infers_halts e).check valid' rfl within).terminates fun le => follows_check le _ _
  · exact ((infers_halts e).synth valid' rfl).terminates fun le => follows_synth le _
  · exact ((infers_halts e).apply valid' rfl within).terminates fun le => follows_synthApp le _ _
  · exact ((infers_halts e).bind valid' rfl).terminates fun le => follows_bindingType le _ _

/-- On a context with an existential, that existential as a subtype and the application of the identity
come to an end. -/
theorem inference_terminates_open :
    let c : Context := { entries := [.unsolved 0], supply := 1 }
    let x : Ident := ⟨"x", 0⟩
    Terminates (fun n => subtype n (.ex 0) (.arrow .unit .unit)) c ∧
      Terminates (fun n => infer n (.app (.lam x (.var x)) .unit)) c := by
  intro c x
  have valid : c.Valid := ⟨by simp [c, Ordered, Entry.Fits], by decide, by decide⟩
  have all := inference_terminates valid
  exact ⟨all.1 (by simp [Context.Settled, Ty.exOccurrences, c]) (by simp [Context.Settled, Ty.exOccurrences]),
    all.2.2.2.2.2.2⟩

/-- On other types that are in scope they go on without end: an arrow into the existential that is to be
instantiated, and one into an existential that is already solved with it. -/
theorem inference_diverges :
    let c : Context := { entries := [.unsolved 0], supply := 1 }
    let c' : Context := { entries := [.unsolved 0, .solved 1 (.ex 0)], supply := 2 }
    (c.Valid ∧ InScope c.entries [] (.arrow .unit (.ex 0)) ∧
      ¬ Terminates (fun n => instantiateL n 0 (.arrow .unit (.ex 0))) c) ∧
    (c'.Valid ∧ InScope c'.entries [] (.ex 0) ∧ InScope c'.entries [] (.arrow .unit (.ex 1)) ∧
      ¬ Terminates (fun n => subtype n (.ex 0) (.arrow .unit (.ex 1))) c') := by
  intro c c'
  have valid : c.Valid := ⟨by simp [c, Ordered, Entry.Fits], by decide, by decide⟩
  have valid' : c'.Valid := ⟨by simp [c', Ordered, Entry.Fits, Ty.isMono], by decide, by decide⟩
  refine ⟨⟨valid, rfl, not_terminates fun n => ?_⟩, valid', rfl, rfl, not_terminates fun n => ?_⟩
  · exact instantiateL_not_ends (valid.withSupply (s := ⟨1, 0⟩) (Nat.le_refl _)) rfl rfl (by decide) rfl
  · cases n with
    | zero => simp [Ends, subtype, run_throw]
    | succ n =>
      have run : (subtype (n + 1) (.ex 0) (.arrow .unit (.ex 1))).run (c'.resize 0) =
          (instantiateL n 0 (.arrow .unit (.ex 1))).run (c'.resize 0) := rfl
      rw [Ends, run]
      exact instantiateL_not_ends (valid'.withSupply (s := ⟨2, 0⟩) (Nat.le_refl _)) rfl rfl (by decide) rfl

end TermBot.Typing
