import TermBot.Proofs.Typing.Shift

/-!
# Runs with other numbers

Where a run starts with its supply does not matter: on a shifted context, with shifted input and a supply
shifted by as much, the checker does the same with shifted numbers (`Shifts`), as long as neither supply
starts again. With a shift by nothing this says that the size of the supply does not matter.
-/

namespace TermBot.Typing

open Scoped

/-- The result with other numbers, where `g` renumbers what is found. -/
def shiftResult {α : Type} (s : Shift) (g : α → α) : Except TypeError α → Except TypeError α
  | .ok a => .ok (g a)
  | .error err => .error (err.renumber s.num)

theorem TypeError.renumber_id (err : TypeError) : err.renumber (fun i => i) = err := by
  cases err <;> simp only [TypeError.renumber, Ty.renumber_id] <;> rfl

theorem shiftResult_zero {i : Nat} (r : Except TypeError Ty) :
    shiftResult ⟨i, 0⟩ (Ty.renumber (Shift.mk i 0).num) r = r := by
  rw [Shift.num_zero, Ty.renumber_id]
  cases r with
  | ok t => rfl
  | error err =>
    rw [shiftResult, Shift.num_zero, TypeError.renumber_id]

/-- The second computation does on a shifted context what the first one does, with shifted numbers; `g` shifts
what they find. -/
structure Shifts {α : Type} (s : Shift) (g : α → α) (m m' : Check α) : Prop where
  grows : ∀ c, c.allocated ≤ (m.run c).2.allocated ∧ (m.run c).2.supply.size = c.supply.size
  agrees : ∀ c size, s.floor ≤ c.allocated → (m.run c).2.Fits → ((m.run c).2.shift s size).Fits →
    m'.run (c.shift s size) = (shiftResult s g (m.run c).1, (m.run c).2.shift s size)

namespace Shifts

variable {α β : Type} {s : Shift} {g : α → α} {h : β → β} {m m' : Check α}

theorem of_same (follows : Follows m m) (same : ∀ c size, m'.run (c.shift s size) =
    (shiftResult s g (m.run c).1, (m.run c).2.shift s size)) : Shifts s g m m' :=
  ⟨follows.grows, fun c size _ _ _ => same c size⟩

theorem pure (a : α) : Shifts s g (pure a) (pure (g a)) := .of_same (.pure a) fun _ _ => rfl

theorem pure_of_eq {a b : α} (same : b = g a) : Shifts s g (Pure.pure a) (Pure.pure b) := same ▸ .pure a

theorem throw (err : TypeError) :
    Shifts s g (throw err : Check α) (throw (err.renumber s.num)) := .of_same (.throw err) fun _ _ => rfl

theorem modify {f f' : Context → Context} (follows : Follows (modify f : Check PUnit) (modify f))
    (same : ∀ c size, f' (c.shift s size) = (f c).shift s size) :
    Shifts s id (modify f : Check PUnit) (modify f') :=
  .of_same follows fun c size => by rw [run_modify, run_modify, same]; rfl

theorem read {f f' : Context → Check α} (next : ∀ c size, Shifts s g (f c) (f' (c.shift s size))) :
    Shifts s g (get >>= f) (get >>= f') where
  grows c := (next c 0).grows c
  agrees c size := (next c size).agrees c size

theorem bind {f f' : α → Check β} (first : Shifts s g m m') (second : ∀ a, Shifts s h (f a) (f' (g a))) :
    Shifts s h (m >>= f) (m' >>= f') where
  grows c := by
    have step := first.grows c
    rcases run : m.run c with ⟨err | a, c₁⟩ <;> rw [run] at step
    · rw [run_bind_of_error run]
      exact step
    · rw [run_bind_of_ok run]
      have rest := (second a).grows c₁
      exact ⟨Nat.le_trans step.1 rest.1, rest.2.trans step.2⟩
  agrees c size := by
    have step := first.agrees c size
    have more := first.grows c
    rcases run : m.run c with ⟨err | a, c₁⟩ <;> rw [run] at step more
    · rw [run_bind_of_error run]
      intro room fits fits'
      exact run_bind_of_error (step room fits fits')
    · rw [run_bind_of_ok run]
      intro room fits fits'
      -- what fits in the end fitted in between
      have rest := (second a).grows c₁
      have between := step room (fits.imp (fun zero => rest.2 ▸ zero)
        fun le => Nat.le_trans rest.1 (rest.2 ▸ le))
        (fits'.imp id (Nat.le_trans (Nat.add_le_add_right rest.1 _)))
      rw [run_bind_of_ok between]
      exact (second a).agrees c₁ size (Nat.le_trans room more.1) fits fits'

theorem fresh : Shifts s s.num fresh fresh where
  grows := Follows.fresh.grows
  agrees c size room fits fits' := by
    simp only [run_fresh, Context.Fits, Context.allocated, Supply.skip, Context.shift] at room fits fits'
    have left : c.next = c.supply.used := by
      rw [Context.next, Supply.next, Supply.wrap]
      rcases fits with zero | le
      · rw [zero, Nat.mod_zero]
      · exact Nat.mod_eq_of_lt (by omega)
    have right : (c.shift s size).next = c.supply.used + s.offset := by
      simp only [Context.next, Supply.next, Supply.wrap, Context.shift, Context.allocated]
      rcases fits' with zero | le
      · rw [zero, Nat.mod_zero]
      · exact Nat.mod_eq_of_lt (by omega)
    rw [run_fresh, run_fresh, left, right, shiftResult, Shift.num_of_le room]
    simp [Context.shift, Supply.skip, Context.allocated, Nat.add_right_comm]

theorem ite {p p' : Prop} [Decidable p] [Decidable p'] {k k' : Check α} (same : p ↔ p')
    (yes : Shifts s g m m') (no : Shifts s g k k') :
    Shifts s g (if p then m else k) (if p' then m' else k') := by
  by_cases holds : p
  · rw [if_pos holds, if_pos (same.1 holds)]
    exact yes
  · rw [if_neg holds, if_neg (mt same.2 holds)]
    exact no

theorem forM {γ : Type} {f f' : γ → Check PUnit} {k : γ → γ} (each : ∀ b, Shifts s id (f b) (f' (k b)))
    (bs : List γ) : Shifts s id (bs.forM f) ((bs.map k).forM f') := by
  induction bs with
  | nil => exact .pure _
  | cons b bs ih => exact .bind (each b) fun _ => ih

end Shifts

section Steps

variable {α : Type} {s : Shift} {t : Ty} {i : Nat} {k : EntryKind}

theorem shifts_push (es : List Entry) : Shifts s id (modify (·.push es) : Check PUnit)
    (modify (·.push (es.map (Entry.renumber s.num)))) :=
  .modify (follows_push es) fun _ _ => (Context.push_shift es).symm

theorem shifts_dropFrom (k : EntryKind) :
    Shifts s id (modify (·.dropFrom k i) : Check PUnit) (modify (·.dropFrom k (s.num i))) :=
  .modify (follows_dropFrom k) fun _ _ => Context.dropFrom_shift.symm

theorem shifts_remove (k : EntryKind) :
    Shifts s id (modify (·.remove k i) : Check PUnit) (modify (·.remove k (s.num i))) :=
  .modify (follows_remove k) fun _ _ => Context.remove_shift.symm

theorem shifts_replace (es : List Entry) : Shifts s id (modify (·.replace i es) : Check PUnit)
    (modify (·.replace (s.num i) (es.map (Entry.renumber s.num)))) :=
  .modify (follows_replace es) fun _ _ => (Context.replace_shift es).symm

theorem shifts_applied : Shifts s (Ty.renumber s.num) (applied t) (applied (t.renumber s.num)) := by
  refine .of_same follows_applied fun c size => ?_
  have same : ((c.apply t).renumber s.num).exOccurrences.any ((c.shift s size).has .solved) =
      (c.apply t).exOccurrences.any (c.has .solved) := by
    simp [Ty.exOccurrences_renumber, Function.comp_def]
  rw [run_applied, run_applied, Context.apply_shift, same]
  split <;> rfl

theorem shifts_freshVar (name : String) :
    Shifts s (Ident.renumber s.num) (freshVar name) (freshVar name) :=
  .bind .fresh fun _ => .pure _

theorem shifts_openRigid (v : Ident) : Shifts s (Prod.map (Ident.renumber s.num) (Ty.renumber s.num))
    (openRigid v t) (openRigid (v.renumber s.num) (t.renumber s.num)) :=
  .bind (shifts_freshVar _) fun _ => .pure_of_eq (by rw [Prod.map, Ty.renumber_substVar]; rfl)

theorem shifts_openEx (v : Ident) : Shifts s (Prod.map s.num (Ty.renumber s.num))
    (openEx v t) (openEx (v.renumber s.num) (t.renumber s.num)) :=
  .bind .fresh fun _ => .pure_of_eq (by rw [Prod.map, Ty.renumber_substVar]; rfl)

theorem shifts_articulate :
    Shifts s (Prod.map s.num s.num) (articulate i) (articulate (s.num i)) :=
  .bind .fresh fun _ => .bind .fresh fun _ => .bind (shifts_replace _) fun _ => .pure _

theorem shifts_rename (ids : List Nat) (taken : List String) (t : Ty) :
    Shifts s (Prod.map (List.map (Ident.renumber s.num)) (Ty.renumber s.num)) (rename ids taken t)
      (rename (ids.map s.num) taken (t.renumber s.num)) := by
  induction ids generalizing taken t with
  | nil => exact .pure _
  | cons i rest ih =>
    refine .bind (shifts_freshVar _) fun v => ?_
    have next := ih (v.name :: taken) (t.substEx i (.var v))
    rw [Ty.renumber_substEx] at next
    exact .bind next fun _ => .pure _

theorem shifts_generalize (mark : Nat) : Shifts s (Ty.renumber s.num) (generalize mark t)
    (generalize (s.num mark) (t.renumber s.num)) := by
  refine .read fun c size => ?_
  rw [Context.after?_shift]
  cases c.after? mark with
  | none => exact .pure _
  | some scope =>
    have here : (t.renumber s.num).existentials.filter
        (fun i => (scope.map (Entry.renumber s.num)).any (·.declares .unsolved i)) =
        (t.existentials.filter fun i => scope.any (·.declares .unsolved i)).map s.num := by
      simp [Ty.existentials_renumber, List.filter_map, Function.comp_def]
    simp only [Option.map_some, here, Ty.names_renumber]
    exact .bind (shifts_rename _ _ _) fun _ => .pure_of_eq (Ty.renumber_foldr_all _ _).symm

theorem shifts_close (mark : Nat) : Shifts s id (close mark) (close (s.num mark)) := by
  refine .read fun c size => ?_
  have each (t : Ty) : Shifts s id (discard (applied t)) (discard (applied (t.renumber s.num))) :=
    .bind shifts_applied fun _ => .pure _
  rw [Context.solutionsAfter_shift]
  exact .bind (.forM each _) fun _ => .modify (follows_closeContext mark) fun _ _ => Context.close_shift.symm

/-- A computation whose failures are passed on after a change of the context. -/
theorem shifts_tryCatch {g : α → α} {m m' : Check α} {f f' : Context → Context} (first : Shifts s g m m')
    (change : Shifts s id (modify f : Check PUnit) (modify f')) :
    Shifts s g (tryCatch m fun err => do modify f; throw err)
      (tryCatch m' fun err => do modify f'; throw err) where
  grows c := by
    have step := first.grows c
    rcases run : m.run c with ⟨err | a, c₁⟩ <;> rw [run] at step
    · rw [run_tryCatch_of_error run]
      have rest := change.grows c₁
      exact ⟨Nat.le_trans step.1 rest.1, rest.2.trans step.2⟩
    · rw [run_tryCatch_of_ok run]
      exact step
  agrees c size := by
    have step := first.agrees c size
    have more := first.grows c
    rcases run : m.run c with ⟨err | a, c₁⟩ <;> rw [run] at step more
    · rw [run_tryCatch_of_error run]
      intro room fits fits'
      have rest := change.grows c₁
      have between := step room (fits.imp (fun zero => rest.2 ▸ zero)
        fun le => Nat.le_trans rest.1 (rest.2 ▸ le))
        (fits'.imp id (Nat.le_trans (Nat.add_le_add_right rest.1 _)))
      rw [run_tryCatch_of_error between]
      exact (Shifts.bind change fun _ => .throw err).agrees c₁ size (Nat.le_trans room more.1) fits fits'
    · rw [run_tryCatch_of_ok run]
      intro room fits fits'
      exact run_tryCatch_of_ok (step room fits fits')

theorem shifts_requireWellFormed :
    Shifts s id (requireWellFormed t) (requireWellFormed (t.renumber s.num)) := by
  refine .of_same follows_requireWellFormed fun c size => ?_
  have length : (c.shift s size).entries.length = c.entries.length := List.length_map _
  rw [requireWellFormed, requireWellFormed, run_bind_of_ok run_get, run_bind_of_ok run_get, length,
    Context.wellFormed_shift]
  split <;> rfl

theorem shifts_solveDirectly :
    Shifts s id (solveDirectly i t) (solveDirectly (s.num i) (t.renumber s.num)) := by
  refine .of_same follows_solveDirectly fun c size => ?_
  rw [solveDirectly, solveDirectly, run_bind_of_ok run_get, run_bind_of_ok run_get, Context.index?_shift]
  cases c.index? .unsolved i with
  | none => rfl
  | some n =>
    simp only [Ty.isMono_renumber, Context.wellFormed_shift, ← Context.solve_shift]
    split
    · rfl
    · cases t with
      | ex j =>
        simp only [Ty.renumber, Context.index?_shift]
        have solved : (c.shift s size).solve (s.num j) (.ex (s.num i)) = (c.solve j (.ex i)).shift s size :=
          (@Context.solve_shift s size c j (.ex i)).symm
        rw [solved]
        split <;> rfl
      | _ => rfl

end Steps

section Infers

variable {s : Shift}

theorem shifts_instantiateOn (n : Nat) (side : Side) (i : Nat) (t : Ty) :
    Shifts s id (instantiateOn side n i t) (instantiateOn side n (s.num i) (t.renumber s.num)) := by
  induction n generalizing side i t with
  | zero => cases side <;> exact .throw _
  | succ n ih =>
    rw [instantiateOn_succ, instantiateOn_succ]
    refine .bind shifts_solveDirectly fun solved => .ite Iff.rfl (.pure _) ?_
    cases t with
    | arrow a b =>
      exact .bind shifts_articulate fun _ => .bind (ih _ _ _) fun _ =>
        .bind shifts_applied fun _ => ih _ _ _
    | all v b =>
      cases side with
      | left =>
        exact .bind (shifts_openRigid _) fun _ => .bind (shifts_push _) fun _ =>
          .bind (ih _ _ _) fun _ => shifts_dropFrom _
      | right =>
        exact .bind .fresh fun _ => .bind (shifts_openEx _) fun _ => .bind (shifts_push _) fun _ =>
          .bind (ih _ _ _) fun _ => shifts_dropFrom _
    | _ => exact .throw _

theorem shifts_instantiate (n : Nat) (a b : Ty) :
    Shifts s id (instantiate n a b) (instantiate n (a.renumber s.num) (b.renumber s.num)) := by
  refine .read fun c size => ?_
  rw [Context.openEx?_shift, Context.openEx?_shift]
  cases c.openEx? a b with
  | some i => exact shifts_instantiateOn n .left i b
  | none =>
    cases c.openEx? b a with
    | some j => exact shifts_instantiateOn n .right j a
    | none => exact .throw _

theorem shifts_subtype (n : Nat) (a b : Ty) :
    Shifts s id (subtype n a b) (subtype n (a.renumber s.num) (b.renumber s.num)) := by
  induction n generalizing a b with
  | zero => exact .throw _
  | succ n ih =>
    have underEx (v : Ident) (a b : Ty) (other : ∀ w d, b ≠ .all w d) : Shifts s id
        (subtype (n + 1) (.all v a) b)
        (subtype (n + 1) (.all (v.renumber s.num) (a.renumber s.num)) (b.renumber s.num)) := by
      cases b with
      | all w d => exact absurd rfl (other w d)
      | _ => exact .bind .fresh fun _ => .bind (shifts_openEx _) fun _ => .bind (shifts_push _) fun _ =>
          .bind (ih _ _) fun _ => shifts_dropFrom _
    have direct := @shifts_instantiate s n a b
    cases b with
    | all v b =>
      cases a <;> exact .bind (shifts_openRigid _) fun _ => .bind (shifts_push _) fun _ =>
        .bind (ih _ _) fun _ => shifts_dropFrom _
    | unit =>
      cases a with
      | unit => exact .pure _
      | all v a => exact underEx v a .unit (by rintro _ _ ⟨⟩)
      | _ => exact direct
    | var w =>
      cases a with
      | var v =>
        refine .ite (by simp [Ident.renumber]) (.throw _) (.read fun c size => ?_)
        exact .ite (by simp [Ident.renumber]) (.pure _) (.throw _)
      | all v a => exact underEx v a (.var w) (by rintro _ _ ⟨⟩)
      | _ => exact direct
    | ex j =>
      cases a with
      | ex i =>
        refine .ite (by simp) (shifts_instantiate n _ _) (.read fun c size => ?_)
        exact .ite (by simp) (.pure _) (.throw _)
      | all v a => exact underEx v a (.ex j) (by rintro _ _ ⟨⟩)
      | _ => exact direct
    | arrow b₁ b₂ =>
      cases a with
      | arrow a₁ a₂ =>
        exact .bind (ih _ _) fun _ => .bind shifts_applied fun _ => .bind shifts_applied fun _ => ih _ _
      | all v a => exact underEx v a (.arrow b₁ b₂) (by rintro _ _ ⟨⟩)
      | _ => exact direct

theorem shifts_infers (n : Nat) :
    (∀ e t, Shifts s id (check n e t) (check n (e.renumber s.num) (t.renumber s.num))) ∧
      (∀ e, Shifts s (Ty.renumber s.num) (synth n e) (synth n (e.renumber s.num))) ∧
      (∀ t e, Shifts s (Ty.renumber s.num) (synthApp n t e)
        (synthApp n (t.renumber s.num) (e.renumber s.num))) ∧
      ∀ ann e, Shifts s (Ty.renumber s.num) (bindingType n ann e)
        (bindingType n (ann.map (Ty.renumber s.num)) (e.renumber s.num)) := by
  induction n with
  | zero => exact ⟨fun _ _ => .throw _, fun _ => .throw _, fun _ _ => .throw _, fun _ _ => .throw _⟩
  | succ n ih =>
    obtain ⟨checks, synths, applies, binds⟩ := ih
    have binding (x : Ident) (ann : Option Ty) (value body : Expr) (t : Ty) (other : ∀ v b, t ≠ .all v b) :
        Shifts s id (check (n + 1) (.letIn x ann value body) t)
          (check (n + 1) (Expr.renumber s.num (.letIn x ann value body)) (t.renumber s.num)) := by
      cases t with
      | all v b => exact absurd rfl (other v b)
      | _ => exact .bind (binds _ _) fun _ => .bind (shifts_push _) fun _ => .bind (checks _ _) fun _ =>
          shifts_remove _
    have bySynth (e : Expr) (t : Ty) : Shifts s id
        (do subtype n (← applied (← synth n e)) (← applied t))
        (do subtype n (← applied (← synth n (e.renumber s.num))) (← applied (t.renumber s.num))) :=
      .bind (synths _) fun _ => .bind shifts_applied fun _ => .bind shifts_applied fun _ =>
        shifts_subtype n _ _
    refine ⟨fun e t => ?_, fun e => ?_, fun t e => ?_, fun ann e => ?_⟩
    · cases t with
      | all v b =>
        cases e <;> exact .bind (shifts_openRigid _) fun _ => .bind (shifts_push _) fun _ =>
          .bind (checks _ _) fun _ => shifts_dropFrom _
      | unit =>
        cases e with
        | unit => exact .pure _
        | letIn x ann value body => exact binding x ann value body .unit (by rintro _ _ ⟨⟩)
        | _ => exact bySynth _ _
      | arrow dom cod =>
        cases e with
        | lam x body =>
          exact .bind (shifts_push _) fun _ => .bind (checks _ _) fun _ => shifts_dropFrom _
        | letIn x ann value body => exact binding x ann value body (.arrow dom cod) (by rintro _ _ ⟨⟩)
        | _ => exact bySynth _ _
      | var v =>
        cases e with
        | letIn x ann value body => exact binding x ann value body (.var v) (by rintro _ _ ⟨⟩)
        | _ => exact bySynth _ _
      | ex i =>
        cases e with
        | letIn x ann value body => exact binding x ann value body (.ex i) (by rintro _ _ ⟨⟩)
        | _ => exact bySynth _ _
    · unfold synth
      cases e with
      | var x =>
        refine .read fun c size => ?_
        simp only [Ident.renumber, Context.typeOf?_shift]
        cases c.typeOf? x.id with
        | none => exact .throw _
        | some t => exact .pure _
      | unit => exact .pure _
      | ann e t => exact .bind shifts_requireWellFormed fun _ => .bind (checks _ _) fun _ => .pure _
      | lam x body =>
        exact .bind .fresh fun _ => .bind .fresh fun _ => .bind .fresh fun _ =>
          .bind (shifts_push _) fun _ => .bind (checks _ _) fun _ => .bind shifts_applied fun _ =>
          .bind (shifts_generalize _) fun _ => .bind (shifts_dropFrom _) fun _ => .pure _
      | app fn arg => exact .bind (synths _) fun _ => .bind shifts_applied fun _ => applies _ _
      | letIn x ann value body =>
        exact .bind (binds _ _) fun _ => .bind (shifts_push _) fun _ => .bind (synths _) fun _ =>
          .bind (shifts_remove _) fun _ => .pure _
    · unfold synthApp
      cases t with
      | all v b => exact .bind (shifts_openEx _) fun _ => .bind (shifts_push _) fun _ => applies _ _
      | ex i =>
        refine .read fun c size => ?_
        refine .ite (by rw [Context.has_shift]) ?_ (.throw _)
        exact .bind shifts_articulate fun _ => .bind (checks _ _) fun _ => .pure _
      | arrow dom cod => exact .bind (checks _ _) fun _ => .pure _
      | _ => exact .throw _
    · unfold bindingType
      cases ann with
      | some t => exact .bind shifts_requireWellFormed fun _ => .bind (checks _ _) fun _ => .pure _
      | none =>
        exact .bind .fresh fun _ => .bind (shifts_push _) fun _ => .bind (synths _) fun _ =>
          .bind shifts_applied fun _ => .bind (shifts_generalize _) fun _ =>
          .bind (shifts_dropFrom _) fun _ => .pure _

/-- Inference, whose marker has the number `mark`. -/
theorem shifts_inferAt (n : Nat) (e : Expr) (mark : Nat) :
    Shifts s (Ty.renumber s.num) (inferAt n e mark) (inferAt n (e.renumber s.num) (s.num mark)) :=
  .bind (shifts_push _) fun _ => .bind (shifts_tryCatch ((shifts_infers n).2.1 e) (shifts_remove _)) fun _ =>
    .bind shifts_applied fun _ => .bind (shifts_generalize _) fun _ => .bind (shifts_close _) fun _ =>
    .pure _

end Infers

end TermBot.Typing
