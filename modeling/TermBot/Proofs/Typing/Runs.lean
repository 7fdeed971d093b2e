import TermBot.Typing.Checker
import TermBot.Proofs.Typing.Apply

/-!
# Runs of the checker

How a computation of the checker runs on a context, and two things that are true of all of them
(`Follows`). More depth does not change a run that did not end for want of depth. And while numbers do
not run out, the size of the supply does not matter: the run on a resized supply is the same.
-/

namespace TermBot.Typing

open Scoped

section Run

variable {α β : Type} {c c' c'' : Context} {m : Check α} {f : α → Check β} {a : α} {b : β}
  {err : TypeError}

theorem run_pure : (pure a : Check α).run c = (.ok a, c) := rfl

theorem run_throw : (throw err : Check α).run c = (.error err, c) := rfl

theorem run_get : (get : Check Context).run c = (.ok c, c) := rfl

theorem run_set : (set c' : Check PUnit).run c = (.ok (), c') := rfl

theorem run_modify {g : Context → Context} : (modify g : Check PUnit).run c = (.ok (), g c) := rfl

theorem run_bind_of_ok (first : m.run c = (.ok a, c')) : (m >>= f).run c = (f a).run c' := by
  change (ExceptT.bindCont f (m.run c).1) (m.run c).2 = _
  rw [first]
  rfl

theorem run_bind_of_error (first : m.run c = (.error err, c')) :
    (m >>= f).run c = (.error err, c') := by
  change (ExceptT.bindCont f (m.run c).1) (m.run c).2 = _
  rw [first]
  rfl

/-- A sequence succeeds when both parts do. -/
theorem run_bind_ok : (m >>= f).run c = (.ok b, c'') ↔
    ∃ a c', m.run c = (.ok a, c') ∧ (f a).run c' = (.ok b, c'') := by
  rcases first : m.run c with ⟨_ | a, c'⟩
  · rw [run_bind_of_error first]
    constructor
    · intro h
      cases h
    · rintro ⟨a, c', h, -⟩
      cases h
  · rw [run_bind_of_ok first]
    constructor
    · intro h
      exact ⟨a, c', rfl, h⟩
    · rintro ⟨_, _, h, run⟩
      cases h
      exact run

theorem run_tryCatch_of_ok {handle : TypeError → Check α} (first : m.run c = (.ok a, c')) :
    (tryCatch m handle).run c = (.ok a, c') := by
  rw [ExceptT.run_tryCatch]
  simp only [bind, StateT.bind, first]
  rfl

theorem run_tryCatch_of_error {handle : TypeError → Check α} (first : m.run c = (.error err, c')) :
    (tryCatch m handle).run c = (handle err).run c' := by
  rw [ExceptT.run_tryCatch]
  simp only [bind, StateT.bind, first]

/-- A handler that passes the failure on makes nothing succeed. -/
theorem run_tryCatch_ok {g : Context → Context} :
    (tryCatch m fun err => do modify g; throw err : Check α).run c = (.ok a, c') ↔
      m.run c = (.ok a, c') := by
  rcases run : m.run c with ⟨err | a', c₁⟩
  · rw [run_tryCatch_of_error run, run_bind_of_ok run_modify, run_throw]
    constructor <;> intro h <;> cases h
  · rw [run_tryCatch_of_ok run]

/-- The next number is given out, and the supply goes on by one. -/
theorem run_fresh : fresh.run c = (.ok c.next, { c with supply := c.supply.skip 1 }) := rfl

/-- A solution that is left in the type shows that the levels did not suffice. -/
theorem run_applied {t : Ty} : (applied t).run c =
    (if (c.apply t).exOccurrences.any (c.has .solved) then .error .tooDeep else .ok (c.apply t), c) := by
  rw [applied, run_bind_of_ok run_get]
  split <;> rfl

end Run

/-- The context with another size of the supply. -/
def Context.resize (c : Context) (size : Nat) : Context := { c with supply := { c.supply with size } }

/-- The numbers given out so far were all different. -/
def Context.Fits (c : Context) : Prop := c.supply.size = 0 ∨ c.allocated ≤ c.supply.size

/-- The computation neither asks for a number nor looks at the supply. -/
def Local {α : Type} (m : Check α) : Prop :=
  ∀ c s, m.run { c with supply := s } = ((m.run c).1, { (m.run c).2 with supply := s })

section Local

variable {α : Type} {c : Context} {t : Ty} {i : Nat} {k : EntryKind}

/-- The supply is left as it was found. -/
theorem Local.supply {m : Check α} (here : Local m) : (m.run c).2.supply = c.supply := by
  have same := here c c.supply
  exact congrArg (·.2.supply) same

theorem local_throw {err : TypeError} : Local (throw err : Check α) := fun _ _ => rfl

/-- Pushing entries does not look at the supply, and neither do the other changes of the entries. -/
theorem local_push (es : List Entry) : Local (modify (·.push es) : Check PUnit) := fun _ _ => rfl

theorem local_dropFrom : Local (modify (·.dropFrom k i) : Check PUnit) := by
  intro c s
  simp only [run_modify, Context.dropFrom, Context.index?]
  split <;> rfl

theorem local_remove : Local (modify (·.remove k i) : Check PUnit) := by
  intro c s
  simp only [run_modify, Context.remove, Context.index?]
  split <;> rfl

theorem local_replace (es : List Entry) : Local (modify (·.replace i es) : Check PUnit) := by
  intro c s
  simp only [run_modify, Context.replace, Context.index?]
  split <;> rfl

/-- Solutions are looked up among the entries alone. -/
theorem local_applied : Local (applied t) := by
  intro c s
  have same : ({ c with supply := s } : Context).apply t = c.apply t := Context.apply_congr (by rfl) t
  simp only [run_applied, same]
  rfl

theorem local_requireWellFormed : Local (requireWellFormed t) := by
  intro c s
  simp only [requireWellFormed, run_bind_of_ok run_get, Context.wellFormed]
  by_cases within : Context.wellFormedIn (c.entries.take c.entries.length) [] t = true
  · simp only [within, if_true]
    rfl
  · simp only [within]
    rfl

/-- A direct solution depends on the places of entries and on what is declared before them. -/
theorem local_solveDirectly : Local (solveDirectly i t) := by
  intro c s
  simp only [solveDirectly, run_bind_of_ok run_get, Context.index?, Context.wellFormed]
  cases place : lastIdx? (Entry.declares .unsolved i) c.entries with
  | none => rfl
  | some n =>
    simp only
    by_cases direct : (t.isMono && Context.wellFormedIn (c.entries.take n) [] t) = true
    · simp only [direct, if_true, Context.solve, Context.replace, Context.index?, place]
      rfl
    · simp only [direct]
      cases t with
      | ex j =>
        by_cases later :
            (lastIdx? (Entry.declares .unsolved j) c.entries).any (n < ·) = true
        · simp only [later, if_true, Context.solve, Context.replace, Context.index?]
          cases lastIdx? (Entry.declares .unsolved j) c.entries <;> rfl
        · simp only [later]
          rfl
      | _ => rfl

end Local

/-- The second computation does what the first one does, also on a resized supply, unless the first
one lacked depth or numbers. -/
structure Follows {α : Type} (m m' : Check α) : Prop where
  grows : ∀ c, c.allocated ≤ (m.run c).2.allocated ∧ (m.run c).2.supply.size = c.supply.size
  agrees : ∀ c size, (m.run c).1 ≠ .error .tooDeep → (m.run c).2.Fits →
    ((m.run c).2.resize size).Fits → m'.run (c.resize size) = ((m.run c).1, (m.run c).2.resize size)

namespace Follows

variable {α β : Type}

theorem pure (a : α) : Follows (pure a) (pure a) where
  grows _ := ⟨Nat.le_refl _, rfl⟩
  agrees _ _ _ _ _ := rfl

theorem throw (err : TypeError) : Follows (throw err : Check α) (throw err) where
  grows _ := ⟨Nat.le_refl _, rfl⟩
  agrees _ _ _ _ _ := rfl

/-- A computation that lacks depth is followed by any other one. -/
theorem tooDeep {m' : Check α} : Follows (MonadExcept.throw TypeError.tooDeep) m' where
  grows _ := ⟨Nat.le_refl _, rfl⟩
  agrees _ _ depth := absurd rfl depth

/-- A change of the context that leaves the supply alone. -/
theorem modify {f : Context → Context} (supply : ∀ c, (f c).supply = c.supply)
    (entries : ∀ c size, f (c.resize size) = (f c).resize size) :
    Follows (modify f) (modify f) where
  grows c := by
    simp only [run_modify, Context.allocated, supply]
    exact ⟨Nat.le_refl _, trivial⟩
  agrees c size _ _ _ := by
    simp only [run_modify, entries]

/-- What is read of the context must not be its supply. -/
theorem read {f f' : Context → Check α} (next : ∀ c, Follows (f c) (f' c))
    (entries : ∀ c size, f' (c.resize size) = f' c) : Follows (get >>= f) (get >>= f') where
  grows c := (next c).grows c
  agrees c size := by
    have step : (get >>= f').run (c.resize size) = (f' (c.resize size)).run (c.resize size) :=
      run_bind_of_ok run_get
    rw [step, entries]
    exact (next c).agrees c size

/-- In a sequence, numbers that fit in the end fitted in between, so that both parts agree. -/
theorem bind {m m' : Check α} {f f' : α → Check β} (first : Follows m m')
    (second : ∀ a, Follows (f a) (f' a)) : Follows (m >>= f) (m' >>= f') where
  grows c := by
    have step := first.grows c
    rcases run : m.run c with ⟨err | a, c₁⟩ <;> rw [run] at step
    · rw [run_bind_of_error run]
      exact step
    · rw [run_bind_of_ok run]
      have rest := (second a).grows c₁
      exact ⟨Nat.le_trans step.1 rest.1, rest.2.trans step.2⟩
  agrees c size := by
    rcases run : m.run c with ⟨err | a, c₁⟩
    · rw [run_bind_of_error run]
      intro depth fits fits'
      have step := first.agrees c size
      rw [run] at step
      exact run_bind_of_error (step (by simpa using depth) fits fits')
    · rw [run_bind_of_ok run]
      intro depth fits fits'
      -- what fits in the end fitted in between
      have rest := (second a).grows c₁
      have step := first.agrees c size
      rw [run] at step
      have between := step (by simp) (fits.imp (fun h => rest.2 ▸ h)
        fun h => Nat.le_trans rest.1 (rest.2 ▸ h)) (fits'.imp id (Nat.le_trans rest.1))
      rw [run_bind_of_ok between]
      exact (second a).agrees c₁ size depth fits fits'

/-- While numbers are all different, none of them has wrapped around in either supply. -/
theorem fresh : Follows fresh fresh where
  grows c := by simp [run_fresh, Context.allocated, Supply.skip]
  agrees c size _ fits fits' := by
    have same : (c.resize size).next = c.next := by
      simp only [run_fresh, Context.Fits, Context.allocated, Supply.skip, Context.resize] at fits fits'
      simp only [Context.next, Supply.next, Supply.wrap, Context.resize]
      have left : c.supply.used % c.supply.size = c.supply.used := by
        rcases fits with zero | le
        · rw [zero, Nat.mod_zero]
        · exact Nat.mod_eq_of_lt (by omega)
      have right : c.supply.used % size = c.supply.used := by
        rcases fits' with zero | le
        · rw [zero, Nat.mod_zero]
        · exact Nat.mod_eq_of_lt (by omega)
      rw [left, right]
    simp only [run_fresh, same]
    rfl

/-- What does not look at the supply runs the same on every supply. -/
theorem of_local {m : Check α} (here : Local m) : Follows m m where
  grows c := by
    rw [Context.allocated, Context.allocated, here.supply]
    exact ⟨Nat.le_refl _, rfl⟩
  agrees c size _ _ _ := by
    rw [Context.resize, here c, Context.resize, here.supply]

theorem ite {p : Prop} [Decidable p] {m m' k k' : Check α} (yes : Follows m m') (no : Follows k k') :
    Follows (if p then m else k) (if p then m' else k') := by
  split
  · exact yes
  · exact no

theorem forM {β : Type} {f : β → Check PUnit} (each : ∀ b, Follows (f b) (f b)) (bs : List β) :
    Follows (bs.forM f) (bs.forM f) := by
  induction bs with
  | nil => exact .pure _
  | cons b bs ih => exact .bind (each b) fun _ => ih

end Follows

section Steps

variable {α : Type} {t : Ty} {i : Nat}

theorem follows_push (es : List Entry) :
    Follows (modify (·.push es) : Check PUnit) (modify (·.push es)) := .of_local (local_push es)

theorem follows_dropFrom (k : EntryKind) :
    Follows (modify (·.dropFrom k i) : Check PUnit) (modify (·.dropFrom k i)) := .of_local local_dropFrom

theorem follows_remove (k : EntryKind) :
    Follows (modify (·.remove k i) : Check PUnit) (modify (·.remove k i)) := .of_local local_remove

theorem follows_replace (es : List Entry) :
    Follows (modify (·.replace i es) : Check PUnit) (modify (·.replace i es)) := .of_local (local_replace es)

theorem follows_applied : Follows (applied t) (applied t) := .of_local local_applied

theorem follows_freshVar (name : String) : Follows (freshVar name) (freshVar name) :=
  .bind .fresh fun _ => .pure _

theorem follows_openRigid (v : Ident) : Follows (openRigid v t) (openRigid v t) :=
  .bind (follows_freshVar _) fun _ => .pure _

theorem follows_openEx (v : Ident) : Follows (openEx v t) (openEx v t) :=
  .bind .fresh fun _ => .pure _

theorem follows_articulate : Follows (articulate i) (articulate i) :=
  .bind .fresh fun _ => .bind .fresh fun _ => .bind (follows_replace _) fun _ => .pure _

theorem follows_solveDirectly : Follows (solveDirectly i t) (solveDirectly i t) :=
  .of_local local_solveDirectly

/-- One number for each variable that is named. -/
theorem follows_rename (ids : List Nat) (taken : List String) (t : Ty) :
    Follows (rename ids taken t) (rename ids taken t) := by
  induction ids generalizing taken t with
  | nil => exact .pure _
  | cons i rest ih => exact .bind (follows_freshVar _) fun _ => .bind (ih _ _) fun _ => .pure _

/-- The variables are those behind the marker, which the supply has no part in. -/
theorem follows_generalize (mark : Nat) : Follows (generalize mark t) (generalize mark t) := by
  refine .read (fun c => ?_) fun _ _ => rfl
  cases c.after? mark with
  | none => exact .pure _
  | some scope => exact .bind (follows_rename _ _ _) fun _ => .pure _

theorem follows_closeContext (mark : Nat) :
    Follows (modify (·.close mark) : Check PUnit) (modify (·.close mark)) := by
  refine .modify (fun c => ?_) fun c size => ?_
  · simp only [Context.close]
    split <;> rfl
  · have same : (c.resize size).apply = c.apply := funext (Context.apply_congr (by rfl))
    simp only [Context.close, same]
    simp only [Context.index?, Context.resize]
    split <;> rfl

/-- First a test of each solution behind the marker, then the entries. -/
theorem follows_close (mark : Nat) : Follows (close mark) (close mark) := by
  refine .read (fun c => ?_) fun _ _ => rfl
  exact .bind (.forM (fun _ => .bind follows_applied fun _ => .pure _) _) fun _ =>
    follows_closeContext mark

/-- A computation whose failures are passed on after a change of the context. -/
theorem follows_tryCatch {m m' : Check α} {g : Context → Context} (first : Follows m m')
    (change : Follows (modify g : Check PUnit) (modify g)) :
    Follows (tryCatch m fun err => do modify g; throw err)
      (tryCatch m' fun err => do modify g; throw err) where
  grows c := by
    have step := first.grows c
    rcases run : m.run c with ⟨err | a, c₁⟩ <;> rw [run] at step
    · rw [run_tryCatch_of_error run]
      have rest := change.grows c₁
      exact ⟨Nat.le_trans step.1 rest.1, rest.2.trans step.2⟩
    · rw [run_tryCatch_of_ok run]
      exact step
  agrees c size := by
    have step := first.agrees c size
    rcases run : m.run c with ⟨err | a, c₁⟩ <;> rw [run] at step
    · rw [run_tryCatch_of_error run]
      intro depth fits fits'
      have rest := change.grows c₁
      have between := step depth (fits.imp (fun h => rest.2 ▸ h)
        fun h => Nat.le_trans rest.1 (rest.2 ▸ h)) (fits'.imp id (Nat.le_trans rest.1))
      rw [run_tryCatch_of_error between]
      exact (Follows.bind change fun _ => .throw err).agrees c₁ size depth fits fits'
    · rw [run_tryCatch_of_ok run]
      intro depth fits fits'
      exact run_tryCatch_of_ok (step depth fits fits')

theorem follows_requireWellFormed : Follows (requireWellFormed t) (requireWellFormed t) :=
  .of_local local_requireWellFormed

end Steps

/-- Instantiation with the side on which the existential stands. -/
inductive Side where
  | left
  | right

/-- The side on which the domain of an arrow stands. -/
def Side.flip : Side → Side
  | left => right
  | right => left

/-- Solves an existential so that it is a subtype of the type (`left`) or a supertype (`right`). -/
def instantiateOn : Side → (depth : Nat) → Nat → Ty → Check Unit
  | .left, n, i, t => instantiateL n i t
  | .right, n, i, t => instantiateR n t i

/-- One step of instantiation, for both sides at once. -/
theorem instantiateOn_succ (side : Side) (n i : Nat) (t : Ty) : instantiateOn side (n + 1) i t = (do
    if ← solveDirectly i t then return
    match t with
    | .arrow a b =>
      let (dom, cod) ← articulate i
      instantiateOn side.flip n dom a
      instantiateOn side n cod (← applied b)
    | .all v b =>
      match side with
      | .left =>
        let (w, body) ← openRigid v b
        modify (·.push [.rigid w])
        instantiateOn side n i body
        modify (·.dropFrom .rigid w.id)
      | .right =>
        let mark ← fresh
        let (j, body) ← openEx v b
        modify (·.push [.marker mark, .unsolved j])
        instantiateOn side n i body
        modify (·.dropFrom .marker mark)
    | _ => throw (.cannotInstantiate i t)) := by
  cases side <;> cases t <;> rfl

/-- More depth does not change an instantiation, by induction on the depth that was enough. -/
theorem follows_instantiateOn {n n' : Nat} (le : n ≤ n') (side : Side) (i : Nat) (t : Ty) :
    Follows (instantiateOn side n i t) (instantiateOn side n' i t) := by
  induction n generalizing n' side i t with
  | zero => cases side <;> exact .tooDeep
  | succ n ih =>
    obtain ⟨n', rfl⟩ : ∃ k, n' = k + 1 := ⟨n' - 1, by omega⟩
    have deeper := @ih n' (by omega)
    rw [instantiateOn_succ, instantiateOn_succ]
    refine .bind follows_solveDirectly fun solved => ?_
    refine .ite (.pure _) ?_
    cases t with
    | arrow a b =>
      exact .bind follows_articulate fun _ => .bind (deeper _ _ _) fun _ =>
        .bind follows_applied fun _ => deeper _ _ _
    | all v b =>
      cases side with
      | left =>
        exact .bind (follows_openRigid _) fun _ => .bind (follows_push _) fun _ =>
          .bind (deeper _ _ _) fun _ => follows_dropFrom _
      | right =>
        exact .bind .fresh fun _ => .bind (follows_openEx _) fun _ => .bind (follows_push _) fun _ =>
          .bind (deeper _ _ _) fun _ => follows_dropFrom _
    | _ => exact .throw _

/-- Which side is instantiated is read off the entries. -/
theorem follows_instantiate {n n' : Nat} (le : n ≤ n') (a b : Ty) :
    Follows (instantiate n a b) (instantiate n' a b) := by
  refine .read (fun c => ?_) fun c size => ?_
  · cases c.openEx? a b with
    | some i => exact follows_instantiateOn le .left i b
    | none =>
      cases c.openEx? b a with
      | some j => exact follows_instantiateOn le .right j a
      | none => exact .throw _
  · have same : (c.resize size).openEx? = c.openEx? := by
      funext a b
      cases a <;> rfl
    rw [same]

/-- More depth does not change a run of subtyping. -/
theorem follows_subtype {n n' : Nat} (le : n ≤ n') (a b : Ty) :
    Follows (subtype n a b) (subtype n' a b) := by
  induction n generalizing n' a b with
  | zero => exact .tooDeep
  | succ n ih =>
    obtain ⟨n', rfl⟩ : ∃ k, n' = k + 1 := ⟨n' - 1, by omega⟩
    have deeper := @ih n' (by omega)
    unfold subtype
    split
    · exact .pure _
    · exact .bind (deeper _ _) fun _ => .bind follows_applied fun _ => .bind follows_applied fun _ =>
        deeper _ _
    · exact .bind (follows_openRigid _) fun _ => .bind (follows_push _) fun _ =>
        .bind (deeper _ _) fun _ => follows_dropFrom _
    · exact .bind .fresh fun _ => .bind (follows_openEx _) fun _ => .bind (follows_push _) fun _ =>
        .bind (deeper _ _) fun _ => follows_dropFrom _
    · exact .ite (.throw _) (.read (fun _ => .ite (.pure _) (.throw _)) fun _ _ => rfl)
    · exact .ite (follows_instantiate (by omega) _ _)
        (.read (fun _ => .ite (.pure _) (.throw _)) fun _ _ => rfl)
    · exact follows_instantiate (by omega) _ _


/-- The four functions of inference call each other at less depth, so the induction is on all of them at once. -/
theorem follows_infers {n n' : Nat} (le : n ≤ n') :
    (∀ e t, Follows (check n e t) (check n' e t)) ∧ (∀ e, Follows (synth n e) (synth n' e)) ∧
      (∀ t e, Follows (synthApp n t e) (synthApp n' t e)) ∧
      ∀ ann e, Follows (bindingType n ann e) (bindingType n' ann e) := by
  induction n generalizing n' with
  | zero => exact ⟨fun _ _ => .tooDeep, fun _ => .tooDeep, fun _ _ => .tooDeep, fun _ _ => .tooDeep⟩
  | succ n ih =>
    obtain ⟨n', rfl⟩ : ∃ k, n' = k + 1 := ⟨n' - 1, by omega⟩
    obtain ⟨checks, synths, applies, binds⟩ := @ih n' (by omega)
    refine ⟨fun e t => ?_, fun e => ?_, fun t e => ?_, fun ann e => ?_⟩
    · unfold check
      split
      · exact .bind (follows_openRigid _) fun _ => .bind (follows_push _) fun _ =>
          .bind (checks _ _) fun _ => follows_dropFrom _
      · exact .pure _
      · exact .bind (follows_push _) fun _ => .bind (checks _ _) fun _ => follows_dropFrom _
      · exact .bind (binds _ _) fun _ => .bind (follows_push _) fun _ => .bind (checks _ _) fun _ =>
          follows_remove _
      · exact .bind (synths _) fun _ => .bind follows_applied fun _ => .bind follows_applied fun _ =>
          follows_subtype (by omega) _ _
    · unfold synth
      cases e with
      | var x =>
        refine .read (fun c => ?_) fun _ _ => rfl
        cases c.typeOf? x.id with
        | none => exact .throw _
        | some t => exact .pure _
      | unit => exact .pure _
      | ann e t => exact .bind follows_requireWellFormed fun _ => .bind (checks _ _) fun _ => .pure _
      | lam x body =>
        exact .bind .fresh fun _ => .bind .fresh fun _ => .bind .fresh fun _ =>
          .bind (follows_push _) fun _ => .bind (checks _ _) fun _ => .bind follows_applied fun _ =>
          .bind (follows_generalize _) fun _ => .bind (follows_dropFrom _) fun _ => .pure _
      | app fn arg => exact .bind (synths _) fun _ => .bind follows_applied fun _ => applies _ _
      | letIn x ann value body =>
        exact .bind (binds _ _) fun _ => .bind (follows_push _) fun _ => .bind (synths _) fun _ =>
          .bind (follows_remove _) fun _ => .pure _
    · unfold synthApp
      cases t with
      | all v b => exact .bind (follows_openEx _) fun _ => .bind (follows_push _) fun _ => applies _ _
      | ex i =>
        exact .read (fun _ => .ite (.bind follows_articulate fun _ => .bind (checks _ _) fun _ => .pure _)
          (.throw _)) fun _ _ => rfl
      | arrow dom cod => exact .bind (checks _ _) fun _ => .pure _
      | _ => exact .throw _
    · unfold bindingType
      cases ann with
      | some t => exact .bind follows_requireWellFormed fun _ => .bind (checks _ _) fun _ => .pure _
      | none =>
        exact .bind .fresh fun _ => .bind (follows_push _) fun _ => .bind (synths _) fun _ =>
          .bind follows_applied fun _ => .bind (follows_generalize _) fun _ =>
          .bind (follows_dropFrom _) fun _ => .pure _

end TermBot.Typing
