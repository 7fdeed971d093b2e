import TermBot.Proofs.Typing.Alike
import TermBot.Proofs.Typing.Inference

/-!
# Inference and names

Nothing that inference decides depends on a name: on expressions and contexts that differ in names it takes the
same steps, and ends with the same numbers, or fails at the same place for the same reason (`matches_infer`).
Names matter only where new ones are chosen, so the names in the result are related if the choice of a name
keeps to the relation (`KeepsNext`). With scoping, alpha-equivalent terms have the same types up to names, and
renaming abstractions and definitions changes nothing at all (`infer_alpha`).
-/

namespace TermBot.Typing

open Scoped

/-- If the names taken are related, so are the names chosen next. -/
def KeepsNext (R : String → String → Prop) : Prop :=
  ∀ xs ys, List.Forall₂ R xs ys → R (nextName xs) (nextName ys)

theorem keepsNext_eq : KeepsNext Eq := by
  intro xs ys same
  rw [List.forall₂_eq_eq_eq] at same
  rw [same]

/-- The same reason, with the same numbers. -/
inductive TypeError.Alike (R : String → String → Prop) : TypeError → TypeError → Prop where
  | rigidOutOfScope {x y : String} (i : Nat) (name : R x y) :
      Alike R (.rigidOutOfScope ⟨x, i⟩) (.rigidOutOfScope ⟨y, i⟩)
  | existentialOutOfScope (i : Nat) : Alike R (.existentialOutOfScope i) (.existentialOutOfScope i)
  | notSubtype {a b a' b' : Ty} (left : a.Alike R a') (right : b.Alike R b') :
      Alike R (.notSubtype a b) (.notSubtype a' b')
  | notUnsolved (i : Nat) : Alike R (.notUnsolved i) (.notUnsolved i)
  | cannotInstantiate {t t' : Ty} (i : Nat) (type : t.Alike R t') :
      Alike R (.cannotInstantiate i t) (.cannotInstantiate i t')
  | unboundTerm {x y : String} (i : Nat) : Alike R (.unboundTerm ⟨x, i⟩) (.unboundTerm ⟨y, i⟩)
  | illFormed {t t' : Ty} (type : t.Alike R t') : Alike R (.illFormed t) (.illFormed t')
  | notFunction {t t' : Ty} (type : t.Alike R t') : Alike R (.notFunction t) (.notFunction t')
  | tooDeep : Alike R .tooDeep .tooDeep

/-- Both runs succeed with related results, or both fail for the same reason; in either case they leave
contexts that differ in names only. -/
inductive EndAlike {α β : Type} (R : String → String → Prop) (related : α → β → Prop) :
    Except TypeError α × Context → Except TypeError β × Context → Prop where
  | ok {a : α} {b : β} {c c' : Context} (found : related a b) (left : c.Alike R c') :
      EndAlike R related (.ok a, c) (.ok b, c')
  | error {err err' : TypeError} {c c' : Context} (reason : err.Alike R err') (left : c.Alike R c') :
      EndAlike R related (.error err, c) (.error err', c')

/-- On contexts that differ in names only the computations end alike. -/
def Matches {α β : Type} (R : String → String → Prop) (related : α → β → Prop) (m : Check α)
    (m' : Check β) : Prop :=
  ∀ c c', c.Alike R c' → EndAlike R related (m.run c) (m'.run c')

/-- Nothing is known about the results, as of a computation that only checks something. -/
def Anyhow {α β : Type} (_ : α) (_ : β) : Prop := True

variable {R : String → String → Prop}

namespace Matches

variable {α β γ δ : Type} {related : α → β → Prop} {results : γ → δ → Prop} {m k : Check α}
  {m' k' : Check β}

theorem pure {a : α} {b : β} (found : related a b) : Matches R related (pure a) (pure b) :=
  fun _ _ left => .ok found left

theorem throw {err err' : TypeError} (reason : err.Alike R err') :
    Matches R related (throw err) (throw err') :=
  fun _ _ left => .error reason left

theorem bind {f : α → Check γ} {f' : β → Check δ} (first : Matches R related m m')
    (next : ∀ a b, related a b → Matches R results (f a) (f' b)) :
    Matches R results (m >>= f) (m' >>= f') := by
  intro c c' left
  have step := first c c' left
  generalize run : m.run c = out, run' : m'.run c' = out' at step
  cases step with
  | ok found left =>
    rw [run_bind_of_ok run, run_bind_of_ok run']
    exact next _ _ found _ _ left
  | error reason left =>
    rw [run_bind_of_error run, run_bind_of_error run']
    exact .error reason left

theorem read {f : Context → Check α} {f' : Context → Check β}
    (next : ∀ c c', c.Alike R c' → Matches R related (f c) (f' c')) :
    Matches R related (get >>= f) (get >>= f') :=
  fun c c' left => next c c' left c c' left

theorem modify {g g' : Context → Context} (same : ∀ c c', c.Alike R c' → (g c).Alike R (g' c')) :
    Matches R Anyhow (modify g : Check PUnit) (modify g' : Check PUnit) :=
  fun c c' left => .ok trivial (same c c' left)

theorem set {c c' : Context} (same : c.Alike R c') :
    Matches R Anyhow (set c : Check PUnit) (set c' : Check PUnit) :=
  fun _ _ _ => .ok trivial same

theorem fresh : Matches R Eq fresh fresh :=
  .read fun _ _ left => .bind (.set ⟨left.entries, congrArg (Supply.skip · 1) left.supply⟩) fun _ _ _ =>
    .pure left.next_eq

theorem ite {p p' : Prop} [Decidable p] [Decidable p'] (same : p ↔ p') (yes : Matches R related m m')
    (no : Matches R related k k') :
    Matches R related (if p then m else k) (if p' then m' else k') := by
  by_cases holds : p
  · rw [if_pos holds, if_pos (same.1 holds)]
    exact yes
  · rw [if_neg holds, if_neg (mt same.2 holds)]
    exact no

theorem forM {f : γ → Check PUnit} {f' : δ → Check PUnit} {as : List γ} {bs : List δ}
    (each : ∀ a b, results a b → Matches R Anyhow (f a) (f' b)) (lists : List.Forall₂ results as bs) :
    Matches R Anyhow (as.forM f) (bs.forM f') := by
  induction lists with
  | nil => exact .pure trivial
  | cons head _ ih => exact .bind (each _ _ head) fun _ _ _ => ih

end Matches

section Steps

variable {a b s t : Ty} {x y : String} {i : Nat}

/-- A computation whose failures are passed on after a change of the context. -/
theorem matches_tryCatch {α β : Type} {related : α → β → Prop} {m : Check α} {m' : Check β}
    {g g' : Context → Context} (first : Matches R related m m')
    (change : ∀ c c', c.Alike R c' → (g c).Alike R (g' c')) :
    Matches R related (tryCatch m fun err => do modify g; throw err)
      (tryCatch m' fun err => do modify g'; throw err) := by
  intro c c' left
  have step := first c c' left
  generalize run : m.run c = out, run' : m'.run c' = out' at step
  cases step with
  | ok found left =>
    rw [run_tryCatch_of_ok run, run_tryCatch_of_ok run']
    exact .ok found left
  | error reason left =>
    rw [run_tryCatch_of_error run, run_tryCatch_of_error run']
    exact .error reason (change _ _ left)

theorem matches_push {es es' : List Entry} (more : List.Forall₂ (Entry.Alike R) es es') :
    Matches R Anyhow (modify (·.push es) : Check PUnit) (modify (·.push es')) :=
  .modify fun _ _ left => left.push more

theorem matches_dropFrom (k : EntryKind) (i : Nat) :
    Matches R Anyhow (modify (·.dropFrom k i) : Check PUnit) (modify (·.dropFrom k i)) :=
  .modify fun _ _ left => left.dropFrom k i

theorem matches_remove (k : EntryKind) (i : Nat) :
    Matches R Anyhow (modify (·.remove k i) : Check PUnit) (modify (·.remove k i)) :=
  .modify fun _ _ left => left.remove k i

theorem matches_applied (type : a.Alike R b) : Matches R (Ty.Alike R) (applied a) (applied b) := by
  refine .read fun c c' left => ?_
  have same := left.apply type
  have solved : c.has .solved = c'.has .solved := funext fun i => left.has_eq .solved i
  refine .ite ?_ (.throw .tooDeep) (.pure same)
  rw [same.exOccurrences_eq, solved]

theorem matches_freshVar (name : R x y) :
    Matches R (Ident.Alike R) (freshVar x) (freshVar y) := by
  refine .bind .fresh ?_
  rintro i _ rfl
  exact .pure ⟨x, y, i, rfl, rfl, name⟩

/-- The opened variable and the body that refers to it. -/
theorem matches_openRigid (name : R x y) (type : a.Alike R b) :
    Matches R (fun p q => Ident.Alike R p.1 q.1 ∧ Ty.Alike R p.2 q.2) (openRigid ⟨x, i⟩ a)
      (openRigid ⟨y, i⟩ b) := by
  refine .bind (matches_freshVar name) fun v w same => .pure ⟨same, ?_⟩
  obtain ⟨_, _, j, rfl, rfl, name⟩ := same
  exact type.substVar i (.var j name)

theorem matches_openEx (type : a.Alike R b) :
    Matches R (fun p q => p.1 = q.1 ∧ Ty.Alike R p.2 q.2) (openEx ⟨x, i⟩ a) (openEx ⟨y, i⟩ b) := by
  refine .bind .fresh ?_
  rintro j _ rfl
  exact .pure ⟨rfl, type.substVar i (.ex j)⟩

/-- What is done with an opened body, while its variable is in scope. -/
theorem matches_underRigid {f g : Ty → Check PUnit} (name : R x y) (body : a.Alike R b)
    (inside : ∀ a b, a.Alike R b → Matches R Anyhow (f a) (g b)) : Matches R Anyhow
    (do
      let (w, body) ← openRigid ⟨x, i⟩ a
      modify (·.push [.rigid w])
      f body
      modify (·.dropFrom .rigid w.id))
    (do
      let (w, body) ← openRigid ⟨y, i⟩ b
      modify (·.push [.rigid w])
      g body
      modify (·.dropFrom .rigid w.id)) := by
  refine .bind (matches_openRigid name body) ?_
  rintro ⟨_, _⟩ ⟨_, _⟩ ⟨⟨x, y, w, rfl, rfl, name⟩, opened⟩
  exact .bind (matches_push (.cons (.rigid w name) .nil)) fun _ _ _ =>
    .bind (inside _ _ opened) fun _ _ _ => matches_dropFrom .rigid w

/-- The same with an existential for the variable. -/
theorem matches_underEx {f g : Ty → Check PUnit} (body : a.Alike R b)
    (inside : ∀ a b, a.Alike R b → Matches R Anyhow (f a) (g b)) : Matches R Anyhow
    (do
      let mark ← fresh
      let (j, body) ← openEx ⟨x, i⟩ a
      modify (·.push [.marker mark, .unsolved j])
      f body
      modify (·.dropFrom .marker mark))
    (do
      let mark ← fresh
      let (j, body) ← openEx ⟨y, i⟩ b
      modify (·.push [.marker mark, .unsolved j])
      g body
      modify (·.dropFrom .marker mark)) := by
  refine .bind .fresh ?_
  rintro mark _ rfl
  refine .bind (matches_openEx body) ?_
  rintro ⟨j, _⟩ ⟨_, _⟩ ⟨rfl, opened⟩
  exact .bind (matches_push (.cons (.marker mark) (.cons (.unsolved j) .nil))) fun _ _ _ =>
    .bind (inside _ _ opened) fun _ _ _ => matches_dropFrom .marker mark

theorem matches_articulate (i : Nat) : Matches R Eq (articulate i) (articulate i) := by
  refine .bind .fresh ?_
  rintro cod _ rfl
  refine .bind .fresh ?_
  rintro dom _ rfl
  have arrow : Ty.Alike R (.arrow (.ex dom) (.ex cod)) (.arrow (.ex dom) (.ex cod)) :=
    .arrow (.ex dom) (.ex cod)
  exact .bind (.modify fun _ _ left => left.replace
    (.cons (.unsolved cod) (.cons (.unsolved dom) (.cons (.solved i arrow) .nil)))) fun _ _ _ => .pure rfl

theorem matches_rename (keeps : KeepsNext R) (ids : List Nat) {taken taken' : List String}
    (names : List.Forall₂ R taken taken') (type : a.Alike R b) :
    Matches R (fun p q => List.Forall₂ (Ident.Alike R) p.1 q.1 ∧ Ty.Alike R p.2 q.2) (rename ids taken a)
      (rename ids taken' b) := by
  induction ids generalizing taken taken' a b with
  | nil => exact .pure ⟨.nil, type⟩
  | cons i rest ih =>
    refine .bind (matches_freshVar (keeps _ _ names)) fun v w same => ?_
    obtain ⟨x, y, j, rfl, rfl, name⟩ := same
    exact .bind (ih (.cons name names) (type.substEx i (.var j name))) fun _ _ rest =>
      .pure ⟨.cons ⟨x, y, j, rfl, rfl, name⟩ rest.1, rest.2⟩

theorem matches_generalize (keeps : KeepsNext R) (mark : Nat) (type : a.Alike R b) :
    Matches R (Ty.Alike R) (generalize mark a) (generalize mark b) := by
  refine .read fun c c' left => ?_
  have scopes := left.after?_rel mark
  generalize c.after? mark = es, c'.after? mark = es' at scopes
  cases scopes with
  | none => exact .pure type
  | @some es es' scope =>
    have declared (i : Nat) : es.any (·.declares .unsolved i) = es'.any (·.declares .unsolved i) :=
      any_rel (fun _ _ same => same.declares_eq .unsolved i) scope
    simp only [declared, type.existentials_eq]
    exact .bind (matches_rename keeps _ type.names_rel type) fun _ _ same =>
      .pure (.closeOver same.1 same.2)

theorem matches_close (mark : Nat) : Matches R Anyhow (close mark) (close mark) := by
  refine .read fun c c' left => ?_
  have each (a b : Ty) (same : a.Alike R b) : Matches R Anyhow (discard (applied a)) (discard (applied b)) :=
    .bind (matches_applied same) fun _ _ _ => .pure trivial
  exact .bind (.forM each (left.solutionsAfter_rel mark)) fun _ _ _ =>
    .modify fun _ _ left => left.close mark

theorem matches_requireWellFormed (type : a.Alike R b) :
    Matches R Anyhow (requireWellFormed a) (requireWellFormed b) := by
  refine .read fun c c' left => ?_
  rw [left.length_eq, left.wellFormed_eq _ type]
  exact .ite Iff.rfl (.pure trivial) (.throw (.illFormed type))

theorem matches_solveDirectly (i : Nat) (type : a.Alike R b) :
    Matches R Eq (solveDirectly i a) (solveDirectly i b) := by
  refine .read fun c c' left => ?_
  rw [left.index?_eq]
  cases c'.index? .unsolved i with
  | none => exact .throw (.notUnsolved i)
  | some n =>
    refine .ite (by rw [type.isMono_eq, left.wellFormed_eq n type])
      (.bind (.set (left.solve type)) fun _ _ _ => .pure rfl) ?_
    cases type with
    | ex j =>
      refine .ite (by rw [left.index?_eq]) ?_ (.throw (.cannotInstantiate i (.ex j)))
      exact .bind (.set (left.solve (.ex i))) fun _ _ _ => .pure rfl
    | _ => exact .pure rfl

end Steps

section Infers

variable {a b s t : Ty}

theorem matches_instantiateOn (n : Nat) (side : Side) (i : Nat) (type : a.Alike R b) :
    Matches R Anyhow (instantiateOn side n i a) (instantiateOn side n i b) := by
  induction n generalizing side i a b with
  | zero => cases side <;> exact .throw .tooDeep
  | succ n ih =>
    rw [instantiateOn_succ, instantiateOn_succ]
    refine .bind (matches_solveDirectly i type) ?_
    rintro solved _ rfl
    refine .ite Iff.rfl (.pure trivial) ?_
    cases type with
    | arrow left right =>
      refine .bind (matches_articulate i) ?_
      rintro ⟨dom, cod⟩ _ rfl
      exact .bind (ih _ dom left) fun _ _ _ => .bind (matches_applied right) fun _ _ same =>
        ih _ cod same
    | all j name body =>
      cases side with
      | left => exact matches_underRigid name body fun _ _ opened => ih _ i opened
      | right => exact matches_underEx body fun _ _ opened => ih _ i opened
    | unit => exact .throw (.cannotInstantiate i .unit)
    | var j name => exact .throw (.cannotInstantiate i (.var j name))
    | ex j => exact .throw (.cannotInstantiate i (.ex j))

theorem openEx?_eq {c c' : Context} (left : c.Alike R c') (first : a.Alike R b) (second : s.Alike R t) :
    c.openEx? a s = c'.openEx? b t := by
  cases first with
  | ex i => rw [Context.openEx?, Context.openEx?, left.has_eq, second.occurs_eq]
  | _ => rfl

theorem matches_instantiate (n : Nat) (first : a.Alike R b) (second : s.Alike R t) :
    Matches R Anyhow (instantiate n a s) (instantiate n b t) := by
  refine .read fun c c' left => ?_
  rw [openEx?_eq left first second, openEx?_eq left second first]
  cases c'.openEx? b t with
  | some i => exact matches_instantiateOn n .left i second
  | none =>
    cases c'.openEx? t b with
    | some j => exact matches_instantiateOn n .right j first
    | none => exact .throw (.notSubtype first second)

theorem matches_subtype (n : Nat) (first : a.Alike R b) (second : s.Alike R t) :
    Matches R Anyhow (subtype n a s) (subtype n b t) := by
  induction n generalizing a b s t with
  | zero => exact .throw .tooDeep
  | succ n ih =>
    -- a quantifier on the left is opened unless there is one on the right
    have underEx {x y : String} {i : Nat} {a b s t : Ty} (body : a.Alike R b) (second : s.Alike R t)
        (other : ∀ w d, s ≠ .all w d) :
        Matches R Anyhow (subtype (n + 1) (.all ⟨x, i⟩ a) s) (subtype (n + 1) (.all ⟨y, i⟩ b) t) := by
      have under := matches_underEx (x := x) (y := y) (i := i) (f := (subtype n · s)) (g := (subtype n · t))
        body fun _ _ opened => ih opened second
      cases second with
      | all => exact absurd rfl (other _ _)
      | _ => exact under
    have direct := matches_instantiate n first second
    cases second with
    | all i name body =>
      have under {a b : Ty} (first : a.Alike R b) :=
        matches_underRigid (i := i) (f := subtype n a) (g := subtype n b) name body fun _ _ opened =>
          ih first opened
      cases first with
      | unit => exact under .unit
      | var j other => exact under (.var j other)
      | ex j => exact under (.ex j)
      | arrow dom cod => exact under (.arrow dom cod)
      | all j other inner => exact under (.all j other inner)
    | unit =>
      cases first with
      | unit => exact .pure trivial
      | all i name body => exact underEx body .unit (by rintro _ _ ⟨⟩)
      | _ => exact direct
    | var j other =>
      cases first with
      | var i name =>
        refine .ite Iff.rfl (.throw (.notSubtype (.var i name) (.var j other))) (.read fun c c' left => ?_)
        exact .ite (by rw [left.has_eq]) (.pure trivial) (.throw (.rigidOutOfScope i name))
      | all i name body => exact underEx body (.var j other) (by rintro _ _ ⟨⟩)
      | _ => exact direct
    | ex j =>
      cases first with
      | ex i =>
        refine .ite Iff.rfl direct (.read fun c c' left => ?_)
        exact .ite (by rw [left.exIndex?_eq]) (.pure trivial) (.throw (.existentialOutOfScope i))
      | all i name body => exact underEx body (.ex j) (by rintro _ _ ⟨⟩)
      | _ => exact direct
    | arrow dom cod =>
      cases first with
      | arrow dom' cod' =>
        exact .bind (ih dom dom') fun _ _ _ => .bind (matches_applied cod') fun _ _ left =>
          .bind (matches_applied cod) fun _ _ right => ih left right
      | all i name body => exact underEx body (.arrow dom cod) (by rintro _ _ ⟨⟩)
      | _ => exact direct

/-- Checking, synthesis and application, and what a binding gives to its name. -/
structure InfersAlike (R : String → String → Prop) (n : Nat) : Prop where
  checks {e f : Expr} {a b : Ty} (expr : e.Alike R f) (type : a.Alike R b) :
    Matches R Anyhow (check n e a) (check n f b)
  synths {e f : Expr} (expr : e.Alike R f) : Matches R (Ty.Alike R) (synth n e) (synth n f)
  applies {e f : Expr} {a b : Ty} (type : a.Alike R b) (arg : e.Alike R f) :
    Matches R (Ty.Alike R) (synthApp n a e) (synthApp n b f)
  binds {e f : Expr} {a b : Option Ty} (given : Option.Rel (Ty.Alike R) a b) (value : e.Alike R f) :
    Matches R (Ty.Alike R) (bindingType n a e) (bindingType n b f)

variable {n : Nat} {e f v w : Expr} {x y : String} {i : Nat}

theorem InfersAlike.zero : InfersAlike R 0 where
  checks _ _ := .throw .tooDeep
  synths _ := .throw .tooDeep
  applies _ _ := .throw .tooDeep
  binds _ _ := .throw .tooDeep

theorem InfersAlike.bySynth (ih : InfersAlike R n) (expr : e.Alike R f) (type : a.Alike R b) :
    Matches R Anyhow (do subtype n (← applied (← synth n e)) (← applied a))
      (do subtype n (← applied (← synth n f)) (← applied b)) :=
  .bind (ih.synths expr) fun _ _ got => .bind (matches_applied got) fun _ _ left =>
    .bind (matches_applied type) fun _ _ right => matches_subtype n left right

theorem InfersAlike.check_letIn {given given' : Option Ty} (ih : InfersAlike R n)
    (type : Option.Rel (Ty.Alike R) given given') (value : v.Alike R w) (body : e.Alike R f)
    (goal : a.Alike R b) (other : ∀ u d, a ≠ .all u d) :
    Matches R Anyhow (check (n + 1) (.letIn ⟨x, i⟩ given v e) a)
      (check (n + 1) (.letIn ⟨y, i⟩ given' w f) b) := by
  have steps : Matches R Anyhow
      (do
        modify (·.push [.term ⟨x, i⟩ (← bindingType n given v)])
        check n e a
        modify (·.remove .term i))
      (do
        modify (·.push [.term ⟨y, i⟩ (← bindingType n given' w)])
        check n f b
        modify (·.remove .term i)) :=
    .bind (ih.binds type value) fun _ _ bound => .bind (matches_push (.cons (.term i bound) .nil)) fun _ _ _ =>
      .bind (ih.checks body goal) fun _ _ _ => matches_remove .term i
  cases goal with
  | all => exact absurd rfl (other _ _)
  | _ => exact steps

theorem InfersAlike.check_succ (ih : InfersAlike R n) (expr : e.Alike R f) (type : a.Alike R b) :
    Matches R Anyhow (check (n + 1) e a) (check (n + 1) f b) := by
  cases type with
  | all i name body =>
    have under := matches_underRigid (i := i) (f := check n e) (g := check n f) name body fun _ _ opened =>
      ih.checks expr opened
    cases expr <;> exact under
  | unit =>
    cases expr with
    | unit => exact .pure trivial
    | letIn i given value body => exact ih.check_letIn given value body .unit (by rintro _ _ ⟨⟩)
    | var i => exact ih.bySynth (.var i) .unit
    | lam i body => exact ih.bySynth (.lam i body) .unit
    | app fn arg => exact ih.bySynth (.app fn arg) .unit
    | ann expr given => exact ih.bySynth (.ann expr given) .unit
  | arrow dom cod =>
    cases expr with
    | lam i body =>
      exact .bind (matches_push (.cons (.term i dom) .nil)) fun _ _ _ => .bind (ih.checks body cod) fun _ _ _ =>
        matches_dropFrom .term i
    | letIn i given value body => exact ih.check_letIn given value body (.arrow dom cod) (by rintro _ _ ⟨⟩)
    | unit => exact ih.bySynth .unit (.arrow dom cod)
    | var i => exact ih.bySynth (.var i) (.arrow dom cod)
    | app fn arg => exact ih.bySynth (.app fn arg) (.arrow dom cod)
    | ann expr given => exact ih.bySynth (.ann expr given) (.arrow dom cod)
  | var j name =>
    have direct := ih.bySynth expr (.var j name)
    cases expr with
    | letIn i given value body => exact ih.check_letIn given value body (.var j name) (by rintro _ _ ⟨⟩)
    | _ => exact direct
  | ex j =>
    have direct := ih.bySynth expr (.ex j)
    cases expr with
    | letIn i given value body => exact ih.check_letIn given value body (.ex j) (by rintro _ _ ⟨⟩)
    | _ => exact direct

theorem InfersAlike.synth_succ (ih : InfersAlike R n) (keeps : KeepsNext R) (expr : e.Alike R f) :
    Matches R (Ty.Alike R) (synth (n + 1) e) (synth (n + 1) f) := by
  unfold synth
  cases expr with
  | @var x y i =>
    refine .read fun c c' left => ?_
    have found := left.typeOf?_rel i
    dsimp only
    generalize c.typeOf? i = t, c'.typeOf? i = t' at found
    cases found with
    | none => exact .throw (.unboundTerm i)
    | some type => exact .pure type
  | unit => exact .pure .unit
  | ann expr type =>
    exact .bind (matches_requireWellFormed type) fun _ _ _ => .bind (ih.checks expr type) fun _ _ _ =>
      .pure type
  | lam i body =>
    refine .bind .fresh ?_
    rintro mark _ rfl
    refine .bind .fresh ?_
    rintro dom _ rfl
    refine .bind .fresh ?_
    rintro cod _ rfl
    exact .bind (matches_push (.cons (.marker mark) (.cons (.unsolved dom) (.cons (.unsolved cod)
        (.cons (.term i (.ex dom)) .nil))))) fun _ _ _ => .bind (ih.checks body (.ex cod)) fun _ _ _ =>
      .bind (matches_applied (.arrow (.ex dom) (.ex cod))) fun _ _ type =>
      .bind (matches_generalize keeps mark type) fun _ _ general =>
      .bind (matches_dropFrom .marker mark) fun _ _ _ => .pure general
  | app fn arg =>
    exact .bind (ih.synths fn) fun _ _ type => .bind (matches_applied type) fun _ _ type =>
      ih.applies type arg
  | letIn i given value body =>
    exact .bind (ih.binds given value) fun _ _ bound =>
      .bind (matches_push (.cons (.term i bound) .nil)) fun _ _ _ =>
      .bind (ih.synths body) fun _ _ type => .bind (matches_remove .term i) fun _ _ _ => .pure type

theorem InfersAlike.apply_succ (ih : InfersAlike R n) (type : a.Alike R b) (arg : e.Alike R f) :
    Matches R (Ty.Alike R) (synthApp (n + 1) a e) (synthApp (n + 1) b f) := by
  unfold synthApp
  cases type with
  | all i name body =>
    refine .bind (matches_openEx body) ?_
    rintro ⟨j, _⟩ ⟨_, _⟩ ⟨rfl, opened⟩
    exact .bind (matches_push (.cons (.unsolved j) .nil)) fun _ _ _ => ih.applies opened arg
  | ex i =>
    refine .read fun c c' left => .ite (by rw [left.has_eq]) ?_ (.throw (.notFunction (.ex i)))
    refine .bind (matches_articulate i) ?_
    rintro ⟨dom, cod⟩ _ rfl
    exact .bind (ih.checks arg (.ex dom)) fun _ _ _ => .pure (.ex cod)
  | arrow dom cod => exact .bind (ih.checks arg dom) fun _ _ _ => .pure cod
  | unit => exact .throw (.notFunction .unit)
  | var i name => exact .throw (.notFunction (.var i name))

theorem InfersAlike.bind_succ {given given' : Option Ty} (ih : InfersAlike R n) (keeps : KeepsNext R)
    (type : Option.Rel (Ty.Alike R) given given') (value : v.Alike R w) :
    Matches R (Ty.Alike R) (bindingType (n + 1) given v) (bindingType (n + 1) given' w) := by
  unfold bindingType
  cases type with
  | some type =>
    exact .bind (matches_requireWellFormed type) fun _ _ _ => .bind (ih.checks value type) fun _ _ _ =>
      .pure type
  | none =>
    refine .bind .fresh ?_
    rintro mark _ rfl
    exact .bind (matches_push (.cons (.marker mark) .nil)) fun _ _ _ => .bind (ih.synths value) fun _ _ type =>
      .bind (matches_applied type) fun _ _ type =>
      .bind (matches_generalize keeps mark type) fun _ _ general =>
      .bind (matches_dropFrom .marker mark) fun _ _ _ => .pure general

theorem infersAlike (keeps : KeepsNext R) (n : Nat) : InfersAlike R n := by
  induction n with
  | zero => exact .zero
  | succ n ih =>
    exact ⟨ih.check_succ, ih.synth_succ keeps, ih.apply_succ, ih.bind_succ keeps⟩

/-- Inference on expressions that differ in names ends alike. -/
theorem matches_infer (keeps : KeepsNext R) (n : Nat) (expr : e.Alike R f) :
    Matches R (Ty.Alike R) (infer n e) (infer n f) := by
  have above (c c' : Context) (left : c.Alike R c') :
      (c.reserveAbove e.maxId).Alike R (c'.reserveAbove f.maxId) := expr.maxId_eq ▸ left.reserveAbove _
  refine .bind (.modify above) fun _ _ _ => .bind .fresh ?_
  rintro mark _ rfl
  exact .bind (matches_push (.cons (.marker mark) .nil)) fun _ _ _ =>
    .bind (matches_tryCatch ((infersAlike keeps n).synths expr) fun _ _ left => left.remove .marker mark)
      fun _ _ type =>
    .bind (matches_applied type) fun _ _ type =>
    .bind (matches_generalize keeps mark type) fun _ _ general =>
    .bind (matches_close mark) fun _ _ _ => .pure general

end Infers

section Alpha

open Surface (Term)

variable {t u : Term}

/-- Alpha-equivalent terms are scoped alike, or not at all. -/
theorem resolve_alphaEquiv (same : t.AlphaEquiv u) :
    Option.Rel (Expr.Alike fun _ _ => True) (resolve t) (resolve u) :=
  resolve_alpha (fun _ _ type => agrees_resolveType .nil type) same

theorem resolve_renames (same : t.Renames u) : Option.Rel (Expr.Alike Eq) (resolve t) (resolve u) :=
  resolve_alpha (fun _ _ type => agrees_resolveType_of_erase type) same

/-- **Inference does not depend on the names of bound variables.** Of two alpha-equivalent terms both are scoped
or neither is. If they are, inference in a new context succeeds on both or on neither, at every depth; the types
found are the same without the names in them, and the same with them if only abstractions and definitions were
renamed. -/
theorem infer_alpha (same : t.AlphaEquiv u) :
    (resolve t).isSome = (resolve u).isSome ∧
      ∀ e f, resolve t = some e → resolve u = some f → ∀ depth,
        ((infer depth e).run {}).1.isOk = ((infer depth f).run {}).1.isOk ∧
          ∀ a b c c', (infer depth e).run {} = (.ok a, c) → (infer depth f).run {} = (.ok b, c') →
            a.nameless = b.nameless ∧ (t.Renames u → a = b) := by
  have new (R : String → String → Prop) : Context.Alike R {} {} := ⟨.nil, rfl⟩
  have pairs := resolve_alphaEquiv same
  constructor
  · generalize resolve t = e, resolve u = f at pairs
    cases pairs <;> rfl
  intro e f left right depth
  rw [left, right] at pairs
  have alike : Expr.Alike (fun _ _ => True) e f := by cases pairs; assumption
  have ends := matches_infer (fun _ _ _ => trivial) depth alike {} {} (new _)
  constructor
  · generalize (infer depth e).run {} = r, (infer depth f).run {} = r' at ends
    cases ends <;> rfl
  intro a b c c' run run'
  rw [run, run'] at ends
  constructor
  · cases ends with
    | ok found _ => exact found.nameless_eq
  · intro renames
    have pairs := resolve_renames renames
    rw [left, right] at pairs
    have alike : Expr.Alike Eq e f := by cases pairs; assumption
    have ends := matches_infer keepsNext_eq depth alike {} {} (new _)
    rw [run, run'] at ends
    cases ends with
    | ok found _ => exact found.eq

/-- The identity, annotated with its type, under two choices of names. -/
theorem infer_alpha_identity :
    let t : Term := .ann (.lam "x" (.var "x" .start) .start)
      (.all "a" (.arrow (.name "a" .start) (.name "a" .start))) .start
    let u : Term := .ann (.lam "y" (.var "y" .start) .start)
      (.all "b" (.arrow (.name "b" .start) (.name "b" .start))) .start
    let form (x a : String) : Expr := .ann (.lam ⟨x, 0⟩ (.var ⟨x, 0⟩))
      (.all ⟨a, 1⟩ (.arrow (.var ⟨a, 1⟩) (.var ⟨a, 1⟩)))
    resolve t = some (form "x" "a") ∧ resolve u = some (form "y" "b") ∧
      ((infer 9 (form "x" "a")).run {}).1.isOk = ((infer 9 (form "y" "b")).run {}).1.isOk := by
  intro t u form
  have same : t.AlphaEquiv u := .ann (.lam (.var .here)) (.all (.arrow (.name .here) (.name .here)))
  exact ⟨rfl, rfl, ((infer_alpha same).2 _ _ rfl rfl 9).1⟩

end Alpha

end TermBot.Typing
