import TermBot.Proofs.Typing.Inference

/-!
# The contexts that inference reaches

`Traced` runs the checker step by step and writes down every context that it reaches and, where one of
its functions is called or returns, the types that are handed over. `Tracks` says that a traced
computation does what the checker does (`Tracks.erases`), and that while numbers do not run out it
reaches the contexts which it reaches on a supply without a last number. `tracks_inferOpen` says it
of inference up to its last act, which closes the context.
-/

namespace TermBot.Typing

open Scoped

/-- A context that is reached, and types that are handed over there. -/
structure Moment where
  context : Context
  handed : List Ty := []

/-- How a traced computation ends, and what it reached on the way. -/
structure Outcome (α : Type) where
  result : Except TypeError α
  context : Context
  moments : List Moment

/-- What follows on a success; a failure is passed on. -/
def Outcome.andThen {α β : Type} (o : Outcome α) (f : α → Check β) : Except TypeError β × Context :=
  match o.result with
  | .ok a => (f a).run o.context
  | .error err => (.error err, o.context)

/-- A computation of the checker that writes down what it reaches. -/
def Traced (α : Type) : Type := Context → Outcome α

namespace Traced

variable {α β : Type}

instance : Monad Traced where
  pure a c := ⟨.ok a, c, []⟩
  bind m f c :=
    let o := m c
    match o.result with
    | .ok a =>
      let p := f a o.context
      ⟨p.result, p.context, o.moments ++ p.moments⟩
    | .error err => ⟨.error err, o.context, o.moments⟩

/-- One step of the checker, which changes the context at most once. -/
def step (m : Check α) : Traced α := fun c => ⟨(m.run c).1, (m.run c).2, [⟨(m.run c).2, []⟩]⟩

/-- Types are handed over. -/
def handing (ts : List Ty) : Traced Unit := fun c => ⟨.ok (), c, [⟨c, ts⟩]⟩

/-- A type is handed back. -/
def returning (t : Ty) : Traced Ty := do
  handing [t]
  return t

/-- Changes the context after a failure, which is passed on. -/
def onError (m : Traced α) (g : Context → Context) : Traced α := fun c =>
  let o := m c
  match o.result with
  | .ok _ => o
  | .error _ => { o with context := g o.context, moments := o.moments ++ [⟨g o.context, []⟩] }

def rename : List Nat → (taken : List String) → Ty → Traced (List Ident × Ty)
  | [], _, t => return ([], t)
  | i :: rest, taken, t => do
    let v ← step (freshVar (nextName taken))
    let (vs, t) ← rename rest (v.name :: taken) (t.substEx i (.var v))
    return (v :: vs, t)

def generalize (mark : Nat) (t : Ty) : Traced Ty := do
  match (← step get).after? mark with
  | none => return t
  | some scope =>
    let isLocal i := scope.any (·.declares .unsolved i)
    let (vs, body) ← rename (t.existentials.filter isLocal) t.names t
    return vs.foldr .all body

def articulate (i : Nat) : Traced (Nat × Nat) := do
  let cod ← step fresh
  let dom ← step fresh
  step (modify (·.replace i [.unsolved cod, .unsolved dom, .solved i (.arrow (.ex dom) (.ex cod))]))
  return (dom, cod)

def instantiateOn : Side → (depth : Nat) → Nat → Ty → Traced Unit
  | _, 0, _, _ => step (throw .tooDeep)
  | side, n + 1, i, t => do
    handing [.ex i, t]
    if ← step (solveDirectly i t) then return
    match t with
    | .arrow a b =>
      let (dom, cod) ← articulate i
      instantiateOn side.flip n dom a
      instantiateOn side n cod (← step (applied b))
    | .all v b =>
      match side with
      | .left =>
        let (w, body) ← step (openRigid v b)
        step (modify (·.push [.rigid w]))
        instantiateOn side n i body
        step (modify (·.dropFrom .rigid w.id))
      | .right =>
        let mark ← step fresh
        let (j, body) ← step (openEx v b)
        step (modify (·.push [.marker mark, .unsolved j]))
        instantiateOn side n i body
        step (modify (·.dropFrom .marker mark))
    | _ => step (throw (.cannotInstantiate i t))

def instantiate (depth : Nat) (a b : Ty) : Traced Unit := do
  let c ← step get
  match c.openEx? a b, c.openEx? b a with
  | some i, _ => instantiateOn .left depth i b
  | none, some j => instantiateOn .right depth j a
  | none, none => step (throw (.notSubtype a b))

def subtype : (depth : Nat) → Ty → Ty → Traced Unit
  | 0, _, _ => step (throw .tooDeep)
  | n + 1, a, b => do
    handing [a, b]
    match a, b with
    | .unit, .unit => return
    | .arrow a₁ a₂, .arrow b₁ b₂ =>
      subtype n b₁ a₁
      subtype n (← step (applied a₂)) (← step (applied b₂))
    | a, .all v body =>
      let (w, body) ← step (openRigid v body)
      step (modify (·.push [.rigid w]))
      subtype n a body
      step (modify (·.dropFrom .rigid w.id))
    | .all v body, b =>
      let mark ← step fresh
      let (i, body) ← step (openEx v body)
      step (modify (·.push [.marker mark, .unsolved i]))
      subtype n body b
      step (modify (·.dropFrom .marker mark))
    | .var v, .var w =>
      if v.id ≠ w.id then step (throw (.notSubtype a b))
      else if (← step get).has .rigid v.id then return
      else step (throw (.rigidOutOfScope v))
    | .ex i, .ex j =>
      if i ≠ j then instantiate n a b
      else if ((← step get).exIndex? i).isSome then return
      else step (throw (.existentialOutOfScope i))
    | a, b => instantiate n a b

mutual

def check : (depth : Nat) → Expr → Ty → Traced Unit
  | 0, _, _ => step (throw .tooDeep)
  | n + 1, e, t => do
    handing [t]
    match e, t with
    | e, .all v b =>
      let (w, body) ← step (openRigid v b)
      step (modify (·.push [.rigid w]))
      check n e body
      step (modify (·.dropFrom .rigid w.id))
    | .unit, .unit => return
    | .lam x body, .arrow dom cod =>
      step (modify (·.push [.term x dom]))
      check n body cod
      step (modify (·.dropFrom .term x.id))
    | .letIn x ann value body, t =>
      let bound ← bindingType n ann value
      step (modify (·.push [.term x bound]))
      check n body t
      step (modify (·.remove .term x.id))
    | e, t =>
      let got ← synth n e
      subtype n (← step (applied got)) (← step (applied t))

def synth : (depth : Nat) → Expr → Traced Ty
  | 0, _ => step (throw .tooDeep)
  | n + 1, e => do
    match e with
    | .var x =>
      match (← step get).typeOf? x.id with
      | some t => returning t
      | none => step (throw (.unboundTerm x))
    | .unit => returning .unit
    | .ann e t =>
      step (requireWellFormed t)
      check n e t
      returning t
    | .lam x body =>
      let mark ← step fresh
      let dom ← step fresh
      let cod ← step fresh
      step (modify (·.push [.marker mark, .unsolved dom, .unsolved cod, .term x (.ex dom)]))
      check n body (.ex cod)
      let t ← generalize mark (← step (applied (.arrow (.ex dom) (.ex cod))))
      step (modify (·.dropFrom .marker mark))
      returning t
    | .app fn arg =>
      let t ← synth n fn
      synthApp n (← step (applied t)) arg
    | .letIn x ann value body =>
      let bound ← bindingType n ann value
      step (modify (·.push [.term x bound]))
      let t ← synth n body
      step (modify (·.remove .term x.id))
      returning t

def synthApp : (depth : Nat) → Ty → Expr → Traced Ty
  | 0, _, _ => step (throw .tooDeep)
  | n + 1, t, arg => do
    handing [t]
    match t with
    | .all v b =>
      let (i, body) ← step (openEx v b)
      step (modify (·.push [.unsolved i]))
      synthApp n body arg
    | .ex i =>
      if (← step get).has .unsolved i then
        let (dom, cod) ← articulate i
        check n arg (.ex dom)
        returning (.ex cod)
      else step (throw (.notFunction t))
    | .arrow dom cod =>
      check n arg dom
      returning cod
    | _ => step (throw (.notFunction t))

def bindingType : (depth : Nat) → Option Ty → Expr → Traced Ty
  | 0, _, _ => step (throw .tooDeep)
  | n + 1, some t, value => do
    step (requireWellFormed t)
    check n value t
    returning t
  | n + 1, none, value => do
    let mark ← step fresh
    step (modify (·.push [.marker mark]))
    let t ← synth n value
    let t ← generalize mark (← step (applied t))
    step (modify (·.dropFrom .marker mark))
    returning t

end

/-- Inference after its numbers are reserved, up to the end of its generalisation. -/
def inferFrom (depth : Nat) (e : Expr) : Traced (Nat × Ty) := do
  let mark ← step fresh
  step (modify (·.push [.marker mark]))
  let t ← onError (synth depth e) (·.remove .marker mark)
  let t ← generalize mark (← step (applied t))
  return (mark, t)

/-- Inference up to its last act, which closes the context at the marker. -/
def inferOpen (depth : Nat) (e : Expr) : Traced (Nat × Ty) := do
  handing []
  step (modify (·.reserveAbove e.maxId))
  inferFrom depth e

end Traced

/-- The second context has given out no fewer numbers of the same supply. -/
def Context.Grows (c c' : Context) : Prop := c.allocated ≤ c'.allocated ∧ c'.supply.size = c.supply.size

theorem Context.Grows.refl (c : Context) : c.Grows c := ⟨Nat.le_refl _, rfl⟩

theorem Context.Grows.trans {c c' c'' : Context} (first : c.Grows c') (second : c'.Grows c'') :
    c.Grows c'' := ⟨Nat.le_trans first.1 second.1, second.2.trans first.2⟩

/-- What fits in the end fitted before. -/
theorem Context.Grows.fits {c c' : Context} (grows : c.Grows c') (fits : c'.Fits) : c.Fits :=
  fits.imp (fun h => grows.2 ▸ h) fun h => Nat.le_trans grows.1 (grows.2 ▸ h)

theorem Context.resize_resize {c : Context} {size size' : Nat} (same : c.supply.size = size') :
    (c.resize size).resize size' = c := by
  rw [← same]
  rfl

/-- The traced computation does what the checker does. While numbers do not run out, what it reaches on
a supply of any size it reaches on one without a last number. -/
structure Tracks {α : Type} (m : Check α) (m' : Traced α) : Prop where
  erases : ∀ c, m.run c = ((m' c).result, (m' c).context)
  grows : ∀ c : Context, c.Grows (m' c).context
  later : ∀ c : Context, ∀ x ∈ (m' c).moments, c.Grows x.context
  agrees : ∀ (c : Context) size, c.supply.size = 0 → (m' (c.resize size)).context.Fits →
    (m' c).result = (m' (c.resize size)).result ∧ (m' c).context = (m' (c.resize size)).context.resize 0
  moments : ∀ (c : Context) size, c.supply.size = 0 → ∀ x ∈ (m' (c.resize size)).moments, x.context.Fits →
    ⟨x.context.resize 0, x.handed⟩ ∈ (m' c).moments

section Outcomes

variable {α β : Type} {m : Traced α} {f : α → Traced β} {c : Context} {a : α} {err : TypeError}

theorem Traced.bind_of_ok (ok : (m c).result = .ok a) : (m >>= f) c =
    ⟨(f a (m c).context).result, (f a (m c).context).context,
      (m c).moments ++ (f a (m c).context).moments⟩ := by
  simp only [bind, ok]

theorem Traced.bind_of_error (failed : (m c).result = .error err) :
    (m >>= f) c = ⟨.error err, (m c).context, (m c).moments⟩ := by
  simp only [bind, failed]

end Outcomes

namespace Tracks

variable {α β : Type} {m : Check α} {m' : Traced α}

theorem pure (a : α) : Tracks (pure a) (pure a) where
  erases _ := rfl
  grows c := .refl c
  later _ _ mem := by cases mem
  agrees _ _ unlimited _ := ⟨rfl, (Context.resize_resize unlimited).symm⟩
  moments _ _ _ _ mem := by cases mem

theorem bind {f : α → Check β} {f' : α → Traced β} (first : Tracks m m') (second : ∀ a, Tracks (f a) (f' a)) :
    Tracks (m >>= f) (m' >>= f') where
  erases c := by
    cases out : (m' c).result with
    | error err =>
      rw [Traced.bind_of_error out, run_bind_of_error ((first.erases c).trans (by rw [out]))]
    | ok a =>
      rw [Traced.bind_of_ok out, run_bind_of_ok ((first.erases c).trans (by rw [out]))]
      exact (second a).erases _
  grows c := by
    cases out : (m' c).result with
    | error err =>
      rw [Traced.bind_of_error out]
      exact first.grows c
    | ok a =>
      rw [Traced.bind_of_ok out]
      exact (first.grows c).trans ((second a).grows _)
  later c x := by
    cases out : (m' c).result with
    | error err =>
      rw [Traced.bind_of_error out]
      exact first.later c x
    | ok a =>
      rw [Traced.bind_of_ok out, List.mem_append]
      rintro (mem | mem)
      · exact first.later c x mem
      · exact (first.grows c).trans ((second a).later _ x mem)
  agrees c size unlimited := by
    cases out : (m' (c.resize size)).result with
    | error err =>
      rw [Traced.bind_of_error out]
      intro fits
      obtain ⟨same, context⟩ := first.agrees c size unlimited fits
      rw [Traced.bind_of_error (same.trans out)]
      exact ⟨rfl, context⟩
    | ok a =>
      rw [Traced.bind_of_ok out]
      intro fits
      have between := ((second a).grows _).fits fits
      obtain ⟨same, context⟩ := first.agrees c size unlimited between
      rw [Traced.bind_of_ok (same.trans out), context]
      have back : ((m' (c.resize size)).context.resize 0).resize size = (m' (c.resize size)).context :=
        Context.resize_resize (first.grows _).2
      have rest := (second a).agrees _ size rfl (back.symm ▸ fits)
      rwa [back] at rest
  moments c size unlimited x := by
    cases out : (m' (c.resize size)).result with
    | error err =>
      rw [Traced.bind_of_error out]
      intro mem fits
      have here := first.moments c size unlimited x mem fits
      cases first' : (m' c).result with
      | error err =>
        rw [Traced.bind_of_error first']
        exact here
      | ok a =>
        rw [Traced.bind_of_ok first']
        exact List.mem_append_left _ here
    | ok a =>
      rw [Traced.bind_of_ok out, List.mem_append]
      rintro (mem | mem) fits
      · have here := first.moments c size unlimited x mem fits
        cases first' : (m' c).result with
        | error err =>
          rw [Traced.bind_of_error first']
          exact here
        | ok a =>
          rw [Traced.bind_of_ok first']
          exact List.mem_append_left _ here
      · -- what fits later fitted at the end of the first part
        obtain ⟨same, context⟩ := first.agrees c size unlimited (((second a).later _ x mem).fits fits)
        rw [Traced.bind_of_ok (same.trans out), context]
        have back : ((m' (c.resize size)).context.resize 0).resize size = (m' (c.resize size)).context :=
          Context.resize_resize (first.grows _).2
        exact List.mem_append_right _ ((second a).moments _ size rfl x (back.symm ▸ mem) fits)

/-- What follows a computation of the checker follows its trace. -/
theorem run_bind {f : α → Check β} (tracks : Tracks m m') {c : Context} :
    (m >>= f).run c = (m' c).andThen f := by
  have run := tracks.erases c
  rw [Outcome.andThen]
  cases out : (m' c).result with
  | ok a => exact run_bind_of_ok (run.trans (by rw [out]))
  | error err => exact run_bind_of_error (run.trans (by rw [out]))

/-- Types that are handed over change nothing. -/
theorem handing (ts : List Ty) (rest : Tracks m m') :
    Tracks m (do Traced.handing ts; m') := by
  have silent : Tracks (Pure.pure () : Check Unit) (Traced.handing ts) := by
    refine ⟨fun _ => rfl, fun c => .refl c, fun c x mem => ?_, fun c size unlimited _ => ?_,
      fun c size unlimited x mem _ => ?_⟩
    · cases List.mem_singleton.1 mem
      exact .refl c
    · exact ⟨rfl, (Context.resize_resize unlimited).symm⟩
    · cases List.mem_singleton.1 mem
      simp only [Context.resize_resize unlimited]
      exact List.mem_singleton_self _
  exact silent.bind fun _ => rest

theorem returning (t : Ty) : Tracks (Pure.pure t) (Traced.returning t) := .handing _ (.pure t)

/-- A step that the checker takes in the same way on every supply. -/
theorem step (grows : ∀ c : Context, c.Grows (m.run c).2)
    (agrees : ∀ (c : Context) size, c.supply.size = 0 → (m.run (c.resize size)).2.Fits →
      (m.run c).1 = (m.run (c.resize size)).1 ∧ (m.run c).2 = (m.run (c.resize size)).2.resize 0) :
    Tracks m (Traced.step m) where
  erases _ := rfl
  grows := grows
  later c x mem := by
    cases List.mem_singleton.1 mem
    exact grows c
  agrees := agrees
  moments c size unlimited x mem fits := by
    cases List.mem_singleton.1 mem
    rw [Traced.step, (agrees c size unlimited fits).2]
    exact List.mem_singleton_self _

theorem of_local (here : Local m) : Tracks m (Traced.step m) := by
  refine .step (fun c => ?_) fun c size unlimited _ => ?_
  · simp only [Context.Grows, Context.allocated, here.supply]
    exact ⟨Nat.le_refl _, trivial⟩
  · have same : m.run (c.resize size) = ((m.run c).1, (m.run c).2.resize size) := by
      rw [Context.resize, here c, Context.resize, here.supply]
    rw [same]
    refine ⟨rfl, (Context.resize_resize ?_).symm⟩
    rw [here.supply, unlimited]

/-- A step that looks at the entries only. -/
theorem read {f : Context → Check β} {f' : Context → Traced β} (second : ∀ c, Tracks (f c) (f' c))
    (entries : ∀ (c : Context) size, f' (c.resize size) = f' c) :
    Tracks (get >>= f) (Traced.step get >>= f') where
  erases c := (second c).erases c
  grows c := (second c).grows c
  later c x mem := by
    rcases List.mem_append.1 mem with mem | mem
    · cases List.mem_singleton.1 mem
      exact .refl c
    · exact (second c).later c x mem
  agrees c size unlimited fits := by
    have same : (Traced.step get >>= f') (c.resize size) = ⟨(f' c (c.resize size)).result,
        (f' c (c.resize size)).context, ⟨c.resize size, []⟩ :: (f' c (c.resize size)).moments⟩ := by
      rw [← entries c size]
      rfl
    rw [same] at fits ⊢
    exact (second c).agrees c size unlimited fits
  moments c size unlimited x mem fits := by
    rcases List.mem_append.1 mem with mem | mem
    · cases List.mem_singleton.1 mem
      refine List.mem_append_left _ (List.mem_singleton.2 ?_)
      simp only [run_get, Context.resize_resize unlimited]
    · change x ∈ (f' (c.resize size) (c.resize size)).moments at mem
      rw [entries] at mem
      exact List.mem_append_right _ ((second c).moments c size unlimited x mem fits)

theorem ite {p : Prop} [Decidable p] {k : Check α} {k' : Traced α} (yes : Tracks m m') (no : Tracks k k') :
    Tracks (if p then m else k) (if p then m' else k') := by
  split
  · exact yes
  · exact no

theorem throw (err : TypeError) : Tracks (throw err : Check α) (Traced.step (throw err)) := .of_local local_throw

theorem push (es : List Entry) : Tracks (modify (·.push es)) (Traced.step (modify (·.push es))) :=
  .of_local (local_push es)

theorem dropFrom (k : EntryKind) (i : Nat) :
    Tracks (modify (·.dropFrom k i)) (Traced.step (modify (·.dropFrom k i))) := .of_local local_dropFrom

theorem remove (k : EntryKind) (i : Nat) :
    Tracks (modify (·.remove k i)) (Traced.step (modify (·.remove k i))) := .of_local local_remove

theorem applied (t : Ty) : Tracks (applied t) (Traced.step (applied t)) := .of_local local_applied

/-- A step that takes a number. -/
theorem numbered (f : Nat → α) : Tracks (do return f (← fresh)) (Traced.step (do return f (← fresh))) := by
  refine .step (fun c => ⟨Nat.le_succ _, rfl⟩) fun c size unlimited fits => ?_
  have next : (c.resize size).next = c.next := by
    have left : c.supply.used % c.supply.size = c.supply.used := by rw [unlimited, Nat.mod_zero]
    have right : c.supply.used % size = c.supply.used := by
      rcases fits with zero | le
      · rw [show size = 0 from zero, Nat.mod_zero]
      · exact Nat.mod_eq_of_lt le
    exact right.trans left.symm
  refine ⟨congrArg (fun i => Except.ok (f i)) next.symm, ?_⟩
  rw [← @Context.resize_resize c size 0 unlimited]
  rfl

theorem fresh : Tracks fresh (Traced.step fresh) := numbered id

theorem freshVar (name : String) : Tracks (freshVar name) (Traced.step (freshVar name)) := numbered _

theorem openRigid (v : Ident) (b : Ty) : Tracks (openRigid v b) (Traced.step (openRigid v b)) :=
  numbered fun i => ((⟨v.name, i⟩ : Ident), b.substVar v.id (.var ⟨v.name, i⟩))

theorem openEx (v : Ident) (b : Ty) : Tracks (openEx v b) (Traced.step (openEx v b)) :=
  numbered fun i => (i, b.substVar v.id (.ex i))

/-- A change of the context after a failure, which looks at the entries only. -/
theorem onError {g : Context → Context} (first : Tracks m m') (change : Local (modify g : Check PUnit)) :
    Tracks (tryCatch m fun err => do modify g; MonadExcept.throw err) (Traced.onError m' g) := by
  have supply : ∀ c, (g c).supply = c.supply := fun c => change.supply (c := c)
  have resizes : ∀ (c : Context) size, g (c.resize size) = (g c).resize size := by
    intro c size
    rw [Context.resize, Context.resize, supply]
    exact congrArg Prod.snd (change c _)
  have kept : ∀ c : Context, c.Grows (g c) := fun c =>
    ⟨Nat.le_of_eq (congrArg Supply.used (supply c).symm), congrArg Supply.size (supply c)⟩
  have of_ok {c : Context} {a : α} (out : (m' c).result = .ok a) : Traced.onError m' g c = m' c := by
    simp only [Traced.onError, out]
  have of_error {c : Context} {err : TypeError} (out : (m' c).result = .error err) :
      Traced.onError m' g c = ⟨.error err, g (m' c).context, (m' c).moments ++ [⟨g (m' c).context, []⟩]⟩ := by
    simp only [Traced.onError, out]
  have grows : ∀ c : Context, c.Grows (Traced.onError m' g c).context := by
    intro c
    cases out : (m' c).result with
    | ok a =>
      rw [of_ok out]
      exact first.grows c
    | error err =>
      rw [of_error out]
      exact (first.grows c).trans (kept _)
  refine ⟨fun c => ?_, grows, fun c x => ?_, fun c size unlimited => ?_, fun c size unlimited x => ?_⟩
  · cases out : (m' c).result with
    | ok a =>
      rw [of_ok out, run_tryCatch_of_ok ((first.erases c).trans (by rw [out])), out]
    | error err =>
      rw [of_error out, run_tryCatch_of_error ((first.erases c).trans (by rw [out])),
        run_bind_of_ok run_modify, run_throw]
  · cases out : (m' c).result with
    | ok a =>
      rw [of_ok out]
      exact first.later c x
    | error err =>
      rw [of_error out, List.mem_append]
      rintro (mem | mem)
      · exact first.later c x mem
      · cases List.mem_singleton.1 mem
        exact (first.grows c).trans (kept _)
  · cases out : (m' (c.resize size)).result with
    | ok a =>
      rw [of_ok out]
      intro fits
      obtain ⟨same, context⟩ := first.agrees c size unlimited fits
      rw [of_ok (same.trans out)]
      exact ⟨same, context⟩
    | error err =>
      rw [of_error out]
      intro fits
      obtain ⟨same, context⟩ := first.agrees c size unlimited ((kept _).fits fits)
      rw [of_error (same.trans out), context]
      exact ⟨rfl, resizes _ 0⟩
  · cases out : (m' (c.resize size)).result with
    | ok a =>
      rw [of_ok out]
      intro mem fits
      have here := first.moments c size unlimited x mem fits
      cases first' : (m' c).result with
      | ok a => rwa [of_ok first']
      | error err =>
        rw [of_error first']
        exact List.mem_append_left _ here
    | error err =>
      rw [of_error out, List.mem_append]
      rintro (mem | mem) fits
      · have here := first.moments c size unlimited x mem fits
        cases first' : (m' c).result with
        | ok a => rwa [of_ok first']
        | error err =>
          rw [of_error first']
          exact List.mem_append_left _ here
      · cases List.mem_singleton.1 mem
        obtain ⟨same, context⟩ := first.agrees c size unlimited ((kept _).fits fits)
        rw [of_error (same.trans out), context]
        rw [resizes]
        exact List.mem_append_right _ (List.mem_singleton_self _)

end Tracks

section Checker

theorem tracks_rename (ids : List Nat) (taken : List String) (t : Ty) :
    Tracks (rename ids taken t) (Traced.rename ids taken t) := by
  induction ids generalizing taken t with
  | nil => exact .pure _
  | cons i rest ih => exact .bind (.freshVar _) fun _ => .bind (ih _ _) fun _ => .pure _

theorem tracks_generalize (mark : Nat) (t : Ty) :
    Tracks (generalize mark t) (Traced.generalize mark t) := by
  refine .read (fun c => ?_) fun _ _ => rfl
  cases c.after? mark with
  | none => exact .pure _
  | some scope => exact .bind (tracks_rename _ _ _) fun _ => .pure _

theorem tracks_articulate (i : Nat) : Tracks (articulate i) (Traced.articulate i) :=
  .bind .fresh fun _ => .bind .fresh fun _ => .bind (.of_local (local_replace _)) fun _ => .pure _

theorem tracks_instantiateOn (side : Side) (n i : Nat) (t : Ty) :
    Tracks (instantiateOn side n i t) (Traced.instantiateOn side n i t) := by
  induction n generalizing side i t with
  | zero => cases side <;> exact .throw _
  | succ n ih =>
    rw [instantiateOn_succ]
    refine .handing _ (.bind (.of_local local_solveDirectly) fun _ => .ite (.pure _) ?_)
    cases t with
    | arrow a b =>
      exact .bind (tracks_articulate _) fun _ => .bind (ih _ _ _) fun _ => .bind (.applied _) fun _ =>
        ih _ _ _
    | all v b =>
      cases side with
      | left =>
        exact .bind (.openRigid _ _) fun _ => .bind (.push _) fun _ => .bind (ih _ _ _) fun _ =>
          .dropFrom _ _
      | right =>
        exact .bind .fresh fun _ => .bind (.openEx _ _) fun _ => .bind (.push _) fun _ =>
          .bind (ih _ _ _) fun _ => .dropFrom _ _
    | _ => exact .throw _

theorem tracks_instantiate (n : Nat) (a b : Ty) :
    Tracks (instantiate n a b) (Traced.instantiate n a b) := by
  refine .read (fun c => ?_) fun c size => ?_
  · cases c.openEx? a b with
    | some i => exact tracks_instantiateOn .left n i b
    | none =>
      cases c.openEx? b a with
      | some j => exact tracks_instantiateOn .right n j a
      | none => exact .throw _
  · have same : (c.resize size).openEx? = c.openEx? := by
      funext a b
      cases a <;> rfl
    rw [same]

theorem tracks_subtype (n : Nat) (a b : Ty) : Tracks (subtype n a b) (Traced.subtype n a b) := by
  induction n generalizing a b with
  | zero => exact .throw _
  | succ n ih =>
    unfold subtype Traced.subtype
    refine .handing _ ?_
    -- the cases are the same on both sides, of which `split` takes one
    split <;> try simp only
    · exact .pure _
    · exact .bind (ih _ _) fun _ => .bind (.applied _) fun _ => .bind (.applied _) fun _ => ih _ _
    · exact .bind (.openRigid _ _) fun _ => .bind (.push _) fun _ => .bind (ih _ _) fun _ => .dropFrom _ _
    · exact .bind .fresh fun _ => .bind (.openEx _ _) fun _ => .bind (.push _) fun _ =>
          .bind (ih _ _) fun _ => .dropFrom _ _
    · exact .ite (.throw _) (.read (fun _ => .ite (.pure _) (.throw _)) fun _ _ => rfl)
    · exact .ite (tracks_instantiate _ _ _)
        (.read (fun _ => .ite (.pure _) (.throw _)) fun _ _ => rfl)
    · exact tracks_instantiate _ _ _

theorem tracks_infers (n : Nat) :
    (∀ e t, Tracks (check n e t) (Traced.check n e t)) ∧ (∀ e, Tracks (synth n e) (Traced.synth n e)) ∧
      (∀ t e, Tracks (synthApp n t e) (Traced.synthApp n t e)) ∧
      ∀ ann e, Tracks (bindingType n ann e) (Traced.bindingType n ann e) := by
  induction n with
  | zero => exact ⟨fun _ _ => .throw _, fun _ => .throw _, fun _ _ => .throw _, fun _ _ => .throw _⟩
  | succ n ih =>
    obtain ⟨checks, synths, applies, binds⟩ := ih
    refine ⟨fun e t => ?_, fun e => ?_, fun t e => ?_, fun ann e => ?_⟩
    · unfold check Traced.check
      refine .handing _ ?_
      split <;> try simp only
      · exact .bind (.openRigid _ _) fun _ => .bind (.push _) fun _ => .bind (checks _ _) fun _ =>
          .dropFrom _ _
      · exact .pure _
      · exact .bind (.push _) fun _ => .bind (checks _ _) fun _ => .dropFrom _ _
      · exact .bind (binds _ _) fun _ => .bind (.push _) fun _ => .bind (checks _ _) fun _ => .remove _ _
      · exact .bind (synths _) fun _ => .bind (.applied _) fun _ => .bind (.applied _) fun _ =>
          tracks_subtype _ _ _
    · unfold synth Traced.synth
      cases e with
      | var x =>
        refine .read (fun c => ?_) fun _ _ => rfl
        cases c.typeOf? x.id with
        | none => exact .throw _
        | some t => exact .returning _
      | unit => exact .returning _
      | ann e t =>
        exact .bind (.of_local local_requireWellFormed) fun _ => .bind (checks _ _) fun _ => .returning _
      | lam x body =>
        exact .bind .fresh fun _ => .bind .fresh fun _ => .bind .fresh fun _ => .bind (.push _) fun _ =>
          .bind (checks _ _) fun _ => .bind (.applied _) fun _ => .bind (tracks_generalize _ _) fun _ =>
          .bind (.dropFrom _ _) fun _ => .returning _
      | app fn arg => exact .bind (synths _) fun _ => .bind (.applied _) fun _ => applies _ _
      | letIn x ann value body =>
        exact .bind (binds _ _) fun _ => .bind (.push _) fun _ => .bind (synths _) fun _ =>
          .bind (.remove _ _) fun _ => .returning _
    · unfold synthApp Traced.synthApp
      refine .handing _ ?_
      cases t with
      | all v b => exact .bind (.openEx _ _) fun _ => .bind (.push _) fun _ => applies _ _
      | ex i =>
        exact .read (fun _ => .ite (.bind (tracks_articulate _) fun _ => .bind (checks _ _) fun _ =>
          .returning _) (.throw _)) fun _ _ => rfl
      | arrow dom cod => exact .bind (checks _ _) fun _ => .returning _
      | _ => exact .throw _
    · unfold bindingType Traced.bindingType
      cases ann with
      | some t =>
        exact .bind (.of_local local_requireWellFormed) fun _ => .bind (checks _ _) fun _ => .returning _
      | none =>
        exact .bind .fresh fun _ => .bind (.push _) fun _ => .bind (synths _) fun _ =>
          .bind (.applied _) fun _ => .bind (tracks_generalize _ _) fun _ =>
          .bind (.dropFrom _ _) fun _ => .returning _

/-- What `inferFrom` traces. -/
def inferFrom (depth : Nat) (e : Expr) : Check (Nat × Ty) := do
  let mark ← fresh
  modify (·.push [.marker mark])
  let t ← tryCatch (synth depth e) fun err => do
    modify (·.remove .marker mark)
    throw err
  let t ← generalize mark (← applied t)
  return (mark, t)

theorem tracks_inferFrom (n : Nat) (e : Expr) : Tracks (inferFrom n e) (Traced.inferFrom n e) :=
  .bind .fresh fun _ => .bind (.push _) fun _ =>
    .bind (.onError ((tracks_infers n).2.1 e) local_remove) fun _ => .bind (.applied _) fun _ =>
    .bind (tracks_generalize _ _) fun _ => .pure _

/-- Inference is what is traced and, where that succeeds, the closing of the context. -/
theorem run_infer_eq_andThen (n : Nat) (e : Expr) (c : Context) :
    (infer n e).run c = (Traced.inferOpen n e c).andThen fun (mark, t) => do
      close mark
      return t := by
  have parts : (do inferAt n e (← fresh) : Check Ty) = (do
      let (mark, t) ← inferFrom n e
      close mark
      return t) := by
    simp only [inferAt, inferFrom, bind_assoc, pure_bind]
  rw [run_infer, parts, (tracks_inferFrom n e).run_bind, Traced.inferOpen]
  generalize Traced.inferFrom n e = m
  rfl

end Checker

end TermBot.Typing
