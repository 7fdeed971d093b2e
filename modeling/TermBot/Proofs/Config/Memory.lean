import TermBot.Config.Layers

/-!
# Configurations that stand

What an action on the configurations in memory leaves alone. A new configuration is kept at an address that was
not given out, so every other one is what it was (`Keeps`); a write changes one address (`Writes`). The settings of
the environment are written one after another over the configuration at one address, and what stands there then is
what the same settings make of a value: `acts_override`.
-/

namespace TermBot.Config

namespace Memory

variable {m m' m'' : Memory} {p q : Address} {b c : Config}

/-- Every configuration of the first memory is unchanged in the second one. -/
def Keeps (m m' : Memory) : Prop := ∀ p c, m.at? p = some c → m'.at? p = some c

/-- The memories differ at one address at most, and there the second one has this configuration. -/
structure Writes (p : Address) (c : Config) (m m' : Memory) : Prop where
  here : m'.at? p = some c
  others : ∀ q, q ≠ p → m'.at? q = m.at? q

theorem Keeps.refl (m : Memory) : m.Keeps m := fun _ _ found => found

theorem Keeps.trans (first : m.Keeps m') (second : m'.Keeps m'') : m.Keeps m'' :=
  fun p c found => second p c (first p c found)

theorem Keeps.fresh (keeps : m.Keeps m') (fresh : m'.at? p = none) : m.at? p = none := by
  cases found : m.at? p with
  | none => rfl
  | some c => cases fresh.symm.trans (keeps p c found)

theorem Writes.refl (here : m.at? p = some c) : Writes p c m m := ⟨here, fun _ _ => rfl⟩

theorem Writes.trans (first : Writes p b m m') (second : Writes p c m' m'') : Writes p c m m'' :=
  ⟨second.here, fun q other => (second.others q other).trans (first.others q other)⟩

/-- A write to an address that was not given out before changes nothing that was there. -/
theorem Keeps.writes (keeps : m.Keeps m') (fresh : m.at? p = none) (writes : Writes p c m' m'') : m.Keeps m'' := by
  intro q b found
  have other : q ≠ p := by
    rintro rfl
    cases fresh.symm.trans found
  exact (writes.others q other).trans (keeps q b found)

theorem run_keep (c : Config) (m : Memory) :
    ∃ p m', (keep c).run m = (p, m') ∧ m.at? p = none ∧ m.Keeps m' ∧ m'.at? p = some c := by
  refine ⟨m.cells.size, _, rfl, Array.getElem?_eq_none (Nat.le_refl _), fun p b found => ?_,
    Array.getElem?_push_size⟩
  obtain ⟨lt, rfl⟩ := Array.getElem?_eq_some_iff.1 found
  exact Array.getElem?_push_lt lt

theorem run_read (here : m.at? p = some c) : (read p).run m = (c, m) :=
  congrArg (fun found : Option Config => (found.getD {}, m)) here

theorem writes_write (here : m.at? p = some b) (c : Config) : Writes p c m ((write p c).run m).2 := by
  obtain ⟨lt, -⟩ := Array.getElem?_eq_some_iff.1 here
  have found (q : Address) : ((write p c).run m).2.at? q = _ := Array.getElem?_setIfInBounds
  exact ⟨by rw [found, if_pos rfl, if_pos lt], fun q other => (found q).trans (if_neg (Ne.symm other))⟩

end Memory

open Memory (Writes read run_read writes_write)

variable {m m' : Memory} {p : Address} {c : Config} {ε α β : Type}

/-! ### Actions that may fail -/

section

variable {x : Loading ε α} {f : α → Loading ε β}

theorem run_bind (x : Loading ε α) (f : α → Loading ε β) (m : Memory) :
    (x >>= f).run.run m = (ExceptT.bindCont f (x.run.run m).1).run (x.run.run m).2 := rfl

theorem run_bind_of_ok {a : α} (ran : x.run.run m = (.ok a, m')) : (x >>= f).run.run m = (f a).run.run m' := by
  rw [run_bind, ran]
  rfl

theorem run_bind_of_error {e : ε} (ran : x.run.run m = (.error e, m')) :
    (x >>= f).run.run m = (.error e, m') := by
  rw [run_bind, ran]
  rfl

theorem run_liftM {y : StateM Memory α} {a : α} (ran : y.run m = (a, m')) :
    (liftM y : Loading ε α).run.run m = (.ok a, m') :=
  congrArg (fun ran : α × Memory => (Except.ok ran.1, ran.2)) ran

theorem run_adapt {ε' : Type} {r : Except ε α} (f : ε → ε') (ran : x.run.run m = (r, m')) :
    (x.adapt f).run.run m = (r.mapError f, m') :=
  congrArg (fun ran : Except ε α × Memory => (ran.1.mapError f, ran.2)) ran

end

/-! ### Actions on one configuration -/

/-- The action replaces the configuration at an address by the given one, or fails with the given error and has
written nowhere else. -/
def Acts (p : Address) (act : Loading ε Unit) (m : Memory) : Except ε Config → Prop
  | .ok c => ∃ m', Writes p c m m' ∧ act.run.run m = (.ok (), m')
  | .error e => ∃ c m', Writes p c m m' ∧ act.run.run m = (.error e, m')

theorem Acts.andThen {act next : Loading ε Unit} {made : Except ε Config} {f : Config → Except ε Config}
    (acts : Acts p act m made) (after : ∀ c m', m'.at? p = some c → Acts p next m' (f c)) :
    Acts p (act >>= fun _ => next) m (made >>= f) := by
  cases made with
  | error e =>
    obtain ⟨c, m', writes, ran⟩ := acts
    exact ⟨c, m', writes, run_bind_of_error ran⟩
  | ok c =>
    obtain ⟨m', writes, ran⟩ := acts
    have rest := after c m' writes.here
    change Acts p _ m (f c)
    cases last : f c with
    | error e =>
      rw [last] at rest
      obtain ⟨d, m'', more, ran'⟩ := rest
      exact ⟨d, m'', writes.trans more, (run_bind_of_ok ran).trans ran'⟩
    | ok d =>
      rw [last] at rest
      obtain ⟨m'', more, ran'⟩ := rest
      exact ⟨m'', writes.trans more, (run_bind_of_ok ran).trans ran'⟩

variable {env : Environment} {scope : String}

/-- A configuration after a setting was looked up for it. -/
def Setting.lookUp (env : Environment) (scope : String) (c : Config) (s : Setting) : Except EnvFault Config :=
  match env.value? (scope ++ "_" ++ s.name) with
  | none => .ok c
  | some text => s.take (scope ++ "_" ++ s.name) text c

/-- A configuration after settings were looked up for it. -/
def settled (env : Environment) (scope : String) (c : Config) (ss : List Setting) : Except EnvFault Config :=
  ss.foldlM (Setting.lookUp env scope) c

/-- A setting is looked up for the configuration in memory as for the configuration itself. -/
theorem acts_takeOver (here : m.at? p = some c) (s : Setting) :
    Acts p (takeOver env scope p s) m (s.lookUp env scope c) := by
  rw [takeOver, Setting.lookUp]
  cases env.value? (scope ++ "_" ++ s.name) with
  | none => exact ⟨m, .refl here, rfl⟩
  | some text =>
    have found : (liftM (read p) : Loading EnvFault Config).run.run m = (.ok c, m) := run_liftM (run_read here)
    dsimp only
    cases taken : s.take (scope ++ "_" ++ s.name) text c with
    | error f => exact ⟨c, m, .refl here, (run_bind_of_ok found).trans (by rw [taken]; rfl)⟩
    | ok c' => exact ⟨_, writes_write here c', (run_bind_of_ok found).trans (by rw [taken]; rfl)⟩

theorem acts_settings (here : m.at? p = some c) (ss : List Setting) :
    Acts p (forM ss (takeOver env scope p)) m (settled env scope c ss) := by
  induction ss generalizing m c with
  | nil => exact ⟨m, .refl here, rfl⟩
  | cons s ss ih =>
    rw [List.forM_cons, settled, List.foldlM_cons]
    exact (acts_takeOver here s).andThen fun c' m' here' => ih here'

theorem acts_override (here : m.at? p = some c) (env : Environment) (scope : String) :
    Acts p (override env scope p) m (settled env scope c settings) := acts_settings here settings

end TermBot.Config
