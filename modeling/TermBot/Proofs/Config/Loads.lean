import TermBot.Config.Load
import TermBot.Proofs.Config.Layering

/-!
# Loads

A load works on a copy of the defaults, and a configuration that it hands out stands at an address of its own
(`Made`). So any number of loads leave the defaults and every configuration handed out before as they were
(`keeps_after`), and each load answers as the first one would: `finish_layered` says what that answer is.
-/

namespace TermBot.Config

open Memory (Keeps Writes read run_keep run_read)

/-- The defaults of a loader are this configuration. -/
def Memory.Defaults (m : Memory) (defaults : Option Address) (base : Config) : Prop :=
  match defaults with
  | none => base = standard
  | some p => m.at? p = some base

/-- What becomes of a configuration at an address when the environment has been looked up. -/
def judged (p : Address) : Except EnvFault Config → Except LayerError Address
  | .error f => .error (.environment f)
  | .ok c =>
    match c.fault? with
    | some f => .error (.invalid f)
    | none => .ok p

/-- The outcome of a load that is to hand out this configuration: it stands at an address of its own, and all other
configurations are as they were. -/
structure Made (m : Memory) (made : Except EnvFault Config) (out : Except LayerError Address × Memory) (p : Address) :
    Prop where
  judged : out.1 = judged p made
  fresh : m.at? p = none
  keeps : m.Keeps out.2
  here : ∀ c, made = .ok c → out.2.at? p = some c

variable {m m' : Memory} {p : Address} {base c : Config} {env : Environment} {scope : String}
  {defaults : Option Address} {file : Draft}

theorem Memory.Defaults.keep (stand : m.Defaults defaults base) (keeps : m.Keeps m') : m'.Defaults defaults base := by
  cases defaults with
  | none => exact stand
  | some p => exact keeps p base stand

theorem run_copyDefaults (stand : m.Defaults defaults base) :
    (copyDefaults defaults).run m = (Memory.keep base).run m := by
  cases defaults with
  | none =>
    obtain rfl : base = standard := stand
    rfl
  | some p => exact congrArg (fun found : Option Config => (Memory.keep (found.getD {})).run m) stand

theorem run_complete (here : m.at? p = some c) (env : Environment) (scope : String) :
    ∃ d m', Writes p d m m' ∧ (∀ b, settled env scope c settings = .ok b → d = b) ∧
      (complete env scope p).run.run m = (judged p (settled env scope c settings), m') := by
  have acts := acts_override here env scope
  rw [complete]
  cases result : settled env scope c settings with
  | error f =>
    rw [result] at acts
    obtain ⟨d, m', writes, ran⟩ := acts
    exact ⟨d, m', writes, nofun, run_bind_of_error (run_adapt _ ran)⟩
  | ok d =>
    rw [result] at acts
    obtain ⟨m', writes, ran⟩ := acts
    have found : (liftM (read p) : Loading LayerError Config).run.run m' = (.ok d, m') :=
      run_liftM (run_read writes.here)
    refine ⟨d, m', writes, by rintro _ ⟨⟩; rfl, (run_bind_of_ok (run_adapt _ ran)).trans ?_⟩
    rw [run_bind_of_ok found, judged]
    cases d.fault? <;> rfl

theorem made_complete (env : Environment) (scope : String) (m : Memory) (c : Config) :
    ∃ p, Made m (settled env scope c settings)
      ((do complete env scope (← Memory.keep c) : Loading LayerError Address).run.run m) p := by
  obtain ⟨p, m', ran, fresh, keeps, here⟩ := run_keep c m
  obtain ⟨d, m'', writes, same, completed⟩ := run_complete here env scope
  rw [run_bind_of_ok (run_liftM ran), completed]
  exact ⟨p, rfl, fresh, keeps.writes fresh writes, fun b result => same b result ▸ writes.here⟩

theorem made_bare (stand : m.Defaults defaults base) (env : Environment) (scope : String) :
    ∃ p, Made m (settled env scope base settings) ((bare defaults env scope).run.run m) p := by
  obtain ⟨p, made⟩ := made_complete env scope m base
  refine ⟨p, ?_⟩
  have ran := run_copyDefaults stand
  rw [bare, run_bind_of_ok (run_liftM ran)]
  exact made

theorem made_finish (stand : m.Defaults defaults base) (file : Draft) (env : Environment) (scope : String) :
    ∃ p, Made m (settled env scope (overlay base file) settings)
      ((finish defaults (some file) env scope).run.run m) p := by
  -- Two addresses are taken: one for the copy of the defaults, and another one for what is made of it.
  obtain ⟨q, m', kept, fresh, keeps, here⟩ := run_keep base m
  obtain ⟨p, made⟩ := made_complete env scope m' (overlay base file)
  have copied := (run_copyDefaults stand).trans kept
  refine ⟨p, ?_⟩
  rw [finish, run_bind_of_ok (run_liftM copied), run_bind_of_ok (run_liftM (run_read here))]
  exact ⟨made.judged, keeps.fresh made.fresh, keeps.trans made.keeps, made.here⟩

/-! ### One load after another -/

/-- A load of a loader: without a file, or with one that has been decoded. -/
inductive Load where
  | bare (env : Environment) (scope : String)
  | file (draft : Option Draft) (env : Environment) (scope : String)

/-- What a load does. -/
def Load.run (defaults : Option Address) : Load → Loading LayerError Address
  | .bare env scope => Config.bare defaults env scope
  | .file draft env scope => finish defaults draft env scope

/-- The memory after loads. -/
def Memory.after (m : Memory) (defaults : Option Address) (loads : List Load) : Memory :=
  loads.foldl (fun m load => ((load.run defaults).run.run m).2) m

theorem keeps_load (stand : m.Defaults defaults base) (load : Load) :
    m.Keeps ((load.run defaults).run.run m).2 := by
  cases load with
  | bare env scope =>
    obtain ⟨p, made⟩ := made_bare stand env scope
    exact made.keeps
  | file draft env scope =>
    cases draft with
    | none => exact Keeps.refl m
    | some file =>
      obtain ⟨p, made⟩ := made_finish stand file env scope
      exact made.keeps

theorem keeps_after (stand : m.Defaults defaults base) (loads : List Load) : m.Keeps (m.after defaults loads) := by
  induction loads generalizing m with
  | nil => exact Keeps.refl m
  | cons load loads ih =>
    -- The defaults are among the configurations that a load keeps, so they stand for the next one.
    have keeps := keeps_load stand load
    exact keeps.trans (ih (stand.keep keeps))

theorem defaults_withDefaults (l : Loader) (base : Option Config) :
    (l.withDefaults base).memory.Defaults (l.withDefaults base).defaults (base.getD standard) := by
  cases base with
  | none => rfl
  | some c =>
    obtain ⟨p, m, ran, -, -, here⟩ := run_keep c l.memory
    rw [Loader.withDefaults, ran]
    exact here

theorem defaults_after (l : Loader) (base : Option Config) (loads : List Load) :
    ((l.withDefaults base).memory.after (l.withDefaults base).defaults loads).Defaults
      (l.withDefaults base).defaults (base.getD standard) :=
  (defaults_withDefaults l base).keep (keeps_after (defaults_withDefaults l base) loads)

/-! ### What a load with a file answers -/

theorem settled_overlay {file : Draft} :
    settled env scope (overlay base file) settings = .ok c ↔ Layered base file env scope c :=
  settled_settings.trans overridden_overlay

theorem settled_eq_error : (∃ f, settled env scope c settings = .error f) ↔
    Unread (env.setting? scope "DISCORD_APPID") Text.WordNumeral ∨
      Unread (env.setting? scope "RENDER_WIDTH") Text.IntNumeral := by
  have done := exists_overridden env scope c
  simp only [← settled_settings] at done
  rw [← Classical.not_not (a := _ ∨ _), ← done]
  cases settled env scope c settings with
  | error f => exact iff_of_true ⟨f, rfl⟩ fun ⟨_, result⟩ => nomatch result
  | ok d => exact iff_of_false (fun ⟨_, failed⟩ => nomatch failed) fun failed => failed ⟨d, rfl⟩

section

variable {made : Except EnvFault Config} {out : Except LayerError Address × Memory}

theorem Made.ok (outcome : Made m made out p) {q : Address} (done : out.1 = .ok q) :
    ∃ c, made = .ok c ∧ out.2.at? q = some c ∧ c.fault? = none ∧ m.at? q = none := by
  have judged := outcome.judged.symm.trans done
  cases made with
  | error f => cases judged
  | ok c =>
    simp only [Config.judged] at judged
    cases fault : c.fault? with
    | some f => rw [fault] at judged; cases judged
    | none =>
      rw [fault] at judged
      cases judged
      exact ⟨c, rfl, outcome.here c rfl, fault, outcome.fresh⟩

theorem Made.not_unreadable (outcome : Made m made out p) : out.1 ≠ .error .unreadable := by
  rw [outcome.judged]
  cases made with
  | error f => nofun
  | ok c =>
    rw [Config.judged]
    cases c.fault? <;> nofun

theorem Made.environment (outcome : Made m made out p) :
    (∃ f, out.1 = .error (.environment f)) ↔ ∃ f, made = .error f := by
  rw [outcome.judged]
  cases made with
  | error f => exact iff_of_true ⟨f, rfl⟩ ⟨f, rfl⟩
  | ok c =>
    rw [Config.judged]
    cases c.fault? <;> exact iff_of_false (fun ⟨_, done⟩ => nomatch done) (fun ⟨_, done⟩ => nomatch done)

theorem Made.invalid (outcome : Made m made out p) {f : ConfigFault} :
    out.1 = .error (.invalid f) ↔ ∃ c, made = .ok c ∧ c.fault? = some f := by
  rw [outcome.judged]
  cases made with
  | error g => exact iff_of_false nofun (fun ⟨_, done, _⟩ => nomatch done)
  | ok c =>
    simp only [Config.judged]
    cases fault : c.fault? with
    | none => exact iff_of_false nofun (by rintro ⟨_, ⟨⟩, found⟩; cases fault.symm.trans found)
    | some g =>
      constructor
      · rintro ⟨⟩
        exact ⟨c, rfl, fault⟩
      · rintro ⟨_, ⟨⟩, found⟩
        cases fault.symm.trans found
        rfl

end

/-- Whatever was loaded before: what a load hands out is what the layers come to, without fault and at a new
address. There is no configuration exactly when the file does not decode, when the variable of a number that is set
to something holds no number in range, or when what the layers come to has a fault. In every case all configurations
that were there are unchanged, and the defaults with them. -/
theorem finish_layered (loader : Loader) (base : Option Config) (before : List Load) (draft : Option Draft)
    (env : Environment) (scope : String) :
    let l := loader.withDefaults base
    let m := l.memory.after l.defaults before
    let out := (finish l.defaults draft env scope).run.run m
    (∀ p, out.1 = .ok p → ∃ file c, draft = some file ∧ out.2.at? p = some c ∧
      Layered (base.getD standard) file env scope c ∧ c.fault? = none ∧ m.at? p = none) ∧
    (out.1 = .error .unreadable ↔ draft = none) ∧
    ((∃ f, out.1 = .error (.environment f)) ↔ draft.isSome ∧
      (Unread (env.setting? scope "DISCORD_APPID") Text.WordNumeral ∨
        Unread (env.setting? scope "RENDER_WIDTH") Text.IntNumeral)) ∧
    (∀ f, out.1 = .error (.invalid f) ↔ ∃ file c, draft = some file ∧
      Layered (base.getD standard) file env scope c ∧ c.fault? = some f) ∧
    m.Keeps out.2 ∧ out.2.Defaults l.defaults (base.getD standard) := by
  intro l m out
  have stand : m.Defaults l.defaults (base.getD standard) := defaults_after loader base before
  have keeps : m.Keeps out.2 := keeps_load stand (.file draft env scope)
  cases draft with
  | none =>
    have ran : out.1 = .error .unreadable := rfl
    refine ⟨fun p done => ?_, iff_of_true ran rfl, ?_, fun f => ?_, keeps, stand.keep keeps⟩
    · cases ran.symm.trans done
    · exact iff_of_false (fun ⟨_, failed⟩ => nomatch ran.symm.trans failed) fun ⟨decoded, _⟩ => nomatch decoded
    · exact iff_of_false (fun failed => nomatch ran.symm.trans failed) fun ⟨_, _, decoded, _⟩ => nomatch decoded
  | some file =>
    obtain ⟨p, made⟩ := made_finish stand file env scope
    refine ⟨fun q done => ?_, iff_of_false made.not_unreadable nofun, ?_, fun f => ?_, keeps, stand.keep keeps⟩
    · obtain ⟨c, result, here, sound, fresh⟩ := made.ok done
      exact ⟨file, c, rfl, here, settled_overlay.1 result, sound, fresh⟩
    · exact made.environment.trans (settled_eq_error.trans ⟨fun unread => ⟨rfl, unread⟩, And.right⟩)
    · rw [made.invalid]
      simp only [settled_overlay]
      constructor
      · rintro ⟨c, layered, fault⟩
        exact ⟨file, c, rfl, layered, fault⟩
      · rintro ⟨_, c, ⟨⟩, layered, fault⟩
        exact ⟨c, layered, fault⟩

end TermBot.Config
