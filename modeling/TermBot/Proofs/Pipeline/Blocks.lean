import TermBot.Cli.Program
import TermBot.Discord.Session
import TermBot.Proofs.Bot.Fences
import TermBot.Proofs.Typing.Declared

/-!
# What a run shows as code

A run takes the bodies of its sections from the rendering service and from the context of inference, and that of
its report from the fault of the source. What is rendered has no backtick as long as the service holds none, and a
run keeps it so (`Keeps`), so the sections of a result have none (`keeps_run`). A report shows source text as it is,
and there is a fence in one just if it quotes one (`shown_fenced_iff`).
-/

namespace TermBot.Pipeline

open Surface (Term)
open Scoped (Expr)
open Text (Unticked Fenced)

variable {σ ρ α β : Type}

/-- The engine is the one for System F, values are rendered by a service with lines of a width, and a report leaves
the service alone. What a rendering that fails says is left open, and so is who else gives up on one. -/
structure Collaborators.Served [Text.Measure] (c : Collaborators σ ρ) (width : Int64)
    (service : σ → Render.RenderSystem) : Prop where
  engine : ∃ depth, c.engine = systemF depth
  render : ∀ v w, ∃ cell canceled found left,
    Render.render (Render.handler Render.standardBuilder width false) cell v canceled (service w) = (found, left) ∧
      (c.render v w).1.toOption = found.toOption ∧ service (c.render v w).2 = left
  report : ∀ s w, service (c.report s w).2 = service w

/-! ### The program and the bot -/

/-- The stages of the program render with the service on its desk. -/
theorem served_localStages [Text.Measure] (width : Int64) : (Cli.localStages width).Served width Cli.Desk.renderer where
  engine := ⟨_, rfl⟩
  render _ _ := ⟨0, false, _, _, rfl, rfl, rfl⟩
  report _ _ := rfl

/-- The service on a new desk holds no backtick. -/
theorem new_obeys [Text.Measure] (width : Int64) : (Cli.Desk.new width).renderer.Obeys Render.unticked := by
  change (Render.start (Render.handler Render.standardBuilder width false) {}).2.Obeys Render.unticked
  exact Render.start_obeys

theorem toOption_mapError {ε ε' : Type} (x : Except ε α) (f : ε → ε') : (x.mapError f).toOption = x.toOption := by
  cases x <;> rfl

/-- The stages of a connected bot render with the service of its world. -/
theorem served_stages [Text.Measure] (width : Int64) (owners : List String) (channel : String) :
    ((Discord.connected width owners).stages channel).Served width (·.world.renderer) where
  engine := by
    refine ⟨Typing.ampleDepth, congrArg (Engine.mk _ _) ?_⟩
    funext e s
    simp only [Discord.connected, systemF, Bot.lift]
    rcases (Typing.infer Typing.ampleDepth e).run {} with ⟨err | t, cx⟩ <;> rfl
  render _ _ := ⟨0, false, _, _, rfl, toOption_mapError _ _, rfl⟩
  report _ _ := rfl

/-! ### What an action keeps -/

/-- The service holds no backtick, and every section that was to be reported is as `told` says. -/
structure Journal.Clean (service : σ → Render.RenderSystem) (told : Section → Prop) (j : Journal σ) : Prop where
  service : (service j.world).Obeys Render.unticked
  reports : ∀ s, Call.report s ∈ j.calls → told s

/-- A clean journal stays clean, and `post` holds of the result. -/
def Keeps (service : σ → Render.RenderSystem) (told : Section → Prop) (m : StateM (Journal σ) α)
    (post : α → Prop) : Prop :=
  ∀ j : Journal σ, j.Clean service told → (m j).2.Clean service told ∧ post (m j).1

variable {service : σ → Render.RenderSystem} {told : Section → Prop}

namespace Keeps

theorem pure {post : α → Prop} {a : α} (holds : post a) :
    Keeps service told (Pure.pure a : StateM (Journal σ) α) post :=
  fun _ clean => ⟨clean, holds⟩

theorem bind {m : StateM (Journal σ) α} {f : α → StateM (Journal σ) β} {mid : α → Prop} {post : β → Prop}
    (first : Keeps service told m mid) (rest : ∀ a, mid a → Keeps service told (f a) post) :
    Keeps service told (m >>= f) post := by
  intro j clean
  obtain ⟨clean, holds⟩ := first j clean
  exact rest _ holds _ clean

theorem calling {call : Call} {act : σ → α × σ} {post : α → Prop} (allowed : ∀ s, call = .report s → told s)
    (kept : ∀ w, (service w).Obeys Render.unticked → (service (act w).2).Obeys Render.unticked ∧ post (act w).1) :
    Keeps service told (calling call act) post := by
  intro j clean
  obtain ⟨service, holds⟩ := kept j.world clean.service
  refine ⟨⟨service, fun s mem => ?_⟩, holds⟩
  rcases List.mem_append.1 mem with before | new
  · exact clean.reports s before
  · exact allowed s (List.mem_singleton.1 new).symm

end Keeps

/-! ### The stages -/

variable {c : Collaborators σ ρ} {width : Int64}

theorem keeps_rendering [Text.Measure] (served : c.Served width service) (stage : Stage) {v : Render.Value} (named : v.Named) :
    Keeps service told (rendering c stage v) fun a => ∀ text, a = .ok text → Unticked text := by
  have call : Keeps service told (calling (.render v.kind) (c.render v)) fun a =>
      ∀ text, a = .ok text → Unticked text := by
    refine .calling (by rintro s ⟨⟩) fun w clean => ?_
    obtain ⟨cell, canceled, found, left, run, same, rest⟩ := served.render v w
    obtain ⟨kept, unticked⟩ := Render.render_unticked clean (Render.Value.unticked_doc named) run
    refine ⟨rest ▸ kept, fun text shown => unticked text ?_⟩
    rw [shown] at same
    cases found with
    | ok text' => exact congrArg Except.ok (Option.some.inj same).symm
    | error e => cases same
  refine call.bind fun a unticked => ?_
  cases a with
  | ok text => exact .pure fun _ same => unticked _ (by cases same; rfl)
  | error e => exact .pure (by rintro _ ⟨⟩)

theorem keeps_reporting [Text.Measure] (served : c.Served width service) {s : Section} (allowed : told s) :
    Keeps service told (calling (.report s) (c.report s)) fun _ => True :=
  .calling (by rintro _ ⟨⟩; exact allowed) fun w clean => ⟨(served.report s w).symm ▸ clean, trivial⟩

/-- A call that leaves the world alone. -/
theorem keeps_reading {call : Call} {act : σ → α × σ} (a : α) (silent : ∀ s, call ≠ .report s)
    (same : ∀ w, act w = (a, w)) : Keeps service told (calling call act) fun b => b = a :=
  .calling (fun s report => absurd report (silent s)) fun w clean => by
    rw [same w]
    exact ⟨clean, rfl⟩

theorem keeps_parseStage [Text.Measure] (served : c.Served width service) (raw : String)
    (allowed : ∀ f, Surface.parse (trimInput raw) = .error f →
      told ⟨"Syntax Error", f.diagnostic (Text.scalarsOf (trimInput raw)), true⟩) :
    Keeps service told (parseStage c raw) fun a => ∀ t text, a = .ok (t, text) →
      Surface.parse (trimInput raw) = .ok t ∧ Unticked text := by
  obtain ⟨depth, engine⟩ := served.engine
  have call : Keeps service told (calling .parse (c.engine.parse (trimInput raw))) fun a =>
      a = (Surface.parse (trimInput raw)).mapError (.fault · (trimInput raw)) :=
    keeps_reading _ (by rintro s ⟨⟩) fun w => by rw [engine]; rfl
  refine call.bind fun a found => ?_
  cases parsed : Surface.parse (trimInput raw) with
  | error f =>
    rw [parsed] at found
    cases found
    refine (keeps_reporting served (allowed f parsed)).bind fun a _ => ?_
    cases a <;> exact .pure (by rintro _ _ ⟨⟩)
  | ok t =>
    rw [parsed] at found
    cases found
    have named : (Render.Value.parsed t).Named := Surface.named_of_parseSource parsed
    refine (keeps_rendering served .parsed named).bind fun a unticked => ?_
    cases a with
    | error e => exact .pure (by rintro _ _ ⟨⟩)
    | ok text => exact .pure (by rintro _ _ ⟨⟩; exact ⟨rfl, unticked text rfl⟩)

theorem keeps_resolveStage [Text.Measure] (served : c.Served width service) {t : Term} (named : t.Named)
    (allowed : told ⟨"Resolution Error", unresolvedDetail, false⟩) :
    Keeps service told (resolveStage c t) fun a => ∀ e text, a = .ok (e, text) →
      (e.written.Named ∧ e.Linked []) ∧ Unticked text := by
  obtain ⟨depth, engine⟩ := served.engine
  have call : Keeps service told (calling .resolve (c.engine.resolve t)) fun a => a = Scoped.resolve t :=
    keeps_reading _ (by rintro s ⟨⟩) fun w => by rw [engine]; rfl
  refine call.bind fun a found => ?_
  cases a with
  | none =>
    refine (keeps_reporting served allowed).bind fun a _ => ?_
    cases a <;> exact .pure (by rintro _ _ ⟨⟩)
  | some e =>
    obtain ⟨⟨_, s⟩, run, rfl⟩ := Option.map_eq_some_iff.1 found.symm
    obtain ⟨written, linked⟩ := Scoped.written_resolveTerm run
    have same : (Render.Value.resolved _).Named := written ▸ named.erase
    refine (keeps_rendering served .resolved same).bind fun a unticked => ?_
    cases a with
    | error err => exact .pure (by rintro _ _ ⟨⟩)
    | ok text => exact .pure (by rintro _ _ ⟨⟩; exact ⟨⟨same, linked⟩, unticked text rfl⟩)

theorem keeps_inferStage [Text.Measure] (served : c.Served width service) {e : Expr} (named : e.written.Named)
    (linked : e.Linked []) :
    Keeps service told (inferStage c e) fun a => ∀ inf, a = .ok inf →
      Unticked inf.text ∧ Unticked inf.context.render := by
  obtain ⟨depth, engine⟩ := served.engine
  obtain ⟨result, cx, run⟩ : ∃ result cx, (Typing.infer depth e).run {} = (result, cx) := ⟨_, _, rfl⟩
  obtain ⟨context, type⟩ := Typing.named_of_infer linked named depth run
  have call : Keeps service told (calling .infer (c.engine.infer e)) fun a => a = (result.toOption, cx) := by
    refine keeps_reading _ (by rintro s ⟨⟩) fun w => ?_
    rw [engine, systemF]
    dsimp only
    rw [run]
    cases result <;> rfl
  refine call.bind fun a found => ?_
  subst found
  cases result with
  | error err =>
    have none : Unticked uninferrable := by decide
    exact .pure (by rintro _ ⟨⟩; exact ⟨none, context.unticked_render⟩)
  | ok t =>
    have shown : (Render.Value.inferred (cx.apply t)).Named := type t rfl
    refine (keeps_rendering served .inferred shown).bind fun a unticked => ?_
    cases a with
    | error err => exact .pure (by rintro _ ⟨⟩)
    | ok text => exact .pure (by rintro _ ⟨⟩; exact ⟨unticked text rfl, context.unticked_render⟩)

/-! ### Runs -/

/-- A run that has a result has parsed the text, and no section of the result has a backtick in its body. -/
theorem keeps_run [Text.Measure] (served : c.Served width service) (raw : String) (depth : Depth)
    (unparsed : ∀ f, Surface.parse (trimInput raw) = .error f →
      told ⟨"Syntax Error", f.diagnostic (Text.scalarsOf (trimInput raw)), true⟩)
    (unresolved : told ⟨"Resolution Error", unresolvedDetail, false⟩) :
    Keeps service told (run c raw depth) fun out => ∀ res ∈ out.1,
      (∃ t, Surface.parse (trimInput raw) = .ok t) ∧ ∀ s ∈ res.sections, Unticked s.body := by
  refine (keeps_parseStage served raw unparsed).bind fun a found => ?_
  rcases a with err | ⟨t, text⟩
  · exact .pure (by rintro _ ⟨⟩)
  obtain ⟨parsed, first⟩ := found t text rfl
  have upto : ∀ s ∈ [(⟨"Parsed Term", text, true⟩ : Section)], Unticked s.body :=
    List.forall_mem_singleton.2 first
  dsimp only
  split
  · exact .pure (by rintro _ ⟨⟩; exact ⟨⟨t, parsed⟩, upto⟩)
  refine (keeps_resolveStage served (Surface.named_of_parseSource parsed) unresolved).bind fun a found => ?_
  rcases a with err | ⟨e, text⟩
  · cases err with
    | unresolved => exact .pure (by rintro _ ⟨⟩; exact ⟨⟨t, parsed⟩, upto⟩)
    | _ => exact .pure (by rintro _ ⟨⟩)
  obtain ⟨⟨named, linked⟩, second⟩ := found e text rfl
  have last : ∀ s ∈ [(⟨"Resolved Term", text, true⟩ : Section)], Unticked s.body :=
    List.forall_mem_singleton.2 second
  have further := List.forall_mem_append.2 ⟨upto, last⟩
  dsimp only
  split
  · exact .pure (by rintro _ ⟨⟩; exact ⟨⟨t, parsed⟩, further⟩)
  refine (keeps_inferStage served named linked).bind fun a found => ?_
  cases a with
  | error err => exact .pure (by rintro _ ⟨⟩)
  | ok inf =>
    obtain ⟨third, fourth⟩ := found inf rfl
    refine .pure ?_
    rintro _ ⟨⟩
    exact ⟨⟨t, parsed⟩, List.forall_mem_append.2 ⟨further,
      List.forall_mem_cons.2 ⟨third, List.forall_mem_singleton.2 fourth⟩⟩⟩

/-- A text that does not parse is reported with the diagnostic of its fault. -/
theorem report_of_unparsed [Text.Measure] (served : c.Served width service) {raw : String} {f : Surface.Fault}
    (failed : Surface.parse (trimInput raw) = .error f) (depth : Depth) (w : σ) :
    Call.report ⟨"Syntax Error", f.diagnostic (Text.scalarsOf (trimInput raw)), true⟩ ∈
      ((run c raw depth).run { world := w }).2.calls := by
  obtain ⟨bound, engine⟩ := served.engine
  have parsed : c.engine.parse (trimInput raw) w = (.error (.fault f (trimInput raw)), w) := by
    simp only [engine, systemF, failed, Except.mapError]
  -- the report is written down whether it is delivered or not
  rcases told : c.report ⟨"Syntax Error", f.diagnostic (Text.scalarsOf (trimInput raw)), true⟩ w with ⟨_ | _, w'⟩ <;>
    simp only [run, parseStage, calling, StateT.run, bind, StateT.bind, parsed, ParseError.body, told] <;>
    exact List.mem_append_right _ List.mem_cons_self

/-- What the user is shown as code has a fence in it just if the text has a fault that quotes one. -/
def FencedAsQuoted (raw : String) (s : Section) : Prop :=
  Fenced s.body ↔ ∃ f, Surface.parse (trimInput raw) = .error f ∧ f.QuotesFence (Text.scalarsOf (trimInput raw))

theorem fencedAsQuoted_diagnostic [Text.Measure] {raw : String} {f : Surface.Fault}
    (failed : Surface.parse (trimInput raw) = .error f) :
    FencedAsQuoted raw ⟨"Syntax Error", f.diagnostic (Text.scalarsOf (trimInput raw)), true⟩ := by
  refine (Surface.fenced_diagnostic (Text.settled_scalarsOf _) failed).trans
    ⟨fun quotes => ⟨f, failed, quotes⟩, ?_⟩
  rintro ⟨g, same, quotes⟩
  rw [failed] at same
  cases same
  exact quotes

theorem fencedAsQuoted_of_unticked {raw : String} {s : Section} {t : Term} (unticked : Unticked s.body)
    (parsed : Surface.parse (trimInput raw) = .ok t) : FencedAsQuoted raw s := by
  refine iff_of_false unticked.not_fenced ?_
  rintro ⟨f, failed, -⟩
  rw [parsed] at failed
  cases failed

/-- What a run shows as code is in a block that ends at its last line, unless the text does not parse and the
diagnostic quotes a fence: then the body of the report has it, and the report is always made. -/
theorem shown_fenced_iff [Text.Measure] (served : c.Served width service) {w : σ} (clean : (service w).Obeys Render.unticked)
    (raw : String) (depth : Depth) :
    let out := (run c raw depth).run { world := w }
    (service out.2.world).Obeys Render.unticked ∧
      (∀ res ∈ out.1.1, ∀ s ∈ res.sections, Unticked s.body) ∧
      (∀ f, Surface.parse (trimInput raw) = .error f →
        Call.report ⟨"Syntax Error", f.diagnostic (Text.scalarsOf (trimInput raw)), true⟩ ∈ out.2.calls) ∧
      ∀ s, (Call.report s ∈ out.2.calls ∨ ∃ res ∈ out.1.1, s ∈ res.sections) → s.code = true →
        (Fenced s.body ↔ ∃ f, Surface.parse (trimInput raw) = .error f ∧
          f.QuotesFence (Text.scalarsOf (trimInput raw))) ∧
        (¬ Fenced s.body → Bot.ClosesOnce (Bot.codeBlock s.body)) ∧
        Bot.clip (Bot.codeBlock s.body) = Bot.codeBlock s.body := by
  have fresh : ({ world := w } : Journal σ).Clean service fun s => s.code = true → FencedAsQuoted raw s :=
    ⟨clean, fun s mem => absurd mem List.not_mem_nil⟩
  obtain ⟨left, found⟩ := keeps_run served raw depth (fun f failed _ => fencedAsQuoted_diagnostic failed)
    (by rintro ⟨⟩) _ fresh
  refine ⟨left.service, fun res mem => (found res mem).2, fun f failed => report_of_unparsed served failed depth w,
    fun s shown code => ?_⟩
  refine ⟨?_, Bot.closesOnce_of_not_fenced, Bot.clip_codeBlock _⟩
  rcases shown with reported | ⟨res, mem, inside⟩
  · exact left.reports s reported code
  · obtain ⟨⟨t, parsed⟩, unticked⟩ := found res mem
    exact fencedAsQuoted_of_unticked (unticked s inside) parsed

/-- The character that is quoted here is no backtick. -/
theorem shown_fenced_iff_stray :
    let out := (run (Cli.localStages 80) "x ! y" .infer).run { world := Cli.Desk.new 80 }
    let s : Section :=
      ⟨"Syntax Error", "syntax error at 1:3: unexpected character `!`\n\n 1 | x ! y\n   |   ^", true⟩
    Call.report s ∈ out.2.calls ∧ ¬ Fenced s.body ∧ Bot.ClosesOnce (Bot.codeBlock s.body) := by
  intro out s
  have reported : Call.report s ∈ out.2.calls := by decide +kernel
  have plain : ¬ Fenced s.body := by decide +kernel
  obtain ⟨-, -, -, shown⟩ := shown_fenced_iff (served_localStages 80) (new_obeys 80) "x ! y" .infer
  exact ⟨reported, plain, (shown s (.inl reported) rfl).2.1 plain⟩

/-- A backtick between two others closes the block in its first line. -/
theorem shown_fence_closes :
    let out := (run (Cli.localStages 80) "x ` y" .parse).run { world := Cli.Desk.new 80 }
    let s : Section :=
      ⟨"Syntax Error", "syntax error at 1:3: unexpected character ```\n\n 1 | x ` y\n   |   ^", true⟩
    Call.report s ∈ out.2.calls ∧ Fenced s.body ∧ ¬ Bot.ClosesOnce (Bot.codeBlock s.body) := by
  intro out s
  have reported : Call.report s ∈ out.2.calls := by decide +kernel
  have clipped : Fenced (Bot.clipTo 4088 s.body) := by decide +kernel
  exact ⟨reported, Bot.fenced_of_clipTo clipped, fun closes => Bot.closesOnce_codeBlock.1 closes clipped⟩

end TermBot.Pipeline
