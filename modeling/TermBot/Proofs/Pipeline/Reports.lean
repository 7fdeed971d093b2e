import Mathlib.Data.List.Infix
import TermBot.Pipeline.Run

/-!
# What a run calls and reports

A run calls its collaborators in the order of the stages, and a report is the last call it makes. Which
reports were delivered is written down beside the world (`Collaborators.recorded`), which changes nothing for
the run (`Mirrors.run`). How a stage ends is described once for the three of them (`Stage.Ends`), and a
run is put together from the ends of its stages.
-/

namespace TermBot.Pipeline

variable {σ ρ α β : Type}

/-- The call that finds what the stage is about. -/
def Stage.call : Stage → Call
  | .parsed => .parse
  | .resolved => .resolve
  | .inferred => .infer

/-- The kind of the value that the stage renders. -/
def Stage.kind : Stage → String
  | .parsed => "parsed"
  | .resolved => "resolved"
  | .inferred => "inferred"

/-- The calls of a stage that finds something to render. -/
def Stage.calls (s : Stage) : List Call := [s.call, .render s.kind]

/-- The titles of the sections of a stage. -/
def Stage.titles : Stage → List String
  | .parsed => ["Parsed Term"]
  | .resolved => ["Resolved Term"]
  | .inferred => ["Inferred Type", "TyCtxt"]

/-- The stages up to a depth. -/
def Depth.stages (d : Depth) : List Stage :=
  if d.level ≤ Depth.parse.level then [.parsed]
  else if d.level ≤ Depth.resolve.level then [.parsed, .resolved]
  else [.parsed, .resolved, .inferred]

/-- An action on a world, with reports beside the world that it leaves alone. -/
def beside (act : σ → α × σ) (w : σ × List Section) : α × σ × List Section :=
  ((act w.1).1, (act w.1).2, w.2)

/-- The same collaborators; every report that is delivered is written down beside the world. -/
def Collaborators.recorded (c : Collaborators σ ρ) : Collaborators (σ × List Section) ρ where
  engine := {
    parse := fun s => beside (c.engine.parse s)
    resolve := fun t => beside (c.engine.resolve t)
    infer := fun e => beside (c.engine.infer e) }
  render v := beside (c.render v)
  report r w :=
    let (reply, v) := c.report r w.1
    (reply, v, w.2 ++ if reply.isOk then [r] else [])

/-! ### The record changes nothing -/

/-- The journal without the reports beside its world. -/
def Journal.bare (j : Journal (σ × List Section)) : Journal σ := ⟨j.world.1, j.calls⟩

/-- The two actions do the same, but for what is written beside the world. -/
def Mirrors (m : StateM (Journal σ) α) (m' : StateM (Journal (σ × List Section)) α) : Prop :=
  ∀ j, m j.bare = ((m' j).1, (m' j).2.bare)

namespace Mirrors

theorem pure (a : α) :
    Mirrors (Pure.pure a : StateM (Journal σ) α) (Pure.pure a : StateM (Journal (σ × List Section)) α) :=
  fun _ => rfl

theorem bind {m : StateM (Journal σ) α} {m' : StateM (Journal (σ × List Section)) α}
    {f : α → StateM (Journal σ) β} {f' : α → StateM (Journal (σ × List Section)) β}
    (first : Mirrors m m') (rest : ∀ a, Mirrors (f a) (f' a)) : Mirrors (m >>= f) (m' >>= f') := by
  intro j
  calc (m >>= f) j.bare = f (m j.bare).1 (m j.bare).2 := rfl
    _ = f (m' j).1 (m' j).2.bare := by rw [first j]
    _ = _ := rest (m' j).1 (m' j).2

theorem calling (call : Call) (act : σ → α × σ) :
    Mirrors (calling call act) (Pipeline.calling call (beside act)) :=
  fun _ => rfl

theorem reporting (c : Collaborators σ ρ) (r : Section) :
    Mirrors (Pipeline.calling (.report r) (c.report r))
      (Pipeline.calling (.report r) (c.recorded.report r)) :=
  fun _ => rfl

variable (c : Collaborators σ ρ)

theorem rendering (s : Stage) (v : Render.Value) : Mirrors (rendering c s v) (rendering c.recorded s v) :=
  (calling _ _).bind fun a => match a with
    | .ok _ => pure _
    | .error _ => pure _

theorem parseStage [Text.Measure] (raw : String) : Mirrors (parseStage c raw) (parseStage c.recorded raw) :=
  (calling _ _).bind fun a => match a with
    | .error _ => (reporting c _).bind fun a => match a with
      | .ok _ => pure _
      | .error _ => pure _
    | .ok _ => (rendering c _ _).bind fun a => match a with
      | .ok _ => pure _
      | .error _ => pure _

theorem resolveStage (t : Surface.Term) : Mirrors (resolveStage c t) (resolveStage c.recorded t) :=
  (calling _ _).bind fun a => match a with
    | none => (reporting c _).bind fun a => match a with
      | .ok _ => pure _
      | .error _ => pure _
    | some _ => (rendering c _ _).bind fun a => match a with
      | .ok _ => pure _
      | .error _ => pure _

theorem inferStage (e : Scoped.Expr) : Mirrors (inferStage c e) (inferStage c.recorded e) :=
  (calling _ _).bind fun a => match a with
    | (none, _) => pure _
    | (some _, _) => (rendering c _ _).bind fun a => match a with
      | .ok _ => pure _
      | .error _ => pure _

/-- A run is the same whether its reports are recorded or not. -/
theorem run [Text.Measure] (raw : String) (depth : Depth) : Mirrors (run c raw depth) (run c.recorded raw depth) := by
  refine (parseStage c raw).bind fun a => ?_
  rcases a with _ | ⟨t, text⟩
  · exact pure _
  dsimp only
  split
  · exact pure _
  refine (resolveStage c t).bind fun a => ?_
  rcases a with e | ⟨e, text⟩
  · cases e <;> exact pure _
  dsimp only
  split
  · exact pure _
  refine (inferStage c e).bind fun a => ?_
  cases a <;> exact pure _

end Mirrors

/-! ### What an action writes down -/

/-- The action adds calls to the journal and delivers reports, of which `post` holds with its result. -/
def Writes (m : StateM (Journal (σ × List Section)) α) (post : α → List Call → List Section → Prop) : Prop :=
  ∀ j, ∃ made told, (m j).2.calls = j.calls ++ made ∧ (m j).2.world.2 = j.world.2 ++ told ∧
    post (m j).1 made told

namespace Writes

variable {m : StateM (Journal (σ × List Section)) α} {mid post : α → List Call → List Section → Prop}

theorem pure {a : α} (holds : post a [] []) :
    Writes (Pure.pure a : StateM (Journal (σ × List Section)) α) post :=
  fun _ => ⟨[], [], (List.append_nil _).symm, (List.append_nil _).symm, holds⟩

theorem bind {f : α → StateM (Journal (σ × List Section)) β} {post : β → List Call → List Section → Prop}
    (first : Writes m mid) (rest : ∀ a made told, mid a made told →
      Writes (f a) fun b made' told' => post b (made ++ made') (told ++ told')) :
    Writes (m >>= f) post := by
  intro j
  obtain ⟨made, told, calls, reports, holds⟩ := first j
  obtain ⟨made', told', calls', reports', holds'⟩ := rest _ _ _ holds (m j).2
  refine ⟨made ++ made', told ++ told', ?_, ?_, holds'⟩
  · rw [← List.append_assoc, ← calls]
    exact calls'
  · rw [← List.append_assoc, ← reports]
    exact reports'

theorem calling (call : Call) (act : σ → α × σ) :
    Writes (calling call (beside act)) fun _ made told => made = [call] ∧ told = [] :=
  fun _ => ⟨[call], [], rfl, (List.append_nil _).symm, rfl, rfl⟩

/-- A report is delivered where the reporter does not fail. -/
theorem reporting (c : Collaborators σ ρ) (r : Section) :
    Writes (Pipeline.calling (.report r) (c.recorded.report r)) fun a made told =>
      made = [.report r] ∧ told = if a.isOk then [r] else [] :=
  fun _ => ⟨_, _, rfl, rfl, rfl, rfl⟩

end Writes

/-! ### How a stage ends -/

/-- The error of a stage that found nothing, after its report was delivered or was not. -/
inductive Stage.Refuses : Stage → RunError ρ → Prop
  | unparsed (e : ParseError) : Refuses .parsed (.unparsed e)
  | reportUnparsed (e : ρ) : Refuses .parsed (.reportUnparsed e)
  | unresolved : Refuses .resolved .unresolved
  | reportUnresolved (e : ρ) : Refuses .resolved (.reportUnresolved e)

/-- How a stage can end, with the calls it made and the reports it delivered. What is `silent` is not
rendered. -/
inductive Stage.Ends (s : Stage) (silent : α → Prop) :
    Except (RunError ρ) α → List Call → List Section → Prop
  | found {a : α} (shown : ¬ silent a) : Ends s silent (.ok a) s.calls []
  | hidden {a : α} (quiet : silent a) : Ends s silent (.ok a) [s.call] []
  | unrendered (e : ρ) : Ends s silent (.error (.render s e)) s.calls []
  | refused (r : Section) {e : RunError ρ} (refuses : s.Refuses e) :
    Ends s silent (.error e) [s.call, .report r] (if e.reported then [r] else [])

variable (c : Collaborators σ ρ)

theorem writes_rendering (s : Stage) (v : Render.Value) :
    Writes (rendering c.recorded s v) fun a made told =>
      made = [.render v.kind] ∧ told = [] ∧ ∀ err, a = .error err → ∃ e, err = .render s e := by
  refine (Writes.calling _ _).bind fun a made told holds => ?_
  obtain ⟨rfl, rfl⟩ := holds
  cases a with
  | ok text => exact .pure ⟨rfl, rfl, by rintro _ ⟨⟩⟩
  | error e => exact .pure ⟨rfl, rfl, fun _ eq => ⟨e, (Except.error.inj eq).symm⟩⟩

theorem writes_parseStage [Text.Measure] (raw : String) :
    Writes (parseStage c.recorded raw) (Stage.parsed.Ends fun _ => False) := by
  refine (Writes.calling _ _).bind fun a made told holds => ?_
  obtain ⟨rfl, rfl⟩ := holds
  cases a with
  | error e =>
    refine (Writes.reporting c _).bind fun a made told holds => ?_
    obtain ⟨rfl, rfl⟩ := holds
    cases a with
    | error re => exact .pure (.refused _ (.reportUnparsed re))
    | ok _ => exact .pure (.refused _ (.unparsed e))
  | ok t =>
    refine (writes_rendering c _ _).bind fun a made told holds => ?_
    obtain ⟨rfl, rfl, failure⟩ := holds
    cases a with
    | error err =>
      obtain ⟨e, rfl⟩ := failure err rfl
      exact .pure (.unrendered e)
    | ok text => exact .pure (.found id)

theorem writes_resolveStage (t : Surface.Term) :
    Writes (resolveStage c.recorded t) (Stage.resolved.Ends fun _ => False) := by
  refine (Writes.calling _ _).bind fun a made told holds => ?_
  obtain ⟨rfl, rfl⟩ := holds
  cases a with
  | none =>
    refine (Writes.reporting c _).bind fun a made told holds => ?_
    obtain ⟨rfl, rfl⟩ := holds
    cases a with
    | error re => exact .pure (.refused _ (.reportUnresolved re))
    | ok _ => exact .pure (.refused _ .unresolved)
  | some e =>
    refine (writes_rendering c _ _).bind fun a made told holds => ?_
    obtain ⟨rfl, rfl, failure⟩ := holds
    cases a with
    | error err =>
      obtain ⟨e, rfl⟩ := failure err rfl
      exact .pure (.unrendered e)
    | ok text => exact .pure (.found id)

theorem writes_inferStage (e : Scoped.Expr) :
    Writes (inferStage c.recorded e) (Stage.inferred.Ends fun inf => inf.type = none) := by
  refine (Writes.calling _ _).bind fun a made told holds => ?_
  obtain ⟨rfl, rfl⟩ := holds
  obtain ⟨_ | t, cx⟩ := a
  · exact .pure (.hidden rfl)
  · refine (writes_rendering c _ _).bind fun a made told holds => ?_
    obtain ⟨rfl, rfl, failure⟩ := holds
    cases a with
    | error err =>
      obtain ⟨e, rfl⟩ := failure err rfl
      exact .pure (.unrendered e)
    | ok text => exact .pure (.found (Option.some_ne_none _))

/-! ### Runs -/

/-- What can be told of a run by its outcome, the calls it made and the reports it delivered. -/
structure Account (depth : Depth) (res : Option Result) (err : Option (RunError ρ)) (calls : List Call)
    (told : List Section) : Prop where
  /-- The calls are those of the stages up to some point, and at most one report, the last of them. -/
  order : ∃ made reports, calls = made ++ reports.map Call.report ∧
    made <+: depth.stages.flatMap Stage.calls ∧ reports.length ≤ 1 ∧ told <+: reports
  /-- The error says that it was reported where one report was delivered, and nowhere else. -/
  reported : (∃ e, err = some e ∧ e.reported = true) ↔ told.length = 1
  /-- Without an error, no report was made and every stage has its sections. Only the type of a term that
  has none was not rendered. -/
  complete : err = none → (∀ r, Call.report r ∉ calls) ∧ ∃ r, res = some r ∧
    r.sections.map (·.title) = depth.stages.flatMap Stage.titles ∧
    calls = if r.inference.any (·.type.isNone) then (depth.stages.flatMap Stage.calls).dropLast
      else depth.stages.flatMap Stage.calls
  /-- With an error there is no result, unless the term does not resolve; then it is the parsed term. -/
  partly : ∀ e, err = some e →
    (e = .unresolved ∧ ∃ t text,
      res = some { sections := [⟨"Parsed Term", text, true⟩], parsed := some t }) ∨
    (e ≠ .unresolved ∧ res = none)

variable {depth : Depth}

/-- The account of a run that a stage stops, after the stages before it were passed. -/
theorem Account.stopped {s : Stage} {silent : α → Prop} {res : Option Result} {e : RunError ρ}
    (passed : List Stage) {made : List Call} {told : List Section}
    (ends : s.Ends silent (.error e) made told) (within : passed ++ [s] <+: depth.stages)
    (left : (e = .unresolved ∧ ∃ t text,
        res = some { sections := [⟨"Parsed Term", text, true⟩], parsed := some t }) ∨
      (e ≠ .unresolved ∧ res = none)) :
    Account depth res (some e) (passed.flatMap Stage.calls ++ made) told where
  order := by
    have within : passed.flatMap Stage.calls ++ s.calls <+: depth.stages.flatMap Stage.calls := by
      simpa using List.IsPrefix.flatMap within Stage.calls
    cases ends with
    | unrendered => exact ⟨_, [], (List.append_nil _).symm, within, Nat.zero_le 1, List.prefix_rfl⟩
    | refused r refuses =>
      refine ⟨passed.flatMap Stage.calls ++ [s.call], [r], by simp, ?_, Nat.le_refl 1, ?_⟩
      · refine List.IsPrefix.trans ?_ within
        exact (List.prefix_append_right_inj _).2 ⟨[.render s.kind], rfl⟩
      · split
        · exact List.prefix_rfl
        · exact List.nil_prefix
  reported := by
    cases ends with
    | unrendered => simp [RunError.reported]
    | refused r refuses => by_cases delivered : e.reported = true <;> simp [delivered]
  complete finished := (Option.some_ne_none _ finished).elim
  partly := by
    rintro e' ⟨⟩
    exact left

/-- The account of a run without an error. -/
theorem Account.finished {r : Result} {calls : List Call}
    (titles : r.sections.map (·.title) = depth.stages.flatMap Stage.titles)
    (made : calls = if r.inference.any (·.type.isNone) then (depth.stages.flatMap Stage.calls).dropLast
      else depth.stages.flatMap Stage.calls) :
    Account depth (some r) (none : Option (RunError ρ)) calls [] where
  order := by
    refine ⟨calls, [], (List.append_nil _).symm, ?_, Nat.zero_le 1, List.prefix_rfl⟩
    rw [made]
    split
    · exact List.dropLast_prefix _
    · exact List.prefix_rfl
  reported := by simp
  complete _ := by
    refine ⟨fun r inside => ?_, r, rfl, titles, made⟩
    -- no stage makes a report among its own calls
    have none : Call.report r ∉ depth.stages.flatMap Stage.calls := by
      simp only [List.mem_flatMap, Stage.calls]
      rintro ⟨s, -, mem⟩
      cases s <;> simp [Stage.call] at mem
    rw [made] at inside
    split at inside
    · exact none ((List.dropLast_sublist _).mem inside)
    · exact none inside
  partly _ failed := (Option.some_ne_none _ failed.symm).elim

/-- The term is parsed at every depth. -/
theorem Depth.parsed_prefix_stages : [.parsed] <+: depth.stages := by
  rw [stages]
  split
  · exact List.prefix_rfl
  · split <;> exact ⟨_, rfl⟩

/-- The term is resolved beyond the depth of parsing. -/
theorem Depth.resolved_prefix_stages (beyond : ¬ depth.level ≤ Depth.parse.level) :
    [.parsed, .resolved] <+: depth.stages := by
  rw [stages, if_neg beyond]
  split
  · exact List.prefix_rfl
  · exact ⟨_, rfl⟩

/-- What a run writes down is as its account says. -/
theorem writes_run [Text.Measure] (depth : Depth) (raw : String) :
    Writes (run c.recorded raw depth) fun out made told => Account depth out.1 out.2 made told := by
  refine (writes_parseStage c raw).bind fun a made told ends => ?_
  cases a with
  | error e =>
    refine .pure ?_
    simp only [List.append_nil]
    refine Account.stopped [] ends Depth.parsed_prefix_stages (.inr ⟨?_, rfl⟩)
    rintro rfl
    cases ends with
    | refused r refuses => cases refuses
  | ok found =>
    obtain ⟨t, text⟩ := found
    cases ends with
    | hidden quiet => exact quiet.elim
    | found =>
    dsimp only
    split
    case isTrue upto =>
      have stages : depth.stages = [.parsed] := if_pos upto
      exact .pure (.finished (by rw [stages]; rfl) (by rw [stages]; rfl))
    case isFalse beyond =>
    refine (writes_resolveStage c t).bind fun a made told ends => ?_
    cases a with
    | error e =>
      have within := Depth.resolved_prefix_stages beyond
      cases e with
      | unresolved =>
        exact .pure (by simpa using Account.stopped [.parsed] ends within (.inl ⟨rfl, t, text, rfl⟩))
      | _ => exact .pure (by simpa using Account.stopped [.parsed] ends within (.inr ⟨by rintro ⟨⟩, rfl⟩))
    | ok found =>
      obtain ⟨e, text⟩ := found
      cases ends with
      | hidden quiet => exact quiet.elim
      | found =>
      dsimp only
      split
      case isTrue upto =>
        have stages : depth.stages = [.parsed, .resolved] := (if_neg beyond).trans (if_pos upto)
        exact .pure (.finished (by rw [stages]; rfl) (by rw [stages]; rfl))
      case isFalse further =>
      have stages : depth.stages = [.parsed, .resolved, .inferred] := (if_neg beyond).trans (if_neg further)
      refine Writes.bind (writes_inferStage c e) fun a made told ends => ?_
      cases a with
      | error e =>
        have unresolved : e ≠ .unresolved := by
          rintro rfl
          cases ends with
          | refused r refuses => cases refuses
        have within : [.parsed, .resolved, .inferred] <+: depth.stages := by
          rw [stages]
        exact .pure (by simpa using Account.stopped [.parsed, .resolved] ends within (.inr ⟨unresolved, rfl⟩))
      | ok inf =>
        refine .pure ?_
        cases ends with
        | found shown =>
          have typed : inf.type.isNone = false := by simpa [Option.isSome_iff_ne_none] using shown
          exact .finished (by rw [stages]; rfl) (by simp [stages, typed])
        | hidden quiet =>
          have untyped : inf.type.isNone = true := by simpa using quiet
          exact .finished (by rw [stages]; rfl) (by simp [stages, untyped, Stage.calls])

/-- Whatever the collaborators do, and at every depth: the calls of a run are those of its stages in their
order, up to some point, with at most one report after them; the run ends with an error that says it was
reported just when one report was delivered; without an error nothing is reported, and the sections are those
of the stages up to the depth; with an error there is no result, except that the section of the parsed term
is left of a run whose term does not resolve. Which reports were delivered is read off the record, which the
run does not notice. -/
theorem run_reports [Text.Measure] (w : σ) (raw : String) (depth : Depth) :
    ∃ res err j, run c.recorded raw depth ⟨(w, []), []⟩ = ((res, err), j) ∧
      run c raw depth ⟨w, []⟩ = ((res, err), j.bare) ∧ Account depth res err j.calls j.world.2 := by
  have same := Mirrors.run c raw depth ⟨(w, []), []⟩
  have written := writes_run c depth raw ⟨(w, []), []⟩
  rcases ran : run c.recorded raw depth ⟨(w, []), []⟩ with ⟨⟨res, err⟩, j⟩
  rw [ran] at same written
  obtain ⟨made, told, calls, reports, account⟩ := written
  exact ⟨res, err, j, rfl, same, by rw [calls, reports]; exact account⟩

/-! ### What a run does to the world -/

/-- The action takes the world to one that it is related to. -/
def Takes (R : σ → σ → Prop) (m : StateM (Journal σ) α) : Prop := ∀ j, R j.world (m j).2.world

/-- Every call of a collaborator takes the world to one that it is related to. -/
structure Collaborators.Take (c : Collaborators σ ρ) (R : σ → σ → Prop) : Prop where
  refl : ∀ w, R w w
  trans : ∀ {w₁ w₂ w₃}, R w₁ w₂ → R w₂ w₃ → R w₁ w₃
  parse : ∀ s w, R w (c.engine.parse s w).2
  resolve : ∀ t w, R w (c.engine.resolve t w).2
  infer : ∀ e w, R w (c.engine.infer e w).2
  render : ∀ v w, R w (c.render v w).2
  report : ∀ r w, R w (c.report r w).2

namespace Collaborators.Take

variable {c} {R : σ → σ → Prop} (take : c.Take R)
include take

theorem pure (a : α) : Takes R (Pure.pure a : StateM (Journal σ) α) := fun j => take.refl j.world

theorem bind {m : StateM (Journal σ) α} {f : α → StateM (Journal σ) β} (first : Takes R m)
    (rest : ∀ a, Takes R (f a)) : Takes R (m >>= f) :=
  fun j => take.trans (first j) (rest (m j).1 (m j).2)

theorem rendering (s : Stage) (v : Render.Value) : Takes R (rendering c s v) :=
  take.bind (fun j => take.render v j.world) fun a => match a with
    | .ok _ => take.pure _
    | .error _ => take.pure _

theorem parseStage [Text.Measure] (raw : String) : Takes R (parseStage c raw) :=
  take.bind (fun j => take.parse _ j.world) fun a => match a with
    | .error _ => take.bind (fun j => take.report _ j.world) fun a => match a with
      | .ok _ => take.pure _
      | .error _ => take.pure _
    | .ok _ => take.bind (take.rendering _ _) fun a => match a with
      | .ok _ => take.pure _
      | .error _ => take.pure _

theorem resolveStage (t : Surface.Term) : Takes R (resolveStage c t) :=
  take.bind (fun j => take.resolve _ j.world) fun a => match a with
    | none => take.bind (fun j => take.report _ j.world) fun a => match a with
      | .ok _ => take.pure _
      | .error _ => take.pure _
    | some _ => take.bind (take.rendering _ _) fun a => match a with
      | .ok _ => take.pure _
      | .error _ => take.pure _

theorem inferStage (e : Scoped.Expr) : Takes R (inferStage c e) :=
  take.bind (fun j => take.infer _ j.world) fun a => match a with
    | (none, _) => take.pure _
    | (some _, _) => take.bind (take.rendering _ _) fun a => match a with
      | .ok _ => take.pure _
      | .error _ => take.pure _

/-- A run does to the world what its collaborators do. -/
theorem run [Text.Measure] (raw : String) (depth : Depth) : Takes R (run c raw depth) := by
  refine take.bind (take.parseStage raw) fun a => ?_
  rcases a with _ | ⟨t, text⟩
  · exact take.pure _
  dsimp only
  split
  · exact take.pure _
  refine take.bind (take.resolveStage t) fun a => ?_
  rcases a with e | ⟨e, text⟩
  · cases e <;> exact take.pure _
  dsimp only
  split
  · exact take.pure _
  refine take.bind (take.inferStage e) fun a => ?_
  cases a <;> exact take.pure _

end Collaborators.Take

end TermBot.Pipeline
