import TermBot.Proofs.Config.Loads

/-!
# Statuses of files

A file's status is taken over as a whole, and only when it has a name. One that has a name reaches the
configuration with all that it says, or there is no configuration: `carries_of_named`. One without a name is passed
over without a word, whatever kind and address it has, and the load answers as without it: `finish_unnamed`.
-/

namespace TermBot

/-- The activity has every value of the other one that is not empty. -/
structure Activity.Carries (a b : Activity) : Prop where
  name : b.name ≠ "" → a.name = b.name
  kind : b.kind ≠ "" → a.kind = b.kind
  url : b.url ≠ "" → a.url = b.url

theorem Activity.Carries.refl (a : Activity) : a.Carries a := ⟨fun _ => rfl, fun _ => rfl, fun _ => rfl⟩

namespace Config

variable {base c : Config} {file : Draft} {env : Environment} {scope : String} {defaults : Option Address}

theorem Layered.carries_of_named (layered : Layered base file env scope c) (named : file.status.name ≠ "") :
    c.status.Carries file.status := by
  rw [layered.status, if_neg named]
  split
  · next unknown => exact ⟨fun _ => rfl, fun known => absurd unknown known, fun _ => rfl⟩
  · exact .refl _

theorem Layered.status_of_unnamed (layered : Layered base file env scope c) (unnamed : file.status.name = "") :
    c.status = base.status := by
  rw [layered.status, if_pos unnamed]

theorem Layered.carries_iff (layered : Layered base file env scope c) :
    c.status.Carries file.status ↔ file.status.name ≠ "" ∨ base.status.Carries file.status := by
  by_cases named : file.status.name = ""
  · rw [layered.status_of_unnamed named]
    exact ⟨Or.inr, fun carried => carried.resolve_left fun found => found named⟩
  · exact iff_of_true (layered.carries_of_named named) (.inl named)

theorem overlay_unnamed (unnamed : file.status.name = "") :
    overlay base file = overlay base { file with status := {} } := by
  simp only [overlay, unnamed, if_true]

/-- A status without a name makes no difference to a load. -/
theorem finish_unnamed (unnamed : file.status.name = "") :
    finish defaults (some file) env scope = finish defaults (some { file with status := {} }) env scope := by
  simp only [finish, overlay_unnamed unnamed]

/-- A configuration without fault has a status without fault. -/
theorem status_fault? (sound : c.fault? = none) : c.status.fault? = none := by
  rw [Config.fault?] at sound
  -- The status is looked at when the four other checks have passed.
  iterate 4
    split at sound
    case isTrue => cases sound
  exact sound

/-- Whatever was loaded before: a load fails, or hands out a configuration whose status is without fault. It has
all that the file's status says just if that one has a name or says nothing that the default status does not say.
Without a name it is not looked at: the status is the default, and the load does what it does without it. -/
theorem finish_carries_iff (loader : Loader) (base : Option Config) (before : List Load) (file : Draft)
    (env : Environment) (scope : String) :
    let l := loader.withDefaults base
    let m := l.memory.after l.defaults before
    let out := (finish l.defaults (some file) env scope).run.run m
    ((∃ e, out.1 = .error e) ∨ ∃ p c, out.1 = .ok p ∧ out.2.at? p = some c ∧ c.status.fault? = none ∧
      (c.status.Carries file.status ↔ file.status.name ≠ "" ∨ (base.getD standard).status.Carries file.status) ∧
      (file.status.name = "" → c.status = (base.getD standard).status)) ∧
    (file.status.name = "" →
      out = (finish l.defaults (some { file with status := {} }) env scope).run.run m) := by
  intro l m out
  refine ⟨?_, fun unnamed => by rw [← finish_unnamed unnamed]⟩
  obtain ⟨p, made⟩ := made_finish (m := m) (defaults_after loader base before) file env scope
  cases done : out.1 with
  | error e => exact .inl ⟨e, rfl⟩
  | ok q =>
    obtain ⟨c, result, here, sound, -⟩ := made.ok done
    have layered := settled_overlay.1 result
    exact .inr ⟨q, c, rfl, here, status_fault? sound, layered.carries_iff, layered.status_of_unnamed⟩

/-- A file with a status of an unknown kind and without a name: the load succeeds, and the kind is gone. -/
theorem finish_drops_kind :
    let file : Draft := { status := { kind := "singing" } }
    let l : Loader := {}
    let out := (finish l.defaults (some file) l.env l.scope).run.run l.memory
    out.1 = .ok 2 ∧ out.2.at? 2 = some standard ∧ ¬ standard.status.Carries file.status := by
  refine ⟨rfl, rfl, fun carried => ?_⟩
  exact absurd (carried.kind (by decide)) (by decide)

end Config

end TermBot
