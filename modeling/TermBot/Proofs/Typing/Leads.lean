import TermBot.Proofs.Typing.Inference
import TermBot.Proofs.Typing.Soundness

/-!
# What inference does to a context

A derivation of inference leads from a valid context to a valid one that extends it, and the type it
gives is in scope there: `Infers.leads`. Where a scope ends with a generalisation, `Leads.generalize`
says what is left of the scope and of the type.
-/

namespace TermBot.Typing

open Scoped

/-- The second context is valid, extends the first one and has given out no fewer numbers of the same
supply. -/
structure Leads (c c' : Context) : Prop where
  valid : c'.Valid
  ext : Extends c.entries c'.entries
  grows : c.allocated ≤ c'.allocated
  size : c'.supply.size = c.supply.size

theorem Advances.leads {c c' : Context} (advances : Advances c c') : Leads c c' :=
  ⟨advances.valid, advances.ext, advances.grows, advances.size⟩

namespace Leads

variable {c c' c'' : Context} {e : Entry} {es rest : List Entry} {s : Supply} {t : Ty}

theorem refl (valid : c.Valid) : Leads c c := (Advances.refl valid).leads

theorem trans (first : Leads c c') (second : Leads c' c'') : Leads c c'' :=
  ⟨second.valid, first.ext.trans second.ext, Nat.le_trans first.grows second.grows,
    second.size.trans first.size⟩

/-- The scope that an entry opened: what stood before the entry was refined. -/
theorem leave (leads : Leads ⟨c.entries ++ e :: rest, s⟩ c') (fixed : e.isEx = false)
    (last : ∀ e' ∈ rest, e'.declares e.kind e.id = false) (le : c.allocated ≤ s.used)
    (size : s.size = c.supply.size) :
    ∃ front back, c'.entries = front ++ e :: back ∧ Extends rest back ∧
      (∀ e' ∈ back, e'.declares e.kind e.id = false) ∧ Advances c { c' with entries := front } := by
  obtain ⟨front, back, split, left, right, absent⟩ := leads.ext.leave fixed last
  refine ⟨front, back, split, right, absent, ?_, left, Nat.le_trans le leads.grows,
    leads.size.trans size⟩
  have valid := leads.valid
  rw [show c' = ⟨front ++ e :: back, c'.supply⟩ by rw [← split]] at valid
  exact valid.leave (Nat.le_refl _)

/-- Leaving the scope of a term variable, with all that was added after it. -/
theorem dropTerm {x : Ident} (leads : Leads (c.push [.term x t]) c') :
    Leads c (c'.dropFrom .term x.id) := by
  obtain ⟨front, back, split, -, absent, left⟩ := leads.leave rfl (by simp) (Nat.le_refl _) rfl
  rw [Context.dropFrom_split split (Entry.declares_term.2 ⟨x, t, rfl, rfl⟩) absent]
  exact left.leads

/-- Leaving the scope of a quantifier that was opened with a rigid variable. -/
theorem dropRigid {v : Ident} (leads : Leads (c.withRigid v) c') :
    Leads c (c'.dropFrom .rigid c.allocated) := by
  obtain ⟨front, back, split, -, absent, left⟩ :=
    leads.leave rfl (by simp) (by simp [Supply.skip, Context.allocated]) rfl
  have dropped : c'.dropFrom .rigid c.allocated = { c' with entries := front } :=
    Context.dropFrom_split split (Entry.declares_rigid.2 ⟨_, rfl, rfl⟩) absent
  rw [dropped]
  exact left.leads

/-- Taking a term variable out, which keeps what was added after it. -/
theorem removeTerm {x : Ident} (leads : Leads (c.push [.term x t]) c') :
    Leads c (c'.remove .term x.id) ∧ ∀ {u : Ty} {bound : List Nat}, InScope c'.entries bound u →
      InScope (c'.remove .term x.id).entries bound u := by
  obtain ⟨front, back, split, new, absent, left⟩ := leads.leave rfl (by simp) (Nat.le_refl _) rfl
  rw [Context.remove_split split (Entry.declares_term.2 ⟨x, t, rfl, rfl⟩) absent]
  have valid := leads.valid
  rw [show c' = ⟨front ++ .term x t :: back, c'.supply⟩ by rw [← split]] at valid
  refine ⟨⟨valid.forget rfl rfl, ⟨front, back, rfl, left.refines, new.only⟩, left.grows, left.size⟩, ?_⟩
  intro u bound within
  rw [split] at within
  exact within.weaken (by simp) (by simp)

/-- The end of a scope that a marker opened, with a generalisation. -/
theorem generalize {c₁ c₂ : Context} {u : Ty}
    (leads : Leads ⟨c.entries ++ .marker c.allocated :: rest, s⟩ c₁)
    (unlimited : c.supply.size = 0) (size : s.size = c.supply.size) (le : c.allocated ≤ s.used)
    (unmarked : .marker c.allocated ∉ rest) (flat : rigidIds rest = [])
    (within : InScope c₁.entries [] u)
    (gen : (generalize c.allocated (c₁.apply u)).run c₁ = (.ok t, c₂)) :
    ∃ front back pairs, c₁.entries = front ++ .marker c.allocated :: back ∧ Extends rest back ∧
      Generalizes c₁ back (c₁.apply u) pairs ∧ t = (c₁.apply u).closeOver pairs ∧
      c₂.dropFrom .marker c.allocated = ⟨front, c₁.supply.skip pairs.length⟩ ∧
      Advances c ⟨front, c₁.supply.skip pairs.length⟩ ∧ InScope front [] t := by
  have apart : ∀ e' ∈ rest, e'.declares (Entry.marker c.allocated).kind (Entry.marker c.allocated).id =
      false := by
    intro e' mem
    rw [Bool.eq_false_iff, ne_eq]
    intro here
    exact unmarked (Entry.declares_marker.1 here ▸ mem)
  obtain ⟨front, back, split, after, absent, left⟩ := leads.leave rfl apart le size
  have last : .marker c.allocated ∉ back := fun mem =>
    absurd (absent _ mem) (by simp [Entry.declares_iff])
  have unlimited₁ : c₁.supply.size = 0 := by rw [leads.size, size, unlimited]
  obtain ⟨pairs, generalizes, run⟩ := run_generalize (t := c₁.apply u) unlimited₁ split last
  rw [run] at gen
  cases gen
  refine ⟨front, back, pairs, split, after, generalizes, rfl, ?_, ?_, ?_⟩
  · exact Context.dropFrom_split (c := { c₁ with supply := c₁.supply.skip pairs.length }) split
      (Entry.declares_marker.2 rfl) absent
  · have more : c₁.allocated ≤ (c₁.supply.skip pairs.length).used := by
      simp [Context.allocated, Supply.skip]
    refine ⟨?_, left.refines, Nat.le_trans left.grows more, left.size⟩
    have valid := leads.valid
    rw [show c₁ = ⟨front ++ .marker c.allocated :: back, c₁.supply⟩ by rw [← split]] at valid
    exact valid.leave more
  · refine Ty.inScope_closeOver (leads.valid.inScope_apply within) ?_ fun i mem out => ?_
    · rw [split]
      simp [after.rigidIds_eq, flat]
    · -- what is not generalised is unsolved before the marker
      have unsolved := leads.valid.settled_apply (fun _ => within.mem_exIds) i mem
      rw [generalizes.mem] at out
      rw [split, List.mem_append, List.mem_cons] at unsolved
      rcases unsolved with here | eq | here
      · exact mem_exIds.2 (.inl here)
      · cases eq
      · exact absurd ⟨mem, here⟩ out

end Leads

section Opened

variable {c : Context} {x : Ident} {t : Ty}

theorem Context.Valid.pushTerm (valid : c.Valid) (within : InScope c.entries [] t) :
    (c.push [.term x t]).Valid :=
  valid.push (ordered_singleton.2 within) (by simp) (by simp [Entry.kind]) (Nat.le_refl _)

theorem Context.Valid.withLambda (valid : c.Valid) : (c.withLambda x).Valid := by
  refine valid.push (by simp [Ordered, Entry.Fits]) (by simp) ?_ (by simp [Supply.skip])
  simp [Entry.id, Entry.kind, Supply.skip, Context.allocated]

theorem Context.Valid.withMarker (valid : c.Valid) : c.withMarker.Valid := by
  refine valid.push (by simp [Ordered, Entry.Fits]) (by simp) ?_ (by simp [Supply.skip])
  simp [Entry.id, Supply.skip, Context.allocated]

theorem Leads.withUnsolved (valid : c.Valid) : Leads c c.withUnsolved where
  valid := by
    refine valid.push (by simp [Ordered, Entry.Fits]) (by simp) ?_ (by simp [Supply.skip])
    simp [Entry.id, Supply.skip, Context.allocated]
  ext := .push (by simp)
  grows := by simp [Context.withUnsolved, Context.allocated, Supply.skip]
  size := rfl

end Opened

/-- The types that a goal is given are in scope. -/
def Goal.Input (es : List Entry) : Goal → Prop
  | .check _ t => InScope es [] t
  | .apply f _ _ => InScope es [] f
  | _ => True

/-- The type that a goal asks for is in scope. -/
def Goal.Output (es : List Entry) : Goal → Prop
  | .check .. => True
  | .synth _ t | .apply _ _ t | .bind _ _ t => InScope es [] t

/-- Inference leads to a valid context that extends the one it started with, and the type it gives is
in scope there. -/
theorem Infers.leads {c c' : Context} {goal : Goal} (infers : Infers c goal c') (valid : c.Valid)
    (unlimited : c.supply.size = 0) (input : goal.Input c.entries) :
    Leads c c' ∧ goal.Output c'.entries := by
  induction infers with
  | @checkAll c c' e v b _ body =>
    exact ⟨(body valid.withRigid unlimited (InScope.rigidBody input)).1.dropRigid, trivial⟩
  | checkUnit => exact ⟨.refl valid, trivial⟩
  | checkLam _ body =>
    have parts := inScope_arrow.1 input
    have leads := (body (valid.pushTerm parts.1) unlimited parts.2.append_right).1
    exact ⟨leads.dropTerm, trivial⟩
  | checkLet _ _ binding body =>
    obtain ⟨first, bound⟩ := binding valid unlimited trivial
    have here := first.ext.inScope input
    have leads := (body (first.valid.pushTerm bound) (first.size.trans unlimited) here.append_right).1
    exact ⟨first.trans leads.removeTerm.1, trivial⟩
  | checkSub _ sub synth =>
    obtain ⟨first, -⟩ := synth valid unlimited trivial
    exact ⟨first.trans (sub.advances first.valid).leads, trivial⟩
  | var found =>
    obtain ⟨before, x, after, split, -, -⟩ := Context.typeOf?_eq_some found
    exact ⟨.refl valid, valid.ordered.of_term (x := x) (by simp [split])⟩
  | unit => exact ⟨.refl valid, inScope_unit⟩
  | ann within _ checked =>
    have leads := (checked valid unlimited within).1
    exact ⟨leads, leads.ext.inScope within⟩
  | @lam c c₁ c₂ x e t _ gen body =>
    have leads := (body valid.withLambda unlimited (by simp [Goal.Input, Context.withLambda])).1
    have within : InScope c₁.entries [] c.lambdaType :=
      leads.ext.inScope (by simp [Context.lambdaType, Context.withLambda])
    obtain ⟨front, back, pairs, -, -, -, -, dropped, left, output⟩ := leads.generalize unlimited rfl
      (by simp [Supply.skip, Context.allocated]) (by simp) (by simp) within gen
    rw [dropped]
    exact ⟨left.leads, output⟩
  | app _ _ fnType applied =>
    obtain ⟨first, within⟩ := fnType valid unlimited trivial
    obtain ⟨second, output⟩ := applied first.valid (first.size.trans unlimited)
      (first.valid.inScope_apply within)
    exact ⟨first.trans second, output⟩
  | letIn _ _ binding body =>
    obtain ⟨first, bound⟩ := binding valid unlimited trivial
    obtain ⟨leads, output⟩ := body (first.valid.pushTerm bound) (first.size.trans unlimited) trivial
    exact ⟨first.trans leads.removeTerm.1, leads.removeTerm.2 output⟩
  | @applyAll c c' v b t arg _ body =>
    have opened := Leads.withUnsolved valid
    have wider : InScope c.withUnsolved.entries [v.id] b := (inScope_all.1 input).append_right
    obtain ⟨leads, output⟩ := body opened.valid unlimited
      (wider.substVar (by simp [Context.withUnsolved]))
    exact ⟨opened.trans leads, output⟩
  | @applyEx c c' i arg before after split _ checked =>
    have opened := Advances.withArrow valid split
    have leads := (checked opened.valid unlimited (by simp [Goal.Input, Context.withArrow])).1
    exact ⟨opened.leads.trans leads, leads.ext.inScope (by simp [Context.withArrow])⟩
  | applyArrow _ checked =>
    have parts := inScope_arrow.1 input
    have leads := (checked valid unlimited parts.1).1
    exact ⟨leads, leads.ext.inScope parts.2⟩
  | annotated within _ checked =>
    have leads := (checked valid unlimited within).1
    exact ⟨leads, leads.ext.inScope within⟩
  | generalized _ gen synth =>
    obtain ⟨leads, within⟩ := synth valid.withMarker unlimited trivial
    obtain ⟨front, back, pairs, -, -, -, -, dropped, left, output⟩ := leads.generalize unlimited rfl
      (by simp [Supply.skip, Context.allocated]) (by simp) (by simp) within gen
    rw [dropped]
    exact ⟨left.leads, output⟩

end TermBot.Typing
