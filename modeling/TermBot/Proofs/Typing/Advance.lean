import TermBot.Proofs.Typing.Rules

/-!
# What subtyping does to a context

Every derivation of instantiation and of subtyping leads from a valid context to a valid one that
refines it, and numbers are only added: `Inst.advances` and `Subtyping.advances`. Where a scope was
opened on the way, `Advances.leave` finds what is left of it.
-/

namespace TermBot.Typing

open Scoped

/-- The second context is valid, refines the first one and has given out no fewer numbers of the same
supply. -/
structure Advances (c c' : Context) : Prop where
  valid : c'.Valid
  refines : Refines c.entries c'.entries
  grows : c.allocated ≤ c'.allocated
  size : c'.supply.size = c.supply.size

namespace Advances

variable {c c' c'' : Context} {e : Entry} {es rest before after : List Entry} {s : Supply} {i : Nat} {t : Ty}

theorem refl (valid : c.Valid) : Advances c c := ⟨valid, .refl _, Nat.le_refl _, rfl⟩

theorem trans (first : Advances c c') (second : Advances c' c'') : Advances c c'' :=
  ⟨second.valid, first.refines.trans second.refines, Nat.le_trans first.grows second.grows,
    second.size.trans first.size⟩

theorem ext (advances : Advances c c') : Extends c.entries c'.entries := .of_refines advances.refines

/-- Leaving a scope that was opened with an entry and existentials after it. -/
theorem leave (advances : Advances ⟨c.entries ++ e :: rest, s⟩ c') (fixed : e.isEx = false)
    (only : ∀ e' ∈ rest, e'.isEx = true) (le : c.allocated ≤ s.used) (size : s.size = c.supply.size) :
    ∃ front back, c'.entries = front ++ e :: back ∧ Refines rest back ∧
      c'.dropFrom e.kind e.id = { c' with entries := front } ∧
      Advances c { c' with entries := front } := by
  obtain ⟨front, back, split, left, right⟩ := advances.refines.split
    (by cases e <;> simp_all [Entry.kind, Entry.isEx])
  have last : ∀ e' ∈ back, e'.declares e.kind e.id = false := by
    intro e' mem
    have new := right.isEx only e' mem
    rw [Bool.eq_false_iff, ne_eq, Entry.declares_iff]
    rintro ⟨kind, -⟩
    rw [Entry.isEx_iff, kind, ← Entry.isEx_iff, fixed] at new
    cases new
  refine ⟨front, back, split, right, ?_, ?_, left, Nat.le_trans le advances.grows,
    advances.size.trans size⟩
  · exact Context.dropFrom_split split (Entry.declares_iff.2 ⟨rfl, rfl⟩) last
  · have valid := advances.valid
    rw [show c' = ⟨front ++ e :: back, c'.supply⟩ by rw [← split]] at valid
    exact valid.leave (Nat.le_refl _)

end Advances

section Opened

variable {c : Context} {v : Ident} {i : Nat} {before after : List Entry}

theorem Context.Valid.withRigid (valid : c.Valid) : (c.withRigid v).Valid := by
  refine valid.push (by simp [Ordered, Entry.Fits]) (by simp) ?_ (by simp [Supply.skip])
  simp [Entry.id, Supply.skip, Context.allocated]

theorem Context.Valid.withEx (valid : c.Valid) : c.withEx.Valid := by
  refine valid.push (by simp [Ordered, Entry.Fits]) (by simp) ?_ (by simp [Supply.skip])
  simp [Entry.id, Supply.skip, Context.allocated]

theorem Advances.withArrow (valid : c.Valid) (split : c.entries = before ++ .unsolved i :: after) :
    Advances c (c.withArrow before i after) where
  valid := by
    rw [show c = ⟨before ++ .unsolved i :: after, c.supply⟩ by rw [← split]] at valid
    exact valid.articulate
  refines := by
    rw [split]
    have halves : Refines ([c.allocated, c.allocated + 1].map .unsolved)
        [.unsolved c.allocated, .unsolved (c.allocated + 1)] := .refl _
    exact (Refines.refl before).append (.solve (by simp [Ty.exOccurrences]) halves (.refl after))
  grows := by simp [Context.withArrow, Context.allocated, Supply.skip]
  size := rfl

/-- Leaving the scope of a quantifier that was opened with a rigid variable. -/
theorem Advances.leaveRigid {c' : Context} (advances : Advances (c.withRigid v) c') :
    ∃ front back, c'.entries = front ++ .rigid ⟨v.name, c.allocated⟩ :: back ∧ Refines [] back ∧
      c'.dropFrom .rigid c.allocated = { c' with entries := front } ∧
      Advances c { c' with entries := front } :=
  advances.leave rfl (by simp) (by simp [Supply.skip, Context.allocated]) rfl

/-- Leaving the scope of a quantifier that was opened with an existential. -/
theorem Advances.leaveEx {c' : Context} (advances : Advances c.withEx c') :
    ∃ front back, c'.entries = front ++ .marker c.allocated :: back ∧
      Refines [.unsolved (c.allocated + 1)] back ∧
      c'.dropFrom .marker c.allocated = { c' with entries := front } ∧
      Advances c { c' with entries := front } :=
  advances.leave rfl (by simp) (by simp [Supply.skip, Context.allocated]) rfl

theorem Advances.dropRigid {c' : Context} (advances : Advances (c.withRigid v) c') :
    Advances c (c'.dropFrom .rigid c.allocated) := by
  obtain ⟨front, back, -, -, dropped, left⟩ := advances.leaveRigid
  rwa [dropped]

theorem Advances.dropEx {c' : Context} (advances : Advances c.withEx c') :
    Advances c (c'.dropFrom .marker c.allocated) := by
  obtain ⟨front, back, -, -, dropped, left⟩ := advances.leaveEx
  rwa [dropped]

end Opened

/-- Instantiation leads to a valid context that refines the one it started with. -/
theorem Inst.advances {side : Side} {c c' : Context} {i : Nat} {t : Ty} (inst : Inst side c i t c')
    (valid : c.Valid) : Advances c c' := by
  induction inst with
  | @solve _ c i t before after split last mono within =>
    refine ⟨?_, by rw [split]; exact .solved, Nat.le_refl _, rfl⟩
    rw [show c = ⟨before ++ .unsolved i :: after, c.supply⟩ by rw [← split]] at valid
    exact valid.solve mono within
  | @reach _ c i j before mid after split first last out =>
    have split' : c.entries = (before ++ .unsolved i :: mid) ++ .unsolved j :: after := by simp [split]
    refine ⟨?_, by rw [split']; exact .solved, Nat.le_refl _, rfl⟩
    rw [show c = ⟨(before ++ .unsolved i :: mid) ++ .unsolved j :: after, c.supply⟩ by
      rw [← split']] at valid
    exact valid.solve rfl (by simp)
  | arrow split last other _ ended _ dom cod =>
    have opened := Advances.withArrow valid split
    have first := dom opened.valid
    exact (opened.trans first).trans (cod first.valid)
  | rigid unsolved _ body => exact (body valid.withRigid).dropRigid
  | existential unsolved _ body => exact (body valid.withEx).dropEx

/-- Subtyping leads to a valid context that refines the one it started with. -/
theorem Subtyping.advances {c c' : Context} {a b : Ty} (derivation : Subtyping c a b c')
    (valid : c.Valid) : Advances c c' := by
  induction derivation with
  | unit | var | same => exact .refl valid
  | arrow _ _ _ _ dom cod =>
    have first := dom valid
    exact first.trans (cod first.valid)
  | rigid _ body => exact (body valid.withRigid).dropRigid
  | existential other _ body => exact (body valid.withEx).dropEx
  | left _ _ _ inst | right _ _ _ _ inst => exact inst.advances valid

section Runs

variable {c c' : Context} {n i : Nat} {a b t : Ty} {side : Side}

theorem advances_instantiateOn (valid : c.Valid) (unlimited : c.supply.size = 0)
    (run : (instantiateOn side n i t).run c = (.ok (), c')) : Advances c c' :=
  (Inst.of_run unlimited run).advances valid

theorem advances_subtype (valid : c.Valid) (unlimited : c.supply.size = 0)
    (run : (subtype n a b).run c = (.ok (), c')) : Advances c c' :=
  (Subtyping.of_run unlimited run).advances valid

end Runs

end TermBot.Typing
