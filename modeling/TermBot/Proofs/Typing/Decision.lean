import TermBot.Proofs.Typing.Completeness

/-!
# Subtyping decides declarative subtyping

On a context of rigid variables and types without existentials, subtyping comes to an end, succeeds
exactly on declarative subtypes, and leaves the entries as they are when it succeeds
(`subtype_decides`). Numbers are what keeps variables apart: a quantifier of the types must not have
the number of a variable in scope, or one that is still to be given out (`subtype_captured`).
-/

namespace TermBot.Typing

open Scoped

section Rigid

variable {c : Context} {es before : List Entry} {Δ : Finset Nat} {σ : Nat → Poly}

theorem ordered_of_rigid (rigid : ∀ e ∈ es, e.kind = .rigid) : Ordered before es := by
  induction es generalizing before with
  | nil => trivial
  | cons e es ih =>
    rw [List.forall_mem_cons] at rigid
    refine ⟨?_, ih rigid.2⟩
    cases e <;> simp_all [Entry.kind, Entry.Fits]

theorem sat_of_rigid (rigid : ∀ e ∈ es, e.kind = .rigid) : Sat Δ σ es := by
  induction es generalizing Δ with
  | nil => trivial
  | cons e es ih =>
    rw [List.forall_mem_cons] at rigid
    refine ⟨?_, ih rigid.2⟩
    cases e <;> simp_all [Entry.kind, Entry.Holds]

theorem valid_of_rigid (rigid : ∀ e ∈ c.entries, e.kind = .rigid)
    (below : ∀ e ∈ c.entries, e.id < c.allocated) : c.Valid where
  ordered := ordered_of_rigid rigid
  distinct := by
    have none : exIds c.entries = [] := by
      rw [exIds, List.filterMap_eq_nil_iff]
      intro e mem
      have := rigid e mem
      cases e <;> simp_all [Entry.kind, Entry.ex?]
    simp [none]
  below e mem _ := below e mem

end Rigid

/-- Subtyping decides declarative subtyping between types without existentials. -/
theorem subtype_decides {c : Context} {a b : Ty} (rigid : ∀ e ∈ c.entries, e.kind = .rigid)
    (below : ∀ e ∈ c.entries, e.id < c.allocated) (closedA : a.exOccurrences = [])
    (closedB : b.exOccurrences = []) (withinA : InScope c.entries [] a)
    (withinB : InScope c.entries [] b) (apartA : c.Apart a) (apartB : c.Apart b) :
    ∃ r c', Concludes (fun n => subtype n a b) c r c' ∧
      (r = .ok () ↔ Sub (rigidIds c.entries).toFinset a.poly b.poly) ∧
      (r = .ok () → c'.entries = c.entries) := by
  have valid : (c.resize 0).Valid := valid_of_rigid rigid below
  have settledA : (c.resize 0).Settled a := by simp [Context.Settled, closedA]
  have settledB : (c.resize 0).Settled b := by simp [Context.Settled, closedB]
  have whole : scope ∅ (c.resize 0).entries = (rigidIds c.entries).toFinset := by
    simp [scope, Context.resize]
  obtain ⟨r, c', concludes⟩ := (subtype_halts valid rfl settledA settledB).terminates
    fun le => follows_subtype le a b
  obtain ⟨d, runs⟩ := concludes.unlimited
  -- there is no existential to solve, so the entries stay as they are
  have entries : r = .ok () → c'.entries = c.entries := by
    intro ok
    have derivation := Subtyping.of_run rfl ((runs d (Nat.le_refl _)).trans (by rw [ok]))
    refine (derivation.advances valid).refines.eq_of_no_unsolved fun e mem => ?_
    rw [rigid e mem]
    decide
  refine ⟨r, c', concludes, ⟨fun ok => ?_, fun sub => ?_⟩, entries⟩
  · have derivation := Subtyping.of_run rfl ((runs d (Nat.le_refl _)).trans (by rw [ok]))
    have sat : Sat ∅ (fun _ => .unit) (c'.resize 0).entries := sat_of_rigid (by
      rw [Context.resize, entries ok]
      exact rigid)
    rw [← whole]
    exact derivation.sound valid withinA withinB apartA apartB (by simp) sat
  · rw [← whole] at sub
    obtain ⟨c₁, -, derivation, -⟩ := Subtyping.complete valid settledA settledB withinA withinB apartA
      apartB (sat_of_rigid rigid) (by simp) sub
    obtain ⟨d', runs'⟩ := derivation.exists_run rfl
    have same := (runs (max d d') (Nat.le_max_left _ _)).symm.trans (runs' _ (Nat.le_max_right _ _))
    cases same
    rfl

/-- The identity on all types is a subtype of the identity on a variable in scope. -/
theorem subtype_decides_identity :
    let x : Ident := ⟨"x", 0⟩
    let y : Ident := ⟨"y", 1⟩
    ∃ r c', Concludes (fun n => subtype n (.all y (.arrow (.var y) (.var y))) (.arrow (.var x) (.var x)))
        { entries := [.rigid x], supply := 2 } r c' ∧
      (r = .ok () ↔ Sub {0} (.all (.arrow (.bvar 0) (.bvar 0))) (.arrow (.fvar 0) (.fvar 0))) ∧
      (r = .ok () → c'.entries = [.rigid x]) := by
  intro x y
  exact subtype_decides (c := { entries := [.rigid x], supply := 2 })
    (a := .all y (.arrow (.var y) (.var y))) (b := .arrow (.var x) (.var x))
    (by decide) (by decide) rfl rfl rfl rfl (by unfold Context.Apart; decide)
    (by unfold Context.Apart; decide)

/-- A quantifier with the number of a variable in scope captures it: subtyping then succeeds on types
that are no declarative subtypes. -/
theorem subtype_captured :
    let x : Ident := ⟨"x", 0⟩
    let y : Ident := ⟨"y", 1⟩
    let z : Ident := ⟨"z", 2⟩
    let c : Context := { entries := [.rigid x], supply := 3 }
    let a : Ty := .all y (.arrow (.var y) (.all x (.arrow (.var y) (.var x))))
    let b : Ty := .arrow (.var x) (.all z (.arrow (.var z) (.var z)))
    (∀ e ∈ c.entries, e.kind = .rigid) ∧ (∀ e ∈ c.entries, e.id < c.next) ∧
      (rigidIds c.entries).Nodup ∧ a.exOccurrences = [] ∧ b.exOccurrences = [] ∧
      c.wellFormed 1 a = true ∧ c.wellFormed 1 b = true ∧
      ((subtype 9 a b).run c).1 = .ok () ∧ ¬ Sub (rigidIds c.entries).toFinset a.poly b.poly := by
  intro x y z c a b
  refine ⟨by decide, by decide, by decide, rfl, rfl, rfl, rfl, by decide +kernel, ?_⟩
  intro sub
  have sub : Sub {0} (.all (.arrow (.bvar 0) (.all (.arrow (.bvar 1) (.bvar 0)))))
      (.arrow (.fvar 0) (.all (.arrow (.bvar 0) (.bvar 0)))) := sub
  obtain ⟨τ, mono, -, opened⟩ := sub.all_left (by simp)
  obtain ⟨dom, cod⟩ := opened.arrow_inv
  have value : Poly.fvar 0 = τ := dom.eq_of_mono trivial mono
  subst value
  -- the body of the second quantifier takes the variable in scope, not the bound one
  have inner : Sub {0} (.all (.arrow (.fvar 0) (.bvar 0))) (.all (.arrow (.bvar 0) (.bvar 0))) := cod
  have body := inner.all_right (x := 1) (by simp)
  have body : Sub {1, 0} (.all (.arrow (.fvar 0) (.bvar 0))) (.arrow (.fvar 1) (.fvar 1)) := body
  obtain ⟨ρ, -, -, last⟩ := body.all_left (by simp)
  have mixed : Poly.fvar 1 = .fvar 0 := last.arrow_inv.1.eq_of_mono trivial trivial
  cases mixed

end TermBot.Typing
