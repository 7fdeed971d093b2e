import TermBot.Proofs.Typing.Apply
import TermBot.Proofs.Typing.Declarative

/-!
# Types as declarative types

`Ty.read σ bound t` reads a type of the checker as a declarative type: existentials stand for what the
valuation `σ` gives them, variables in `bound` become indices. Substitution for a bound variable is
opening (`read_substVar`), as long as no binder captures what is put in.
-/

namespace TermBot.Scoped.Ty

open Typing

/-- The declarative type that a type stands for, with `bound` the bound variables, innermost first. -/
def read (σ : Nat → Poly) (bound : List Nat) : Ty → Poly
  | unit => .unit
  | var v => if v.id ∈ bound then .bvar (bound.idxOf v.id) else .fvar v.id
  | ex i => σ i
  | arrow a b => .arrow (a.read σ bound) (b.read σ bound)
  | all v b => .all (b.read σ (v.id :: bound))

/-- The declarative type of a type without existentials. -/
def poly (t : Ty) : Poly := t.read (fun _ => .unit) []

variable {σ σ' : Nat → Poly} {Δ : Finset Nat} {bound : List Nat} {t : Ty} {es : List Entry} {v : Nat}

theorem read_congr (same : ∀ i ∈ t.exOccurrences, σ i = σ' i) : t.read σ bound = t.read σ' bound := by
  induction t generalizing bound with
  | ex i => exact same i (by simp [exOccurrences])
  | arrow a b iha ihb =>
    simp only [read]
    rw [iha fun i mem => same i (by simp [exOccurrences, mem]),
      ihb fun i mem => same i (by simp [exOccurrences, mem])]
  | all v b ih => simp only [read, ih same]
  | _ => rfl

example : (arrow (ex 1) unit).read .fvar [] = (arrow (ex 1) unit).read (fun _ => .fvar 1) [] := by cbv

theorem read_within (within : InScope es bound t) (rigids : ∀ x ∈ rigidIds es, x ∈ Δ)
    (images : ∀ i ∈ t.exOccurrences, (σ i).Within Δ 0) : (t.read σ bound).Within Δ bound.length := by
  induction t generalizing bound with
  | unit => trivial
  | var x =>
    rw [inScope_var] at within
    simp only [read]
    split
    · rename_i mem
      exact List.idxOf_lt_length_of_mem mem
    · rename_i notMem
      exact rigids _ (within.resolve_left notMem)
  | ex i => exact (images i (by simp [exOccurrences])).mono (Finset.Subset.refl _) (Nat.zero_le _)
  | arrow a b iha ihb =>
    rw [inScope_arrow] at within
    exact ⟨iha within.1 fun i mem => images i (by simp [exOccurrences, mem]),
      ihb within.2 fun i mem => images i (by simp [exOccurrences, mem])⟩
  | all x b ih => exact ih (inScope_all.1 within) images

theorem read_mono (mono : t.isMono = true) (images : ∀ i ∈ t.exOccurrences, (σ i).Mono) :
    (t.read σ bound).Mono := by
  induction t with
  | var x =>
    simp only [read]
    split <;> trivial
  | ex i => exact images i (by simp [exOccurrences])
  | arrow a b iha ihb =>
    simp only [isMono, Bool.and_eq_true] at mono
    exact ⟨iha mono.1 fun i mem => images i (by simp [exOccurrences, mem]),
      ihb mono.2 fun i mem => images i (by simp [exOccurrences, mem])⟩
  | all x b => simp [isMono] at mono
  | unit => trivial

theorem isMono_of_read (mono : (t.read σ bound).Mono) : t.isMono = true := by
  induction t with
  | arrow a b iha ihb => simp [isMono, iha mono.1, ihb mono.2]
  | all v b => cases mono
  | _ => rfl

/-- The value of an existential is no larger than the type it occurs in. -/
theorem arrows_le_read {i : Nat} (bound : List Nat) (mem : i ∈ t.exOccurrences) :
    (σ i).arrows ≤ (t.read σ bound).arrows := by
  induction t generalizing bound with
  | ex j =>
    simp only [exOccurrences, List.mem_singleton] at mem
    simp [read, mem]
  | arrow a b iha ihb =>
    simp only [exOccurrences, List.mem_append] at mem
    simp only [read, Poly.arrows]
    rcases mem with mem | mem
    · have := iha bound mem
      omega
    · have := ihb bound mem
      omega
  | all v b ih => exact ih _ mem
  | _ => simp [exOccurrences] at mem

/-- A type without quantifiers does not see bound variables that it does not mention. -/
theorem read_bound (mono : t.isMono = true) (within : InScope es [] t)
    (apart : ∀ x ∈ bound, x ∉ rigidIds es) : t.read σ bound = t.read σ [] := by
  induction t with
  | var x =>
    rw [inScope_var] at within
    have notBound : x.id ∉ bound := fun mem => apart _ mem (within.resolve_left (by simp))
    simp [read, notBound]
  | arrow a b iha ihb =>
    simp only [isMono, Bool.and_eq_true] at mono
    rw [inScope_arrow] at within
    rw [read, iha mono.1 within.1, ihb mono.2 within.2]
    rfl
  | all x b => simp [isMono] at mono
  | _ => rfl

/-- A variable that is bound again further in is never seen. -/
theorem read_shadowed (mem : v ∈ bound) : t.read σ (bound ++ [v]) = t.read σ bound := by
  induction t generalizing bound with
  | var x =>
    have inside : x.id ∈ bound ++ [v] ↔ x.id ∈ bound := by
      simp only [List.mem_append, List.mem_singleton]
      exact ⟨fun h => h.elim id (· ▸ mem), .inl⟩
    simp only [read, inside]
    split
    · rename_i here
      rw [List.idxOf_append_of_mem here]
    · rfl
  | arrow a b iha ihb => simp only [read, iha mem, ihb mem]
  | all x b ih =>
    have deeper : b.read σ (x.id :: (bound ++ [v])) = b.read σ (x.id :: bound) :=
      ih (List.mem_cons_of_mem _ mem)
    simp only [read, deeper]
  | _ => rfl

theorem mem_or_binders {x : Ident} {b : Ty} {y : Nat} (mem : y ∈ x.id :: bound ∨ y ∈ b.binders) :
    y ∈ bound ∨ y ∈ (all x b).binders := by
  simp only [List.mem_cons, binders] at mem ⊢
  tauto

/-- Substitution for the outermost bound variable is opening. The image is read as `U` below every
binder of the type, so none of them captures it. -/
theorem read_substVar {image : Ty} {U : Poly} (within : InScope es (bound ++ [v]) t)
    (rigids : ∀ x ∈ rigidIds es, x ∈ Δ) (images : ∀ i ∈ t.exOccurrences, (σ i).Within Δ 0)
    (free : ∀ bound', (∀ x ∈ bound', x ∈ bound ∨ x ∈ t.binders) → image.read σ bound' = U) :
    v ∉ bound → (t.substVar v image).read σ bound = (t.read σ (bound ++ [v])).openAt bound.length U := by
  induction t generalizing bound with
  | unit =>
    intro _
    rfl
  | var x =>
    intro new
    simp only [substVar]
    split
    · rename_i eq
      have place : (bound ++ [v]).idxOf v = bound.length := by
        rw [List.idxOf_append_of_notMem new, List.idxOf_cons_self]
        rfl
      rw [free bound fun x mem => .inl mem]
      simp [read, eq, place, Poly.openAt]
    · rename_i ne
      have inside : x.id ∈ bound ++ [v] ↔ x.id ∈ bound := by simp [ne]
      simp only [read, inside]
      split
      · rename_i here
        have lt := List.idxOf_lt_length_of_mem here
        rw [List.idxOf_append_of_mem here, Poly.openAt, if_neg (by omega)]
      · rfl
  | ex i =>
    intro _
    exact (Poly.openAt_of_within (images i (by simp [exOccurrences])) (Nat.zero_le _)).symm
  | arrow a b iha ihb =>
    intro new
    rw [inScope_arrow] at within
    simp only [substVar, read, Poly.openAt]
    rw [iha within.1 (fun i mem => images i (by simp [exOccurrences, mem]))
        (fun bound' sub => free bound' fun x mem => (sub x mem).imp id (by simp [binders]; tauto)) new,
      ihb within.2 (fun i mem => images i (by simp [exOccurrences, mem]))
        (fun bound' sub => free bound' fun x mem => (sub x mem).imp id (by simp [binders]; tauto)) new]
  | all x b ih =>
    intro new
    rw [inScope_all] at within
    simp only [substVar]
    split
    · rename_i eq
      -- the variable is bound again, and opening does not reach below its new binder
      subst eq
      have shadowed : b.read σ (x.id :: bound ++ [x.id]) = b.read σ (x.id :: bound) :=
        read_shadowed List.mem_cons_self
      have closed : (b.read σ (x.id :: bound)).Within Δ (x.id :: bound).length := by
        refine read_within (within.mono (fun _ mem => .inr mem) (fun _ _ mem => mem) ?_) rigids images
        simp only [List.mem_cons, List.mem_append]
        tauto
      simp only [read, Poly.openAt]
      rw [show x.id :: (bound ++ [x.id]) = x.id :: bound ++ [x.id] from rfl, shadowed,
        Poly.openAt_of_within closed (by simp)]
    · rename_i ne
      have new' : v ∉ x.id :: bound := by
        simp only [List.mem_cons, not_or]
        exact ⟨fun eq => ne eq.symm, new⟩
      simp only [read, Poly.openAt]
      rw [ih within images (fun bound' sub => free bound' fun y mem => mem_or_binders (sub y mem)) new']
      rfl

/-- Substitution in the body of a quantifier is opening. -/
theorem read_open {image : Ty} {U : Poly} (within : InScope es [v] t)
    (rigids : ∀ x ∈ rigidIds es, x ∈ Δ) (images : ∀ i ∈ t.exOccurrences, (σ i).Within Δ 0)
    (free : ∀ bound', (∀ x ∈ bound', x ∈ t.binders) → image.read σ bound' = U) :
    (t.substVar v image).read σ [] = (t.read σ [v]).openWith U := by
  refine @read_substVar σ Δ [] t es v image U within rigids images (fun bound' sub => ?_) (by simp)
  exact free bound' fun x mem => (sub x mem).resolve_left (by simp)

theorem read_mapEx {f : Nat → Ty} (images : ∀ i ∈ t.exOccurrences, ∀ bound',
      (∀ x ∈ bound', x ∈ bound ∨ x ∈ t.binders) → (f i).read σ bound' = σ' i) :
    (t.mapEx f).read σ bound = t.read σ' bound := by
  induction t generalizing bound with
  | ex i => exact images i (by simp [exOccurrences]) bound fun x mem => .inl mem
  | arrow a b iha ihb =>
    simp only [mapEx, read]
    rw [iha fun i mem bound' sub => images i (by simp [exOccurrences, mem]) bound'
        fun x here => (sub x here).imp id (by simp [binders]; tauto),
      ihb fun i mem bound' sub => images i (by simp [exOccurrences, mem]) bound'
        fun x here => (sub x here).imp id (by simp [binders]; tauto)]
  | all v b ih =>
    simp only [mapEx, read]
    rw [ih fun i mem bound' sub => images i mem bound' fun x here => mem_or_binders (sub x here)]
  | _ => rfl

theorem read_rename {π : Nat → Nat} (within : InScope es bound t) (fixed : ∀ x ∈ rigidIds es, π x = x) :
    (t.read σ bound).rename π = t.read (fun i => (σ i).rename π) bound := by
  induction t generalizing bound with
  | var x =>
    simp only [read]
    split
    · rfl
    · rename_i notBound
      rw [Poly.rename, fixed _ ((inScope_var.1 within).resolve_left notBound)]
  | arrow a b iha ihb =>
    rw [inScope_arrow] at within
    rw [read, Poly.rename, iha within.1, ihb within.2]
    rfl
  | all x b ih =>
    rw [read, Poly.rename, ih (inScope_all.1 within)]
    rfl
  | _ => rfl

/-- What a type stands for determines the values of its existentials. -/
theorem eq_of_read_eq {i : Nat} (same : t.read σ bound = t.read σ' bound) (mem : i ∈ t.exOccurrences) :
    σ i = σ' i := by
  induction t generalizing bound with
  | ex j =>
    simp only [exOccurrences, List.mem_singleton] at mem
    exact mem ▸ same
  | arrow a b iha ihb =>
    have both := Poly.arrow.inj same
    exact (List.mem_append.1 mem).elim (iha both.1) (ihb both.2)
  | all v b ih => exact ih (Poly.all.inj same) mem
  | _ => simp [exOccurrences] at mem

end TermBot.Scoped.Ty
