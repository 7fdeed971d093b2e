import Mathlib.Data.Finset.Image
import Mathlib.Data.Finset.Lattice.Basic
import Mathlib.Data.Fintype.EquivFin
import Mathlib.Logic.Equiv.Basic

/-!
# Declarative subtyping

Polymorphic types with bound variables as indices, and the declarative subtyping relation on them: a
quantifier on the left is instantiated with some well-formed monotype, one on the right is opened with
a new variable. Nothing is solved here, so the relation says what subtyping is, not how to find it.

The facts used later are reflexivity, inversion of a quantifier on the right for every new variable
(`Sub.all_right`), and what a monotype on one side forces (`Sub.eq_of_mono`, `Sub.arrows_le`).
-/

namespace TermBot.Typing

/-- A type with bound variables as indices and free variables as numbers. -/
inductive Poly where
  | unit
  | bvar (k : Nat)
  | fvar (x : Nat)
  | arrow (dom cod : Poly)
  | all (body : Poly)
  deriving DecidableEq, Repr

namespace Poly

/-- Puts `image` for the bound variable `k`. -/
def openAt (A : Poly) (k : Nat) (image : Poly) : Poly :=
  match A with
  | unit => unit
  | bvar j => if j = k then image else bvar j
  | fvar x => fvar x
  | arrow a b => arrow (a.openAt k image) (b.openAt k image)
  | all b => all (b.openAt (k + 1) image)

/-- The body of a quantifier with `image` for its variable. -/
def openWith (body image : Poly) : Poly := body.openAt 0 image

/-- The free variables are in `Δ` and the loose bound variables below `k`. -/
def Within (Δ : Finset Nat) (k : Nat) : Poly → Prop
  | unit => True
  | bvar j => j < k
  | fvar x => x ∈ Δ
  | arrow a b => a.Within Δ k ∧ b.Within Δ k
  | all b => b.Within Δ (k + 1)

/-- Holds no quantifier. -/
def Mono : Poly → Prop
  | all _ => False
  | arrow a b => a.Mono ∧ b.Mono
  | _ => True

/-- The number of quantifiers. -/
def quantifiers : Poly → Nat
  | arrow a b => a.quantifiers + b.quantifiers
  | all b => b.quantifiers + 1
  | _ => 0

/-- The number of arrows. -/
def arrows : Poly → Nat
  | arrow a b => a.arrows + b.arrows + 1
  | all b => b.arrows
  | _ => 0

/-- The number of nodes. -/
def size : Poly → Nat
  | arrow a b => a.size + b.size + 1
  | all b => b.size + 1
  | _ => 1

/-- Renames the free variables. -/
def rename (π : Nat → Nat) : Poly → Poly
  | unit => unit
  | bvar j => bvar j
  | fvar x => fvar (π x)
  | arrow a b => arrow (a.rename π) (b.rename π)
  | all b => all (b.rename π)

variable {Δ Δ' : Finset Nat} {k j : Nat} {A B u w : Poly} {π : Nat → Nat}

theorem Within.mono (within : A.Within Δ k) (sub : Δ ⊆ Δ') (le : k ≤ j) : A.Within Δ' j := by
  induction A generalizing k j with
  | unit => trivial
  | bvar i => exact Nat.lt_of_lt_of_le within le
  | fvar x => exact sub within
  | arrow a b iha ihb => exact ⟨iha within.1 le, ihb within.2 le⟩
  | all b ih =>
    have le' : k + 1 ≤ j + 1 := by omega
    exact ih within le'

theorem openAt_of_within (within : A.Within Δ k) (le : k ≤ j) : A.openAt j u = A := by
  induction A generalizing k j with
  | bvar i =>
    have ne : i ≠ j := by
      have lt : i < k := within
      omega
    simp [openAt, ne]
  | arrow a b iha ihb => rw [openAt, iha within.1 le, ihb within.2 le]
  | all b ih =>
    have le' : k + 1 ≤ j + 1 := by omega
    rw [openAt, ih within le']
  | _ => rfl

example : (all (arrow (bvar 0) (fvar 3))).openAt 0 unit = all (arrow (bvar 0) (fvar 3)) := by cbv

theorem within_openAt (within : A.Within Δ (k + 1)) (image : u.Within Δ 0) :
    (A.openAt k u).Within Δ k := by
  induction A generalizing k with
  | bvar i =>
    simp only [openAt]
    split
    · exact image.mono (Finset.Subset.refl _) (Nat.zero_le _)
    · have lt : i < k + 1 := within
      simp only [Within]
      omega
  | arrow a b iha ihb => exact ⟨iha within.1, ihb within.2⟩
  | all b ih => exact ih within
  | unit => trivial
  | fvar x => exact within

theorem quantifiers_openAt (mono : u.Mono) : (A.openAt k u).quantifiers = A.quantifiers := by
  have none : ∀ {u : Poly}, u.Mono → u.quantifiers = 0 := by
    intro u mono
    induction u with
    | arrow a b iha ihb => simp [quantifiers, iha mono.1, ihb mono.2]
    | all b => cases mono
    | _ => rfl
  induction A generalizing k with
  | bvar i =>
    simp only [openAt]
    split
    · exact none mono
    · rfl
  | arrow a b iha ihb => simp only [openAt, quantifiers, iha, ihb]
  | all b ih => simp only [openAt, quantifiers, ih]
  | _ => rfl

theorem size_openAt {x : Nat} : (A.openAt k (fvar x)).size = A.size := by
  induction A generalizing k with
  | bvar i =>
    simp only [openAt]
    split <;> rfl
  | arrow a b iha ihb => simp only [openAt, size, iha, ihb]
  | all b ih => simp only [openAt, size, ih]
  | _ => rfl

theorem arrows_le_openAt : A.arrows ≤ (A.openAt k u).arrows := by
  induction A generalizing k with
  | bvar i => exact Nat.zero_le _
  | arrow a b iha ihb =>
    have left := iha (k := k)
    have right := ihb (k := k)
    simp only [openAt, arrows]
    omega
  | all b ih => exact ih
  | _ => exact Nat.le_refl _

theorem rename_openAt : (A.openAt k u).rename π = (A.rename π).openAt k (u.rename π) := by
  induction A generalizing k with
  | bvar i =>
    simp only [openAt, rename]
    split <;> rfl
  | arrow a b iha ihb => simp only [openAt, rename, iha, ihb]
  | all b ih => simp only [openAt, rename, ih]
  | _ => rfl

theorem Within.rename (within : A.Within Δ k) : (A.rename π).Within (Δ.image π) k := by
  induction A generalizing k with
  | fvar x => exact Finset.mem_image_of_mem π within
  | arrow a b iha ihb => exact ⟨iha within.1, ihb within.2⟩
  | all b ih => exact ih within
  | unit => trivial
  | bvar i => exact within

theorem Mono.rename (mono : A.Mono) : (A.rename π).Mono := by
  induction A with
  | arrow a b iha ihb => exact ⟨iha mono.1, ihb mono.2⟩
  | all b => cases mono
  | _ => trivial

theorem rename_rename {ρ : Nat → Nat} : (A.rename π).rename ρ = A.rename (fun x => ρ (π x)) := by
  induction A with
  | arrow a b iha ihb => simp only [Poly.rename, iha, ihb]
  | all b ih => simp only [Poly.rename, ih]
  | _ => rfl

theorem rename_eq_self (fixed : ∀ x, π x = x) : A.rename π = A := by
  induction A with
  | fvar x => rw [Poly.rename, fixed]
  | arrow a b iha ihb => rw [Poly.rename, iha, ihb]
  | all b ih => rw [Poly.rename, ih]
  | _ => rfl

/-- A renaming that keeps the free variables of a type keeps the type. -/
theorem rename_of_within (within : A.Within Δ k) (fixed : ∀ x ∈ Δ, π x = x) : A.rename π = A := by
  induction A generalizing k with
  | fvar x => rw [Poly.rename, fixed x within]
  | arrow a b iha ihb => rw [Poly.rename, iha within.1, ihb within.2]
  | all b ih => rw [Poly.rename, ih within]
  | _ => rfl

end Poly

open TermBot.Typing.Poly

/-- Declarative subtyping in the free variables `Δ`. -/
inductive Sub : Finset Nat → Poly → Poly → Prop where
  | unit {Δ : Finset Nat} : Sub Δ .unit .unit
  | var {Δ : Finset Nat} {x : Nat} (declared : x ∈ Δ) : Sub Δ (.fvar x) (.fvar x)
  | arrow {Δ : Finset Nat} {A₁ A₂ B₁ B₂ : Poly} (dom : Sub Δ B₁ A₁) (cod : Sub Δ A₂ B₂) :
      Sub Δ (.arrow A₁ A₂) (.arrow B₁ B₂)
  | allLeft {Δ : Finset Nat} {A B τ : Poly} (mono : τ.Mono) (within : τ.Within Δ 0)
      (body : Sub Δ (A.openWith τ) B) : Sub Δ (.all A) B
  | allRight {Δ : Finset Nat} {A B : Poly} {x : Nat} (new : x ∉ Δ) (left : A.Within Δ 0)
      (right : (Poly.all B).Within Δ 0) (body : Sub (insert x Δ) A (B.openWith (.fvar x))) :
      Sub Δ A (.all B)

namespace Sub

variable {Δ : Finset Nat} {A B A₁ A₂ B₁ B₂ τ : Poly}

theorem refl (A : Poly) {Δ : Finset Nat} (within : A.Within Δ 0) : Sub Δ A A := by
  match A with
  | .unit => exact .unit
  | .bvar k => exact absurd within (Nat.not_lt_zero k)
  | .fvar x => exact .var within
  | .arrow a b => exact .arrow (refl a within.1) (refl b within.2)
  | .all b =>
    obtain ⟨x, new⟩ := Infinite.exists_notMem_finset Δ
    have wider : b.Within (insert x Δ) 1 := Within.mono within (Finset.subset_insert x Δ) (Nat.le_refl _)
    have here : (Poly.fvar x).Within (insert x Δ) 0 := Finset.mem_insert_self x Δ
    have mono : (Poly.fvar x).Mono := trivial
    have body := refl (b.openWith (.fvar x)) (within_openAt wider here)
    exact .allRight new within within (.allLeft mono here body)
termination_by A.size
decreasing_by
  all_goals simp only [size, openWith, size_openAt]
  all_goals omega

/-- Subtyping does not depend on the choice of free variables. -/
theorem rename {π : Nat → Nat} (sub : Sub Δ A B) (inj : Function.Injective π) :
    Sub (Δ.image π) (A.rename π) (B.rename π) := by
  induction sub with
  | unit => exact .unit
  | var declared => exact .var (Finset.mem_image_of_mem π declared)
  | arrow _ _ dom cod => exact .arrow dom cod
  | allLeft mono within _ body =>
    refine .allLeft mono.rename within.rename ?_
    rw [openWith, ← rename_openAt]
    exact body
  | @allRight Δ A B x new left right _ body =>
    have new' : π x ∉ Δ.image π := by
      rw [Finset.mem_image]
      rintro ⟨y, mem, eq⟩
      exact new (inj eq ▸ mem)
    refine .allRight new' left.rename right.rename ?_
    rw [Finset.image_insert, openWith, rename_openAt] at body
    exact body

/-- A quantifier on the right may be opened with any new variable. -/
theorem all_right {x : Nat} (sub : Sub Δ A (.all B)) (new : x ∉ Δ) :
    Sub (insert x Δ) A (B.openWith (.fvar x)) := by
  generalize shape : Poly.all B = C at sub
  induction sub with
  | allLeft mono within _ body =>
    exact .allLeft mono (within.mono (Finset.subset_insert x _) (Nat.le_refl _)) (body new shape)
  | @allRight Δ A B' y newY left right body =>
    cases shape
    -- swapping the two new variables moves nothing else
    have fixed : ∀ z ∈ Δ, Equiv.swap y x z = z := by
      intro z mem
      exact Equiv.swap_apply_of_ne_of_ne (fun eq => newY (eq ▸ mem)) fun eq => new (eq ▸ mem)
    have body' : B.Within Δ 1 := right
    have swapped := body.rename (Equiv.swap y x).injective
    have image : Δ.image (Equiv.swap y x) = Δ := by
      rw [Finset.image_congr (g := id) fun z mem => fixed z mem, Finset.image_id]
    rw [Finset.image_insert, image, Equiv.swap_apply_left, rename_of_within left fixed, openWith,
      rename_openAt, rename_of_within body' fixed, Poly.rename, Equiv.swap_apply_left] at swapped
    exact swapped
  | _ => cases shape

/-- A quantifier on the left of a type that is none is instantiated. -/
theorem all_left (sub : Sub Δ (.all A) B) (other : ∀ B', B ≠ .all B') :
    ∃ τ : Poly, τ.Mono ∧ τ.Within Δ 0 ∧ Sub Δ (A.openWith τ) B := by
  cases sub with
  | allLeft mono within body => exact ⟨_, mono, within, body⟩
  | allRight => exact absurd rfl (other _)

theorem arrow_inv (sub : Sub Δ (.arrow A₁ A₂) (.arrow B₁ B₂)) : Sub Δ B₁ A₁ ∧ Sub Δ A₂ B₂ := by
  cases sub with
  | arrow dom cod => exact ⟨dom, cod⟩

/-- Between monotypes subtyping is equality. -/
theorem eq_of_mono (sub : Sub Δ A B) (left : A.Mono) (right : B.Mono) : A = B := by
  induction sub with
  | unit | var => rfl
  | arrow _ _ dom cod => rw [dom right.1 left.1, cod left.2 right.2]
  | allLeft => cases left
  | allRight => cases right

/-- A type has no more arrows than a monotype that it is a subtype or supertype of. -/
theorem arrows_le (sub : Sub Δ A B) :
    (A.Mono → B.arrows ≤ A.arrows) ∧ (B.Mono → A.arrows ≤ B.arrows) := by
  induction sub with
  | unit | var => exact ⟨fun _ => Nat.le_refl _, fun _ => Nat.le_refl _⟩
  | arrow _ _ dom cod =>
    refine ⟨fun mono => ?_, fun mono => ?_⟩ <;> simp only [arrows]
    · have left := dom.2 mono.1
      have right := cod.1 mono.2
      omega
    · have left := dom.1 mono.1
      have right := cod.2 mono.2
      omega
  | @allLeft _ A _ τ _ _ _ body =>
    have opened : A.arrows ≤ (A.openWith τ).arrows := arrows_le_openAt
    exact ⟨fun mono => mono.elim, fun mono => Nat.le_trans opened (body.2 mono)⟩
  | @allRight _ _ B x _ _ _ _ body =>
    have opened : B.arrows ≤ (B.openWith (.fvar x)).arrows := arrows_le_openAt
    exact ⟨fun mono => Nat.le_trans opened (body.1 mono), fun mono => mono.elim⟩

end Sub

end TermBot.Typing
