import TermBot.Proofs.Typing.Annotations
import TermBot.Proofs.Typing.Assignment

/-!
# The type system of Damas and Milner

A type scheme is a monotype under quantifiers. `Milner Δ Γ e A` says that the expression has the scheme
in the free type variables `Δ` and with the schemes `Γ` for its variables; `GenericInstance` is the
order of schemes in its rule of instantiation, and `Principal` says which scheme of a closed expression
is the most general one.

What follows is about the monotypes that are instances of a scheme (`Instance`), after monotypes are put
for its free variables: a generic instance has no others than the scheme (`GenericInstance.instances`),
and a scheme that has them all is at least as general (`GenericInstance.of_instances`).
-/

namespace TermBot.Typing

open Scoped

namespace Poly

/-- A monotype under quantifiers. -/
def Scheme : Poly → Prop
  | all body => body.Scheme
  | A => A.Mono

/-- Puts types for the free variables. -/
def subst (θ : Nat → Poly) : Poly → Poly
  | unit => unit
  | bvar j => bvar j
  | fvar x => θ x
  | arrow a b => arrow (a.subst θ) (b.subst θ)
  | all b => all (b.subst θ)

end Poly

/-- The monotype is an instance of the scheme, with monotypes in `Δ` for the quantified variables. -/
inductive Instance (Δ : Finset Nat) : Poly → Poly → Prop where
  | mono {τ : Poly} (mono : τ.Mono) : Instance Δ τ τ
  | all {A B τ : Poly} (mono : τ.Mono) (within : τ.Within Δ 0) (rest : Instance Δ (A.openWith τ) B) :
      Instance Δ (.all A) B

/-- `GenericInstance Δ A B` says that the scheme `B` is a generic instance of the scheme `A`: with new
variables for its quantified ones, it is an instance. -/
inductive GenericInstance : Finset Nat → Poly → Poly → Prop where
  | inst {Δ : Finset Nat} {A τ : Poly} (inst : Instance Δ A τ) : GenericInstance Δ A τ
  | all {Δ : Finset Nat} {A B : Poly} {x : Nat} (new : x ∉ Δ) (left : A.Within Δ 0)
      (right : (Poly.all B).Within Δ 0) (body : GenericInstance (insert x Δ) A (B.openWith (.fvar x))) :
      GenericInstance Δ A (.all B)

/-- The type system of Damas and Milner. There is no rule for an annotation. -/
inductive Milner : Finset Nat → Env → Expr → Poly → Prop where
  | var {Δ : Finset Nat} {Γ : Env} {x : Ident} {A : Poly} (found : Γ.lookup x.id = some A) :
      Milner Δ Γ (.var x) A
  | unit {Δ : Finset Nat} {Γ : Env} : Milner Δ Γ .unit .unit
  | lam {Δ : Finset Nat} {Γ : Env} {x : Ident} {e : Expr} {τ τ' : Poly} (mono : τ.Mono)
      (within : τ.Within Δ 0) (mono' : τ'.Mono) (body : Milner Δ ((x.id, τ) :: Γ) e τ') :
      Milner Δ Γ (.lam x e) (.arrow τ τ')
  | app {Δ : Finset Nat} {Γ : Env} {fn arg : Expr} {τ τ' : Poly} (mono : τ.Mono) (mono' : τ'.Mono)
      (fnTyped : Milner Δ Γ fn (.arrow τ τ')) (argTyped : Milner Δ Γ arg τ) :
      Milner Δ Γ (.app fn arg) τ'
  | letIn {Δ : Finset Nat} {Γ : Env} {x : Ident} {value body : Expr} {A τ : Poly} (mono : τ.Mono)
      (bound : Milner Δ Γ value A) (typed : Milner Δ ((x.id, A) :: Γ) body τ) :
      Milner Δ Γ (.letIn x none value body) τ
  | gen {Δ : Finset Nat} {Γ : Env} {e : Expr} {A : Poly} {x : Nat} (new : x ∉ Δ) (env : Γ.Within Δ)
      (within : (Poly.all A).Within Δ 0) (typed : Milner (insert x Δ) Γ e (A.openWith (.fvar x))) :
      Milner Δ Γ e (.all A)
  | inst {Δ : Finset Nat} {Γ : Env} {e : Expr} {A B : Poly} (typed : Milner Δ Γ e A)
      (inst : GenericInstance Δ A B) : Milner Δ Γ e B

/-- The scheme is the most general one of the closed expression: the expression has it, and every scheme
that the expression has is a generic instance of it. -/
structure Principal (e : Expr) (A : Poly) : Prop where
  typed : Milner ∅ [] e A
  general : ∀ {Δ : Finset Nat} {B : Poly}, Milner Δ [] e B → GenericInstance Δ A B

/-- The substitution gives the variables in `Δ` monotypes in `Δ'`. -/
def Assigns (θ : Nat → Poly) (Δ Δ' : Finset Nat) : Prop := ∀ x ∈ Δ, (θ x).Mono ∧ (θ x).Within Δ' 0

section Subst

variable {Δ Δ' : Finset Nat} {θ θ' : Nat → Poly} {k x : Nat} {A τ : Poly}

open TermBot.Typing.Poly

theorem Poly.Mono.subst (mono : A.Mono) (within : A.Within Δ k) (assigns : Assigns θ Δ Δ') :
    (A.subst θ).Mono := by
  induction A with
  | fvar x => exact (assigns x within).1
  | arrow a b iha ihb => exact ⟨iha mono.1 within.1, ihb mono.2 within.2⟩
  | all b => cases mono
  | _ => trivial

theorem mono_unit : Poly.unit.Mono := trivial

theorem mono_fvar : (Poly.fvar x).Mono := trivial

theorem Poly.Mono.scheme (mono : A.Mono) : A.Scheme := by
  cases A with
  | all b => cases mono
  | _ => exact mono

theorem Poly.Scheme.subst (scheme : A.Scheme) (within : A.Within Δ k) (assigns : Assigns θ Δ Δ') :
    (A.subst θ).Scheme := by
  induction A generalizing k with
  | all b ih => exact ih scheme within
  | fvar x => exact (assigns x within).1.scheme
  | arrow a b => exact ⟨scheme.1.subst within.1 assigns, scheme.2.subst within.2 assigns⟩
  | _ => trivial

theorem Poly.Within.subst (within : A.Within Δ k) (assigns : Assigns θ Δ Δ') : (A.subst θ).Within Δ' k := by
  induction A generalizing k with
  | fvar x => exact (assigns x within).2.mono (Finset.Subset.refl _) (Nat.zero_le _)
  | arrow a b iha ihb => exact ⟨iha within.1, ihb within.2⟩
  | all b ih => exact ih within
  | bvar j => exact within
  | unit => trivial

theorem subst_congr (within : A.Within Δ k) (same : ∀ x ∈ Δ, θ x = θ' x) : A.subst θ = A.subst θ' := by
  induction A generalizing k with
  | fvar x => exact same x within
  | arrow a b iha ihb => rw [Poly.subst, iha within.1, ihb within.2, Poly.subst]
  | all b ih => rw [Poly.subst, ih within, Poly.subst]
  | _ => rfl

theorem subst_fvar (A : Poly) : A.subst .fvar = A := by
  induction A with
  | arrow a b iha ihb => rw [Poly.subst, iha, ihb]
  | all b ih => rw [Poly.subst, ih]
  | _ => rfl

/-- Opening with a new variable, for which a type is put then. -/
theorem subst_openAt (within : A.Within Δ (k + 1)) (assigns : Assigns θ Δ Δ') (new : x ∉ Δ) :
    (A.openAt k (.fvar x)).subst (Function.update θ x τ) = (A.subst θ).openAt k τ := by
  induction A generalizing k with
  | fvar y =>
    have ne : y ≠ x := fun eq => new (eq ▸ within)
    rw [openAt, Poly.subst, Poly.subst, Function.update_of_ne ne,
      openAt_of_within (assigns y within).2 (Nat.zero_le k)]
  | bvar j =>
    rw [Poly.subst, openAt, openAt]
    split
    · simp [Poly.subst]
    · rfl
  | arrow a b iha ihb => rw [openAt, Poly.subst, iha within.1, ihb within.2, Poly.subst, openAt]
  | all b ih => rw [openAt, Poly.subst, ih within, Poly.subst, openAt]
  | unit => rfl

/-- Opening with a type, in which types are put then. -/
theorem subst_openWith (within : A.Within Δ (k + 1)) (assigns : Assigns θ Δ Δ') :
    (A.openAt k τ).subst θ = (A.subst θ).openAt k (τ.subst θ) := by
  induction A generalizing k with
  | fvar y => exact (openAt_of_within (assigns y within).2 (Nat.zero_le k)).symm
  | bvar j =>
    rw [Poly.subst, openAt, openAt]
    split <;> rfl
  | arrow a b iha ihb => rw [openAt, Poly.subst, iha within.1, ihb within.2, Poly.subst, openAt]
  | all b ih => rw [openAt, Poly.subst, ih within, Poly.subst, openAt]
  | unit => rfl

theorem Assigns.update (assigns : Assigns θ Δ Δ') (new : x ∉ Δ) (mono : τ.Mono) (within : τ.Within Δ' 0) :
    Assigns (Function.update θ x τ) (insert x Δ) Δ' := by
  intro y mem
  rcases Finset.mem_insert.1 mem with rfl | mem
  · simpa using ⟨mono, within⟩
  · have ne : y ≠ x := fun eq => new (eq ▸ mem)
    rw [Function.update_of_ne ne]
    exact assigns y mem

theorem update_same (new : x ∉ Δ) : ∀ y ∈ Δ, Function.update θ x τ y = θ y := fun y mem =>
  Function.update_of_ne (fun eq : y = x => new (eq ▸ mem)) _ _

/-- Opening with a monotype does not add or remove quantifiers. -/
theorem scheme_openAt (image : τ.Mono) : (A.openAt k τ).Scheme ↔ A.Scheme := by
  have mono : ∀ {A : Poly} {k : Nat}, (A.openAt k τ).Mono ↔ A.Mono := by
    intro A
    induction A with
    | bvar j =>
      intro k
      rw [openAt]
      split
      · exact ⟨fun _ => trivial, fun _ => image⟩
      · exact Iff.rfl
    | arrow a b iha ihb => exact and_congr iha ihb
    | _ => exact Iff.rfl
  induction A generalizing k with
  | all b ih => exact ih
  | bvar j =>
    rw [openAt]
    split
    · exact ⟨fun _ => trivial, fun _ => image.scheme⟩
    · exact Iff.rfl
  | arrow a b => exact mono (A := .arrow a b)
  | _ => exact Iff.rfl

theorem scheme_openWith (image : τ.Mono) : (A.openWith τ).Scheme ↔ (Poly.all A).Scheme := scheme_openAt image

/-- A scheme is a monotype, or a quantifier each instance of which is a scheme. -/
@[elab_as_elim]
theorem scheme_induction {P : (A : Poly) → A.Scheme → Prop} (mono : ∀ τ (mono : τ.Mono), P τ mono.scheme)
    (all : ∀ (b : Poly) (scheme : b.Scheme),
      (∀ τ (mono : τ.Mono), P (b.openWith τ) ((scheme_openWith mono).2 scheme)) → P (.all b) scheme)
    (A : Poly) (scheme : A.Scheme) : P A scheme := by
  match A with
  | .all b => exact all b scheme fun τ _ => scheme_induction mono all (b.openWith τ) _
  | .unit | .bvar k | .fvar x | .arrow a b => exact mono _ scheme
termination_by A.quantifiers
decreasing_by
  rw [openWith, quantifiers_openAt ‹_›]
  exact Nat.lt_succ_self _

end Subst

section Instances

variable {Δ Δ' : Finset Nat} {θ : Nat → Poly} {A B τ : Poly}

theorem Instance.mono_right (inst : Instance Δ A τ) : τ.Mono := by
  induction inst with
  | mono mono => exact mono
  | all _ _ _ ih => exact ih

theorem Instance.within (inst : Instance Δ A τ) (within : A.Within Δ 0) : τ.Within Δ 0 := by
  induction inst with
  | mono => exact within
  | all _ image _ ih => exact ih (Poly.within_openAt within image)

/-- A monotype has no other instance. -/
theorem Instance.eq_of_mono (inst : Instance Δ A τ) (mono : A.Mono) : τ = A := by
  cases inst with
  | mono => rfl
  | all => cases mono

/-- Every scheme has an instance. -/
theorem exists_instance (scheme : A.Scheme) : ∃ τ, Instance Δ A τ := by
  induction A, scheme using scheme_induction with
  | mono τ mono => exact ⟨τ, .mono mono⟩
  | all b _ ih =>
    obtain ⟨τ, inst⟩ := ih .unit trivial
    exact ⟨τ, .all mono_unit trivial inst⟩

theorem Instance.subst (inst : Instance Δ A τ) (within : A.Within Δ 0) (assigns : Assigns θ Δ Δ') :
    Instance Δ' (A.subst θ) (τ.subst θ) := by
  induction inst with
  | mono mono => exact .mono (mono.subst within assigns)
  | @all A B τ mono image _ ih =>
    refine .all (mono.subst image assigns) (image.subst assigns) ?_
    have opened := ih (Poly.within_openAt within image)
    rwa [Poly.openWith, subst_openWith within assigns] at opened

/-- A generic instance has no other instances. -/
theorem GenericInstance.instances (generic : GenericInstance Δ A B) (within : A.Within Δ 0)
    (assigns : Assigns θ Δ Δ') (inst : Instance Δ' (B.subst θ) τ) : Instance Δ' (A.subst θ) τ := by
  induction generic generalizing θ with
  | inst first =>
    have mono := first.mono_right.subst (first.within within) assigns
    rw [inst.eq_of_mono mono]
    exact first.subst within assigns
  | @all Δ A B x new left right _ ih =>
    cases inst with
    | mono mono => cases mono
    | @all _ _ τ₀ mono image rest =>
      have wider := left.mono (Finset.subset_insert x Δ) (Nat.le_refl 0)
      rw [← subst_congr left (update_same new)]
      refine ih wider (assigns.update new mono image) ?_
      rwa [Poly.openWith, subst_openAt right assigns new]

theorem GenericInstance.within (generic : GenericInstance Δ A B) (within : A.Within Δ 0) : B.Within Δ 0 := by
  cases generic with
  | inst inst => exact inst.within within
  | all _ _ right _ => exact right

theorem GenericInstance.scheme (generic : GenericInstance Δ A B) : B.Scheme := by
  induction generic with
  | inst inst => exact inst.mono_right.scheme
  | all _ _ _ _ ih => exact (scheme_openWith mono_fvar).1 ih

/-- A scheme that has all instances of another one, in any further variables too, has it as a generic
instance. -/
theorem GenericInstance.of_instances (scheme : B.Scheme) (left : A.Within Δ 0) (right : B.Within Δ 0)
    (instances : ∀ {Δ' τ}, Δ ⊆ Δ' → Instance Δ' B τ → Instance Δ' A τ) : GenericInstance Δ A B := by
  induction B, scheme using scheme_induction generalizing Δ with
  | mono τ mono => exact .inst (instances (Finset.Subset.refl _) (.mono mono))
  | all b _ ih =>
    obtain ⟨x, new⟩ := Infinite.exists_notMem_finset Δ
    have sub : Δ ⊆ insert x Δ := Finset.subset_insert x Δ
    have here : (Poly.fvar x).Within (insert x Δ) 0 := Finset.mem_insert_self x Δ
    have wider : b.Within (insert x Δ) 1 := Poly.Within.mono right sub (Nat.le_refl _)
    refine .all new left right (ih (.fvar x) mono_fvar (left.mono sub (Nat.le_refl _))
      (Poly.within_openAt wider here) fun more inst => ?_)
    exact instances (sub.trans more) (.all mono_fvar (here.mono more (Nat.le_refl _)) inst)

/-- An instance is a declarative supertype. -/
theorem Instance.sub (inst : Instance Δ A τ) (within : A.Within Δ 0) : Sub Δ A τ := by
  induction inst with
  | mono => exact .refl _ within
  | all mono image _ ih => exact .allLeft mono image (ih (Poly.within_openAt within image))

/-- A monotype that is a declarative supertype of a scheme is an instance. -/
theorem Instance.of_sub (sub : Sub Δ A τ) (scheme : A.Scheme) (mono : τ.Mono) : Instance Δ A τ := by
  induction A, scheme using scheme_induction with
  | mono A here =>
    rw [← sub.eq_of_mono here mono]
    exact .mono here
  | all b _ ih =>
    have other : ∀ B, τ ≠ .all B := by
      rintro B rfl
      exact mono
    obtain ⟨τ₀, image, within, opened⟩ := sub.all_left other
    exact .all image within (ih τ₀ image opened)

/-- A generic instance stays one after a substitution. -/
theorem GenericInstance.subst (generic : GenericInstance Δ A B) (within : A.Within Δ 0)
    (assigns : Assigns θ Δ Δ') : GenericInstance Δ' (A.subst θ) (B.subst θ) := by
  have right := generic.within within
  refine .of_instances (generic.scheme.subst right assigns) (within.subst assigns) (right.subst assigns)
    fun more inst => generic.instances within (fun x mem => ?_) inst
  exact ⟨(assigns x mem).1, (assigns x mem).2.mono more (Nat.le_refl _)⟩

/-- What a quantifier is opened with is a generic instance. -/
theorem GenericInstance.openWith (mono : τ.Mono) (image : τ.Within Δ 0) (scheme : (Poly.all A).Scheme)
    (within : (Poly.all A).Within Δ 0) : GenericInstance Δ (.all A) (A.openWith τ) :=
  .of_instances ((scheme_openWith mono).2 scheme) within (Poly.within_openAt within image)
    fun more inst => .all mono (image.mono more (Nat.le_refl _)) inst

end Instances

/-- The variables have schemes in `Δ`. -/
def Env.Schemes (Δ : Finset Nat) (Γ : Env) : Prop := ∀ p ∈ Γ, p.2.Scheme ∧ p.2.Within Δ 0

/-- Puts types for the free type variables. -/
def Env.subst (θ : Nat → Poly) (Γ : Env) : Env := Γ.map fun p => (p.1, p.2.subst θ)

section Env

variable {Δ Δ' : Finset Nat} {Γ : Env} {θ θ' : Nat → Poly} {A : Poly} {x : Nat}

theorem Env.Schemes.cons (schemes : Γ.Schemes Δ) (scheme : A.Scheme) (within : A.Within Δ 0) :
    Env.Schemes Δ ((x, A) :: Γ) := List.forall_mem_cons.2 ⟨⟨scheme, within⟩, schemes⟩

theorem Env.Schemes.mem (schemes : Γ.Schemes Δ) (found : Γ.lookup x = some A) :
    A.Scheme ∧ A.Within Δ 0 := by
  obtain ⟨before, after, rfl, -⟩ := List.lookup_eq_some_iff.1 found
  exact schemes (x, A) (by simp)

theorem Env.Schemes.within (schemes : Γ.Schemes Δ) : Γ.Within Δ := fun p mem => (schemes p mem).2

theorem Env.Schemes.mono (schemes : Γ.Schemes Δ) (sub : Δ ⊆ Δ') : Γ.Schemes Δ' := fun p mem =>
  ⟨(schemes p mem).1, (schemes p mem).2.mono sub (Nat.le_refl _)⟩

theorem Env.Schemes.subst (schemes : Γ.Schemes Δ) (assigns : Assigns θ Δ Δ') : (Γ.subst θ).Schemes Δ' := by
  intro p mem
  obtain ⟨q, here, rfl⟩ := List.mem_map.1 mem
  obtain ⟨scheme, within⟩ := schemes q here
  exact ⟨scheme.subst within assigns, within.subst assigns⟩

theorem Env.lookup_subst : (Γ.subst θ).lookup x = (Γ.lookup x).map (·.subst θ) := by
  induction Γ with
  | nil => rfl
  | cons p Γ ih =>
    obtain ⟨y, B⟩ := p
    rw [Env.subst, List.map_cons, List.lookup_cons, List.lookup_cons]
    cases x == y with
    | true => rfl
    | false => exact ih

theorem Env.subst_congr (within : Γ.Within Δ) (same : ∀ x ∈ Δ, θ x = θ' x) : Γ.subst θ = Γ.subst θ' :=
  List.map_congr_left fun p mem => by rw [Typing.subst_congr (within p mem) same]

theorem Env.subst_fvar (Γ : Env) : Γ.subst .fvar = Γ := by
  rw [Env.subst, List.map_congr_left (g := id) fun p _ => by rw [Typing.subst_fvar, id], List.map_id]

end Env

section Milner

variable {Δ Δ' : Finset Nat} {Γ : Env} {θ : Nat → Poly} {e : Expr} {A : Poly}

/-- What has a type in the system of Damas and Milner has a scheme. -/
theorem Milner.scheme (typed : Milner Δ Γ e A) (schemes : Γ.Schemes Δ) : A.Scheme ∧ A.Within Δ 0 := by
  induction typed with
  | var found => exact schemes.mem found
  | unit => exact ⟨trivial, trivial⟩
  | lam mono within mono' _ ih =>
    exact ⟨⟨mono, mono'⟩, within, (ih (schemes.cons mono.scheme within)).2⟩
  | app _ mono' _ _ ihFn _ => exact ⟨mono'.scheme, (ihFn schemes).2.2⟩
  | letIn _ _ _ ihBound ihBody =>
    obtain ⟨scheme, within⟩ := ihBound schemes
    exact ihBody (schemes.cons scheme within)
  | @gen Δ Γ e A x new env within _ ih =>
    have wider := schemes.mono (Finset.subset_insert x Δ)
    exact ⟨(scheme_openWith mono_fvar).1 (ih wider).1, within⟩
  | inst _ generic ih => exact ⟨generic.scheme, generic.within (ih schemes).2⟩

/-- An expression with a type has no annotations. -/
theorem Milner.annotations (typed : Milner Δ Γ e A) : e.annotations = [] := by
  induction typed with
  | var | unit => rfl
  | lam _ _ _ _ ih => exact ih
  | app _ _ _ _ ihFn ihArg => rw [Expr.annotations, ihFn, ihArg, List.append_nil]
  | letIn _ _ _ ihBound ihBody =>
    rw [Expr.annotations, ihBound, ihBody]
    rfl
  | gen _ _ _ _ ih | inst _ _ ih => exact ih

/-- Monotypes may be put for the free type variables of a typing. -/
theorem Milner.subst (typed : Milner Δ Γ e A) (schemes : Γ.Schemes Δ) (assigns : Assigns θ Δ Δ') :
    Milner Δ' (Γ.subst θ) e (A.subst θ) := by
  induction typed generalizing θ Δ' with
  | var found => exact .var (by rw [Env.lookup_subst, found]; rfl)
  | unit => exact .unit
  | @lam Δ Γ x e τ τ' mono within mono' body ih =>
    have inner := schemes.cons (x := x.id) mono.scheme within
    exact .lam (mono.subst within assigns) (within.subst assigns)
      (mono'.subst (body.scheme inner).2 assigns) (ih inner assigns)
  | app mono mono' fnTyped argTyped ihFn ihArg =>
    exact .app (mono.subst (argTyped.scheme schemes).2 assigns)
      (mono'.subst (fnTyped.scheme schemes).2.2 assigns) (ihFn schemes assigns) (ihArg schemes assigns)
  | @letIn Δ Γ x value body A τ mono bound typed ihBound ihBody =>
    obtain ⟨scheme, within⟩ := bound.scheme schemes
    have inner := schemes.cons (x := x.id) scheme within
    exact .letIn (mono.subst (typed.scheme inner).2 assigns) (ihBound schemes assigns) (ihBody inner assigns)
  | @gen Δ Γ e A x new env within _ ih =>
    -- the variable may be one of the new context, so another one is generalised
    obtain ⟨y, newY⟩ := Infinite.exists_notMem_finset Δ'
    have sub : Δ' ⊆ insert y Δ' := Finset.subset_insert y Δ'
    have wider : Assigns θ Δ (insert y Δ') := fun z mem =>
      ⟨(assigns z mem).1, (assigns z mem).2.mono sub (Nat.le_refl _)⟩
    have opened := ih (schemes.mono (Finset.subset_insert x Δ))
      (wider.update new mono_fvar (Finset.mem_insert_self y Δ'))
    rw [Poly.openWith, subst_openAt within assigns new, Env.subst_congr env (update_same new)] at opened
    exact .gen newY (schemes.subst assigns).within (within.subst assigns) opened
  | inst typed generic ih =>
    exact .inst (ih schemes assigns) (generic.subst (typed.scheme schemes).2 assigns)

/-- More type variables in scope do no harm. -/
theorem Milner.weaken (typed : Milner Δ Γ e A) (schemes : Γ.Schemes Δ) (sub : Δ ⊆ Δ') :
    Milner Δ' Γ e A := by
  have assigns : Assigns .fvar Δ Δ' := fun x mem => ⟨mono_fvar, sub mem⟩
  have typed := typed.subst schemes assigns
  rwa [Env.subst_fvar, subst_fvar] at typed

/-- The body of a binding may have a scheme. -/
theorem Milner.letScheme {x : Ident} {value : Expr} {B : Poly} (bound : Milner Δ Γ value A)
    (typed : Milner Δ ((x.id, A) :: Γ) e B) (schemes : Γ.Schemes Δ) :
    Milner Δ Γ (.letIn x none value e) B := by
  obtain ⟨schemeA, withinA⟩ := bound.scheme schemes
  have inner := schemes.cons (x := x.id) schemeA withinA
  obtain ⟨scheme, within⟩ := typed.scheme inner
  induction B, scheme using scheme_induction generalizing Δ with
  | mono τ mono => exact .letIn mono bound typed
  | all b scheme ih =>
    obtain ⟨y, new⟩ := Infinite.exists_notMem_finset Δ
    have sub : Δ ⊆ insert y Δ := Finset.subset_insert y Δ
    have here : (Poly.fvar y).Within (insert y Δ) 0 := Finset.mem_insert_self y Δ
    have wider : (Poly.all b).Within (insert y Δ) 0 := within.mono sub (Nat.le_refl _)
    have opened := (typed.weaken inner sub).inst (.openWith mono_fvar here scheme wider)
    exact .gen new schemes.within within (ih (.fvar y) mono_fvar (bound.weaken schemes sub) opened
      (schemes.mono sub) (withinA.mono sub (Nat.le_refl _)) (inner.mono sub) (Poly.within_openAt wider here))

end Milner

end TermBot.Typing
