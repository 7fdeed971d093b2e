import TermBot.Proofs.Typing.Valuation

/-!
# Subtyping is sound

Under every valuation that satisfies the context a derivation leaves, the types it relates are
declarative subtypes: `Inst.sound` and `Subtyping.sound`. The variables `Δ` stand for what is in scope
outside of the context; their numbers are not given out during the derivation.
-/

namespace TermBot.Typing

open Scoped

section Opened

variable {Δ : Finset Nat} {σ : Nat → Poly} {c c' : Context} {v : Ident} {b : Ty} {A B : Poly}

theorem InScope.rigidBody (within : InScope c.entries [] (.all v b)) :
    InScope (c.withRigid v).entries [] (c.rigidBody v b) := by
  have wider : InScope (c.withRigid v).entries [v.id] b := (inScope_all.1 within).append_right
  exact wider.substVar (by simp [Context.withRigid])

theorem InScope.exBody (within : InScope c.entries [] (.all v b)) :
    InScope c.withEx.entries [] (c.exBody v b) := by
  have wider : InScope c.withEx.entries [v.id] b := (inScope_all.1 within).append_right
  exact wider.substVar (by simp [Context.withEx])

theorem scope_withRigid : scope Δ (c.withRigid v).entries = insert c.allocated (scope Δ c.entries) := by
  ext x
  simp [Context.withRigid]
  tauto

theorem scope_withEx : scope Δ c.withEx.entries = scope Δ c.entries :=
  scope_congr (by simp [Context.withEx])

theorem allocated_notMem_scope (valid : c.Valid) (outer : c.allocated ∉ Δ) :
    c.allocated ∉ scope Δ c.entries := by
  rw [mem_scope, not_or]
  exact ⟨outer, fun mem => absurd (valid.rigid_lt mem) (Nat.lt_irrefl _)⟩

/-- A valuation of the first entries extends to the whole context. -/
theorem Context.Valid.extend_sat {front rest : List Entry} (valid : c.Valid)
    (split : c.entries = front ++ rest) (sat : Sat Δ σ front) :
    ∃ σ', Sat Δ σ' c.entries ∧ ∀ i ∈ exIds front, σ' i = σ i := by
  have ordered := valid.ordered
  have distinct := valid.distinct
  rw [split] at ordered distinct ⊢
  obtain ⟨σ', sat', others, -⟩ :=
    sat.extend (fun _ => .unit) ordered distinct fun _ _ => ⟨trivial, trivial⟩
  exact ⟨σ', sat', others⟩

/-- The rule for a quantifier on the right, from its body opened with a rigid variable. -/
theorem Sub.of_rigidBody (sat : Sat Δ σ c.entries) (valid : c.Valid) (base : ∀ x ∈ Δ, c.allocated < x)
    (within : InScope c.entries [] (.all v b)) (apart : c.Apart (.all v b))
    (left : A.Within (scope Δ c.entries) 0)
    (body : Sub (scope Δ (c.withRigid v).entries) A ((c.rigidBody v b).read σ [])) :
    Sub (scope Δ c.entries) A ((Ty.all v b).read σ []) := by
  rw [scope_withRigid, sat.read_rigidBody within apart] at body
  exact .allRight (allocated_notMem_scope valid fun mem => Nat.lt_irrefl _ (base _ mem)) left (sat.within within) body

/-- The rule for a quantifier on the left, from its body opened with an existential. -/
theorem Sub.of_exBody (sat : Sat Δ σ c.withEx.entries) (within : InScope c.entries [] (.all v b))
    (body : Sub (scope Δ c.withEx.entries) ((c.exBody v b).read σ []) B) :
    Sub (scope Δ c.entries) ((Ty.all v b).read σ []) B := by
  have here : c.allocated + 1 ∈ exIds c.withEx.entries := by simp [Context.withEx]
  have image := sat.ex here
  rw [scope_withEx] at body image
  rw [(sat_append.1 sat).1.read_exBody within] at body
  exact .allLeft image.1 image.2 body

end Opened

theorem Advances.scope_eq {Δ : Finset Nat} {c c' : Context} (advances : Advances c c') :
    scope Δ c'.entries = scope Δ c.entries := scope_congr advances.ext.rigidIds_eq

theorem allocated_dropFrom {c : Context} {k : EntryKind} {i : Nat} :
    (c.dropFrom k i).allocated = c.allocated := by
  rw [Context.dropFrom]
  split <;> rfl

/-- A valuation of what is left of a scope that was opened with a rigid variable extends to the
scope. -/
theorem Advances.reenterRigid {Δ : Finset Nat} {σ : Nat → Poly} {c c' : Context} {v : Ident}
    (advances : Advances (c.withRigid v) c') (sat : Sat Δ σ (c'.dropFrom .rigid c.allocated).entries) :
    ∃ σ', Sat Δ σ' c'.entries ∧ ∀ j ∈ exIds c.entries, σ' j = σ j := by
  obtain ⟨front, back, split, -, dropped, left⟩ := advances.leaveRigid
  rw [dropped] at sat
  obtain ⟨σ', sat', same⟩ := advances.valid.extend_sat split sat
  exact ⟨σ', sat', fun j mem => same j (left.refines.exIds_subset mem)⟩

/-- A valuation of what is left of a scope that was opened with an existential extends to the
scope. -/
theorem Advances.reenterEx {Δ : Finset Nat} {σ : Nat → Poly} {c c' : Context}
    (advances : Advances c.withEx c') (sat : Sat Δ σ (c'.dropFrom .marker c.allocated).entries) :
    ∃ σ', Sat Δ σ' c'.entries ∧ ∀ j ∈ exIds c.entries, σ' j = σ j := by
  obtain ⟨front, back, split, -, dropped, left⟩ := advances.leaveEx
  rw [dropped] at sat
  obtain ⟨σ', sat', same⟩ := advances.valid.extend_sat split sat
  exact ⟨σ', sat', fun j mem => same j (left.refines.exIds_subset mem)⟩

/-- The types are declarative subtypes, in the order of the side. -/
def Side.Relates (side : Side) (Δ : Finset Nat) (A B : Poly) : Prop :=
  match side with
  | .left => Sub Δ A B
  | .right => Sub Δ B A

theorem Side.Relates.refl {side : Side} {Δ : Finset Nat} {A : Poly} (within : A.Within Δ 0) :
    side.Relates Δ A A := by
  cases side <;> exact Sub.refl A within

theorem Side.Relates.arrow {side : Side} {Δ : Finset Nat} {A₁ A₂ B₁ B₂ : Poly}
    (dom : side.flip.Relates Δ A₁ B₁) (cod : side.Relates Δ A₂ B₂) :
    side.Relates Δ (.arrow A₁ A₂) (.arrow B₁ B₂) := by
  cases side <;> exact Sub.arrow dom cod

/-- Instantiation is sound. -/
theorem Inst.sound {side : Side} {c c' : Context} {i : Nat} {t : Ty} (inst : Inst side c i t c')
    {Δ : Finset Nat} {σ : Nat → Poly} (valid : c.Valid) (within : InScope c.entries [] t)
    (apart : c.Apart t) (base : ∀ x ∈ Δ, c'.allocated ≤ x) (sat : Sat Δ σ c'.entries) :
    side.Relates (scope Δ c.entries) (σ i) (t.read σ []) := by
  induction inst generalizing σ with
  | @solve side c i t before after split last mono fits =>
    have advances := (.solve split last mono fits : Inst side c i t _).advances valid
    have image := (sat.ex (i := i) (by simp)).2
    have solution : σ i = t.read σ [] := sat.solved (by simp)
    rw [advances.scope_eq] at image
    rw [← solution]
    exact .refl image
  | @reach side c i j before mid after split first last out =>
    have advances := (.reach split first last out : Inst side c i (.ex j) _).advances valid
    have image := (sat.ex (i := i) (by simp)).2
    have solution : σ j = σ i := sat.solved (t := .ex i) (by simp)
    rw [advances.scope_eq] at image
    rw [Ty.read, solution]
    exact .refl image
  | @arrow side c c₁ c₂ i a b before after split last other domInst ended codInst dom cod =>
    rw [inScope_arrow] at within
    rw [apart_arrow] at apart
    have opened := Advances.withArrow valid split
    have first := domInst.advances opened.valid
    have second := codInst.advances first.valid
    have sat₁ := sat.of_refines second.refines
    have within₁ := first.ext.inScope (opened.ext.inScope within.2)
    have apart₁ := (apart.2.advances opened).advances first
    have domSub := dom opened.valid (opened.ext.inScope within.1) (apart.1.advances opened)
      (fun x mem => Nat.le_trans second.grows (base x mem)) sat₁
    have codSub := cod first.valid (first.valid.inScope_apply within₁) (apart₁.apply first.valid) base sat
    rw [sat₁.read_apply first.valid (fun _ => within₁.mem_exIds) apart₁, first.scope_eq] at codSub
    rw [opened.scope_eq] at domSub codSub
    have solution : σ i = .arrow (σ (c.allocated + 1)) (σ c.allocated) :=
      sat.solved (t := .arrow (.ex (c.allocated + 1)) (.ex c.allocated))
        (second.ext.solved_mem (first.ext.solved_mem (by simp [Context.withArrow])))
    rw [solution]
    exact .arrow domSub codSub
  | @rigid c c' i v b unsolved inst body =>
    have advances := inst.advances valid.withRigid
    obtain ⟨σ', sat', kept⟩ := advances.reenterRigid sat
    rw [allocated_dropFrom] at base
    have satC := (sat_append.1 (sat'.of_refines advances.refines)).1
    have here : i ∈ exIds c.entries := mem_exIds.2 (.inl unsolved)
    have above : ∀ x ∈ Δ, c.allocated < x := fun x mem =>
      Nat.lt_of_lt_of_le (Nat.lt_succ_self _) (Nat.le_trans advances.grows (base x mem))
    have sub := body valid.withRigid within.rigidBody apart.rigidBody base sat'
    have rule := Sub.of_rigidBody satC valid above within apart (satC.ex here).2 sub
    rwa [kept i here, Ty.read_congr fun j mem => kept j (within.mem_exIds mem)] at rule
  | @existential c c' i v b unsolved inst body =>
    have advances := inst.advances valid.withEx
    obtain ⟨σ', sat', kept⟩ := advances.reenterEx sat
    rw [allocated_dropFrom] at base
    have here : i ∈ exIds c.entries := mem_exIds.2 (.inl unsolved)
    have sub := body valid.withEx within.exBody apart.exBody base sat'
    have rule := Sub.of_exBody (sat'.of_refines advances.refines) within sub
    rwa [kept i here, Ty.read_congr fun j mem => kept j (within.mem_exIds mem)] at rule

/-- Subtyping is sound. -/
theorem Subtyping.sound {c c' : Context} {a b : Ty} (derivation : Subtyping c a b c') {Δ : Finset Nat}
    {σ : Nat → Poly} (valid : c.Valid) (withinA : InScope c.entries [] a)
    (withinB : InScope c.entries [] b) (apartA : c.Apart a) (apartB : c.Apart b)
    (base : ∀ x ∈ Δ, c'.allocated ≤ x) (sat : Sat Δ σ c'.entries) :
    Sub (scope Δ c.entries) (a.read σ []) (b.read σ []) := by
  induction derivation generalizing σ with
  | unit => exact .unit
  | @var c v w same declared =>
    have sub : Sub (scope Δ c.entries) (.fvar v.id) (.fvar v.id) := .var (mem_scope.2 (.inr declared))
    simpa [Ty.read, same] using sub
  | same declared => exact .refl _ (sat.ex declared).2
  | arrow domSub left right codSub dom cod =>
    rw [inScope_arrow] at withinA withinB
    rw [apart_arrow] at apartA apartB
    have first := domSub.advances valid
    have second := codSub.advances first.valid
    have sat₁ := sat.of_refines second.refines
    have withinA₁ := first.ext.inScope withinA.2
    have withinB₁ := first.ext.inScope withinB.2
    have apartA₁ := apartA.2.advances first
    have apartB₁ := apartB.2.advances first
    have domains := dom valid withinB.1 withinA.1 apartB.1 apartA.1
      (fun x mem => Nat.le_trans second.grows (base x mem)) sat₁
    have codomains := cod first.valid (first.valid.inScope_apply withinA₁)
      (first.valid.inScope_apply withinB₁) (apartA₁.apply first.valid) (apartB₁.apply first.valid) base sat
    rw [sat₁.read_apply first.valid (fun _ => withinA₁.mem_exIds) apartA₁,
      sat₁.read_apply first.valid (fun _ => withinB₁.mem_exIds) apartB₁, first.scope_eq] at codomains
    exact .arrow domains codomains
  | @rigid c c' a b v bodySub body =>
    have advances := bodySub.advances valid.withRigid
    obtain ⟨σ', sat', kept⟩ := advances.reenterRigid sat
    rw [allocated_dropFrom] at base
    have satC := (sat_append.1 (sat'.of_refines advances.refines)).1
    have above : ∀ x ∈ Δ, c.allocated < x := fun x mem =>
      Nat.lt_of_lt_of_le (Nat.lt_succ_self _) (Nat.le_trans advances.grows (base x mem))
    have sub := body valid.withRigid withinA.append_right withinB.rigidBody apartA.withRigid
      apartB.rigidBody base sat'
    have rule := Sub.of_rigidBody satC valid above withinB apartB (satC.within withinA) sub
    rwa [Ty.read_congr fun j mem => kept j (withinA.mem_exIds mem),
      Ty.read_congr fun j mem => kept j (withinB.mem_exIds mem)] at rule
  | @existential c c' a b v other bodySub body =>
    have advances := bodySub.advances valid.withEx
    obtain ⟨σ', sat', kept⟩ := advances.reenterEx sat
    rw [allocated_dropFrom] at base
    have sub := body valid.withEx withinA.exBody withinB.append_right apartA.exBody apartB.withEx base sat'
    have rule := Sub.of_exBody (sat'.of_refines advances.refines) withinA sub
    rwa [Ty.read_congr fun j mem => kept j (withinA.mem_exIds mem),
      Ty.read_congr fun j mem => kept j (withinB.mem_exIds mem)] at rule
  | left _ _ _ inst => exact inst.sound valid withinB apartB base sat
  | right _ _ _ _ inst => exact inst.sound valid withinA apartA base sat

end TermBot.Typing
