import TermBot.Proofs.Typing.Entries

/-!
# Types in scope

What substitution for rigid variables (`substVar`) and for existentials (`mapEx`) does to the parts
of a type that the checker looks at: its existentials, its quantifiers, its size, and the scope it
needs. `InScope es bound t` says that the variables of `t` are bound or declared by `es`; a type in
scope stays so in larger scopes and under both substitutions.
-/

namespace TermBot.Scoped.Ty

/-- The number of nodes. -/
def size : Ty → Nat
  | unit | var _ | ex _ => 1
  | arrow a b => a.size + b.size + 1
  | all _ b => b.size + 1

/-- The number of quantifiers. -/
def quantifiers : Ty → Nat
  | unit | var _ | ex _ => 0
  | arrow a b => a.quantifiers + b.quantifiers
  | all _ b => b.quantifiers + 1

/-- The numbers of the bound variables. -/
def binders : Ty → List Nat
  | unit | var _ | ex _ => []
  | arrow a b => a.binders ++ b.binders
  | all v b => v.id :: b.binders

theorem occurs_iff {i : Nat} {t : Ty} : t.occurs i = true ↔ i ∈ t.exOccurrences := by
  induction t with
  | ex j =>
    simp only [occurs, exOccurrences, beq_iff_eq, List.mem_singleton]
    exact eq_comm
  | arrow a b iha ihb => simp [occurs, exOccurrences, iha, ihb]
  | all v b ih => simp [occurs, exOccurrences, ih]
  | _ => simp [occurs, exOccurrences]

theorem isMono_iff {t : Ty} : t.isMono = true ↔ t.quantifiers = 0 := by
  induction t with
  | arrow a b iha ihb => simp [isMono, quantifiers, iha, ihb]
  | _ => simp [isMono, quantifiers]

theorem binders_eq_nil {t : Ty} (mono : t.isMono = true) : t.binders = [] := by
  induction t with
  | arrow a b iha ihb =>
    simp only [isMono, Bool.and_eq_true] at mono
    simp [binders, iha mono.1, ihb mono.2]
  | all v b => simp [isMono] at mono
  | _ => rfl

section MapEx

variable {f g : Nat → Ty} {t : Ty}

theorem mapEx_congr (same : ∀ i ∈ t.exOccurrences, f i = g i) : t.mapEx f = t.mapEx g := by
  induction t with
  | ex i => exact same i (by simp [exOccurrences])
  | arrow a b iha ihb =>
    simp only [mapEx]
    rw [iha fun i mem => same i (by simp [exOccurrences, mem]),
      ihb fun i mem => same i (by simp [exOccurrences, mem])]
  | all v b ih => simp only [mapEx, ih same]
  | _ => rfl

theorem mapEx_ex (t : Ty) : t.mapEx ex = t := by
  induction t with
  | arrow a b iha ihb => simp [mapEx, iha, ihb]
  | all v b ih => simp [mapEx, ih]
  | _ => rfl

theorem mapEx_mapEx (t : Ty) : (t.mapEx f).mapEx g = t.mapEx fun i => (f i).mapEx g := by
  induction t with
  | arrow a b iha ihb => simp [mapEx, iha, ihb]
  | all v b ih => simp [mapEx, ih]
  | _ => rfl

theorem mem_exOccurrences_mapEx {j : Nat} :
    j ∈ (t.mapEx f).exOccurrences ↔ ∃ i ∈ t.exOccurrences, j ∈ (f i).exOccurrences := by
  induction t with
  | ex i => simp [mapEx, exOccurrences]
  | arrow a b iha ihb =>
    simp only [mapEx, exOccurrences, List.mem_append, iha, ihb]
    grind
  | all v b ih => simpa [mapEx, exOccurrences] using ih
  | _ => simp [mapEx, exOccurrences]

theorem quantifiers_mapEx (mono : ∀ i ∈ t.exOccurrences, (f i).isMono = true) :
    (t.mapEx f).quantifiers = t.quantifiers := by
  induction t with
  | ex i => exact isMono_iff.1 (mono i (by simp [exOccurrences]))
  | arrow a b iha ihb =>
    simp only [mapEx, quantifiers]
    rw [iha fun i mem => mono i (by simp [exOccurrences, mem]),
      ihb fun i mem => mono i (by simp [exOccurrences, mem])]
  | all v b ih => simp only [mapEx, quantifiers, ih mono]
  | _ => rfl

theorem binders_mapEx (mono : ∀ i ∈ t.exOccurrences, (f i).isMono = true) :
    (t.mapEx f).binders = t.binders := by
  induction t with
  | ex i => exact binders_eq_nil (mono i (by simp [exOccurrences]))
  | arrow a b iha ihb =>
    simp only [mapEx, binders]
    rw [iha fun i mem => mono i (by simp [exOccurrences, mem]),
      ihb fun i mem => mono i (by simp [exOccurrences, mem])]
  | all v b ih => simp only [mapEx, binders, ih mono]
  | _ => rfl

theorem size_mapEx (single : ∀ i ∈ t.exOccurrences, (f i).size = 1) : (t.mapEx f).size = t.size := by
  induction t with
  | ex i => exact single i (by simp [exOccurrences])
  | arrow a b iha ihb =>
    simp only [mapEx, size]
    rw [iha fun i mem => single i (by simp [exOccurrences, mem]),
      ihb fun i mem => single i (by simp [exOccurrences, mem])]
  | all v b ih => simp only [mapEx, size, ih single]
  | _ => rfl

end MapEx

section SubstVar

variable {v : Nat} {image t : Ty}

theorem size_substVar (single : image.size = 1) : (t.substVar v image).size = t.size := by
  induction t with
  | var x =>
    simp only [substVar]
    split <;> simp [single, size]
  | arrow a b iha ihb => simp [substVar, size, iha, ihb]
  | all x b ih =>
    simp only [substVar]
    split <;> simp [size, ih]
  | _ => rfl

theorem quantifiers_substVar (mono : image.isMono = true) :
    (t.substVar v image).quantifiers = t.quantifiers := by
  induction t with
  | var x =>
    simp only [substVar]
    split <;> simp [isMono_iff.1 mono, quantifiers]
  | arrow a b iha ihb => simp [substVar, quantifiers, iha, ihb]
  | all x b ih =>
    simp only [substVar]
    split <;> simp [quantifiers, ih]
  | _ => rfl

theorem binders_substVar (mono : image.isMono = true) : (t.substVar v image).binders = t.binders := by
  induction t with
  | var x =>
    simp only [substVar]
    split <;> simp [binders_eq_nil mono, binders]
  | arrow a b iha ihb => simp [substVar, binders, iha, ihb]
  | all x b ih =>
    simp only [substVar]
    split <;> simp [binders, ih]
  | _ => rfl

theorem mem_exOccurrences_substVar {i : Nat} (mem : i ∈ (t.substVar v image).exOccurrences) :
    i ∈ t.exOccurrences ∨ i ∈ image.exOccurrences := by
  induction t with
  | var x =>
    simp only [substVar] at mem
    split at mem
    · exact .inr mem
    · exact .inl mem
  | arrow a b iha ihb =>
    simp only [substVar, exOccurrences, List.mem_append] at mem ⊢
    rcases mem with mem | mem
    · exact (iha mem).imp .inl id
    · exact (ihb mem).imp .inr id
  | all x b ih =>
    simp only [substVar] at mem
    split at mem
    · exact .inl mem
    · exact ih mem
  | _ => exact .inl mem

end SubstVar

end TermBot.Scoped.Ty

namespace TermBot.Typing

open Scoped

/-- Every variable of the type is in `bound` or declared by the entries. -/
def InScope (es : List Entry) (bound : List Nat) (t : Ty) : Prop :=
  Context.wellFormedIn es bound t = true

section InScope

variable {es fs : List Entry} {bound : List Nat} {t : Ty}

@[simp] theorem inScope_unit : InScope es bound .unit := rfl

@[simp] theorem inScope_var {v : Ident} :
    InScope es bound (.var v) ↔ v.id ∈ bound ∨ v.id ∈ rigidIds es := by
  simp only [InScope, Context.wellFormedIn, Bool.or_eq_true, List.contains_iff_mem, List.any_eq_true,
    mem_rigidIds]
  refine or_congr Iff.rfl ?_
  constructor
  · rintro ⟨e, mem, here⟩
    obtain ⟨w, rfl, id⟩ := Entry.declares_rigid.1 here
    exact ⟨w, mem, id⟩
  · rintro ⟨w, mem, id⟩
    exact ⟨_, mem, Entry.declares_rigid.2 ⟨w, rfl, id⟩⟩

@[simp] theorem inScope_ex {i : Nat} : InScope es bound (.ex i) ↔ i ∈ exIds es := by
  simp only [InScope, Context.wellFormedIn, List.any_eq_true, Bool.or_eq_true,
    Entry.declares_unsolved, Entry.declares_solved, mem_exIds]
  grind

@[simp] theorem inScope_arrow {a b : Ty} :
    InScope es bound (.arrow a b) ↔ InScope es bound a ∧ InScope es bound b := by
  simp [InScope, Context.wellFormedIn]

@[simp] theorem inScope_all {v : Ident} {b : Ty} :
    InScope es bound (.all v b) ↔ InScope es (v.id :: bound) b := Iff.rfl

theorem InScope.mono {bound' : List Nat} (within : InScope es bound t)
    (rigids : ∀ i ∈ rigidIds es, i ∈ bound' ∨ i ∈ rigidIds fs)
    (exs : ∀ i ∈ t.exOccurrences, i ∈ exIds es → i ∈ exIds fs)
    (larger : ∀ i ∈ bound, i ∈ bound') : InScope fs bound' t := by
  induction t generalizing bound bound' with
  | unit => exact inScope_unit
  | var v =>
    rw [inScope_var] at within ⊢
    exact within.elim (fun mem => .inl (larger _ mem)) (rigids _)
  | ex i =>
    rw [inScope_ex] at within ⊢
    exact exs i (by simp [Ty.exOccurrences]) within
  | arrow a b iha ihb =>
    rw [inScope_arrow] at within ⊢
    exact ⟨iha within.1 rigids (fun i mem => exs i (by simp [Ty.exOccurrences, mem])) larger,
      ihb within.2 rigids (fun i mem => exs i (by simp [Ty.exOccurrences, mem])) larger⟩
  | all v b ih =>
    rw [inScope_all] at within ⊢
    refine ih within (fun i mem => (rigids i mem).imp (List.mem_cons_of_mem _) id) exs ?_
    intro i mem
    rcases List.mem_cons.1 mem with rfl | mem
    · exact List.mem_cons_self
    · exact List.mem_cons_of_mem _ (larger i mem)

/-- A larger scope that declares all that a smaller one does. -/
theorem InScope.weaken (within : InScope es bound t) (rigids : rigidIds es ⊆ rigidIds fs)
    (exs : exIds es ⊆ exIds fs) : InScope fs bound t :=
  within.mono (fun _ mem => .inr (rigids mem)) (fun _ _ mem => exs mem) fun _ mem => mem

theorem InScope.append_right (within : InScope es bound t) : InScope (es ++ fs) bound t :=
  within.weaken (by simp) (by simp)

/-- A type in scope stays so where more variables are bound. -/
theorem InScope.bind {bound' : List Nat} (within : InScope es [] t) : InScope es bound' t :=
  within.mono (fun _ mem => .inr mem) (fun _ _ mem => mem) (by simp)

theorem InScope.mem_exIds {i : Nat} (within : InScope es bound t) (mem : i ∈ t.exOccurrences) :
    i ∈ exIds es := by
  induction t generalizing bound with
  | ex j =>
    simp only [Ty.exOccurrences, List.mem_singleton] at mem
    exact mem ▸ inScope_ex.1 within
  | arrow a b iha ihb =>
    simp only [Ty.exOccurrences, List.mem_append] at mem
    rw [inScope_arrow] at within
    exact mem.elim (iha within.1) (ihb within.2)
  | all v b ih => exact ih (inScope_all.1 within) mem
  | _ => simp [Ty.exOccurrences] at mem

theorem InScope.substVar {v : Nat} {image : Ty} (within : InScope es (v :: bound) t)
    (hi : InScope es [] image) : InScope es bound (t.substVar v image) := by
  -- under a binder the list of bound variables grows in front of `v`
  suffices general : ∀ {t : Ty} {inner outer : List Nat}, (∀ i ∈ inner, i = v ∨ i ∈ outer) →
      InScope es inner t → InScope es outer (t.substVar v image) from
    general (by simp) within
  intro t inner outer sub within
  induction t generalizing inner outer with
  | unit => exact inScope_unit
  | var x =>
    simp only [Ty.substVar]
    split
    · exact hi.bind
    · rename_i ne
      rw [inScope_var] at within ⊢
      exact within.imp (fun mem => (sub _ mem).resolve_left ne) id
  | ex i => exact inScope_ex.2 (inScope_ex.1 within)
  | arrow a b iha ihb =>
    rw [inScope_arrow] at within
    exact inScope_arrow.2 ⟨iha sub within.1, ihb sub within.2⟩
  | all x b ih =>
    rw [inScope_all] at within
    simp only [Ty.substVar]
    split
    · rename_i eq
      rw [inScope_all]
      refine within.mono (fun _ mem => .inr mem) (fun _ _ mem => mem) ?_
      grind
    · exact inScope_all.2 (ih (by grind) within)

theorem InScope.mapEx {f : Nat → Ty} (within : InScope es bound t)
    (rigids : rigidIds es ⊆ rigidIds fs) (images : ∀ i ∈ t.exOccurrences, InScope fs [] (f i)) :
    InScope fs bound (t.mapEx f) := by
  induction t generalizing bound with
  | unit => exact inScope_unit
  | var v =>
    rw [inScope_var] at within
    exact inScope_var.2 (within.imp id fun mem => rigids mem)
  | ex i => exact (images i (by simp [Ty.exOccurrences])).bind
  | arrow a b iha ihb =>
    rw [inScope_arrow] at within
    exact inScope_arrow.2 ⟨iha within.1 fun i mem => images i (by simp [Ty.exOccurrences, mem]),
      ihb within.2 fun i mem => images i (by simp [Ty.exOccurrences, mem])⟩
  | all v b ih => exact inScope_all.2 (ih (inScope_all.1 within) images)

/-- A type in scope has numbers below a bound if its binders and its scope have. -/
theorem InScope.maxId_lt {n : Nat} (within : InScope es bound t)
    (positive : 0 < n) (rigids : ∀ x ∈ rigidIds es, x < n) (exs : ∀ i ∈ exIds es, i < n)
    (binders : ∀ x ∈ t.binders, x < n) (outer : ∀ x ∈ bound, x < n) : t.maxId < n := by
  induction t generalizing bound with
  | unit => exact positive
  | var v => exact (inScope_var.1 within).elim (outer _) (rigids _)
  | ex i => exact exs i (inScope_ex.1 within)
  | arrow a b iha ihb =>
    rw [inScope_arrow] at within
    rw [Ty.binders, List.forall_mem_append] at binders
    exact Nat.max_lt.2 ⟨iha within.1 binders.1 outer, ihb within.2 binders.2 outer⟩
  | all v b ih =>
    rw [Ty.binders, List.forall_mem_cons] at binders
    exact Nat.max_lt.2 ⟨binders.1, ih (inScope_all.1 within) binders.2
      (List.forall_mem_cons.2 ⟨binders.1, outer⟩)⟩

end InScope

end TermBot.Typing
