import TermBot.Proofs.Typing.Advance
import TermBot.Proofs.Typing.Reading

/-!
# Valuations of a context

A valuation satisfies the entries of a context (`Sat`) when it gives every existential a monotype of
the scope it is declared in, and solved ones the type they are solved with. It then satisfies every
context that this one refines (`Sat.of_refines`), and can be extended to what stands after it
(`Sat.extend`). Under such a valuation application to the context does not change what a type means
(`Sat.read_apply`), provided that no binder of the type captures a variable of the context (`Apart`).
-/

namespace TermBot.Typing

open Scoped

/-- The free variables in scope after the entries. -/
def scope (Δ : Finset Nat) (es : List Entry) : Finset Nat := Δ ∪ (rigidIds es).toFinset

/-- The valuation suits the entry, in the free variables `Δ`. -/
def Entry.Holds (Δ : Finset Nat) (σ : Nat → Poly) : Entry → Prop
  | .unsolved i => (σ i).Mono ∧ (σ i).Within Δ 0
  | .solved i t => (σ i).Mono ∧ (σ i).Within Δ 0 ∧ σ i = t.read σ []
  | _ => True

/-- The valuation suits every entry in its scope. -/
def Sat (Δ : Finset Nat) (σ : Nat → Poly) : List Entry → Prop
  | [] => True
  | e :: es => e.Holds Δ σ ∧ Sat (scope Δ [e]) σ es

section Scope

variable {Δ : Finset Nat} {es fs : List Entry} {x : Nat}

@[simp] theorem mem_scope : x ∈ scope Δ es ↔ x ∈ Δ ∨ x ∈ rigidIds es := by simp [scope]

@[simp] theorem scope_nil : scope Δ [] = Δ := by simp [scope]

theorem scope_append : scope (scope Δ es) fs = scope Δ (es ++ fs) := by
  ext x
  simp [or_assoc]

theorem scope_congr (same : rigidIds es = rigidIds fs) : scope Δ es = scope Δ fs := by
  rw [scope, scope, same]

theorem scope_isEx (only : ∀ e ∈ es, e.isEx = true) : scope Δ es = Δ := by
  rw [scope, rigidIds_eq_nil only]
  simp

theorem scope_image {π : Nat → Nat} (fixed : ∀ x ∈ rigidIds es, π x = x) :
    (scope Δ es).image π = scope (Δ.image π) es := by
  have same : (rigidIds es).toFinset.image π = (rigidIds es).toFinset := by
    rw [Finset.image_congr (g := id) fun x mem => fixed x (List.mem_toFinset.1 mem), Finset.image_id]
  rw [scope, scope, Finset.image_union, same]

theorem scope_subset (sub : rigidIds es ⊆ rigidIds fs) : scope Δ es ⊆ scope Δ fs := fun _ mem =>
  mem_scope.2 ((mem_scope.1 mem).imp id (sub ·))

end Scope

section Sat

variable {Δ : Finset Nat} {σ σ' : Nat → Poly} {es fs before front rest : List Entry} {e : Entry}
  {i : Nat} {t : Ty}

@[simp] theorem sat_nil : Sat Δ σ [] := trivial

theorem sat_cons : Sat Δ σ (e :: es) ↔ e.Holds Δ σ ∧ Sat (scope Δ [e]) σ es := Iff.rfl

theorem sat_append : Sat Δ σ (es ++ fs) ↔ Sat Δ σ es ∧ Sat (scope Δ es) σ fs := by
  induction es generalizing Δ with
  | nil => simp
  | cons e es ih =>
    have joined : scope (scope Δ [e]) es = scope Δ (e :: es) := scope_append
    simp only [List.cons_append, sat_cons, ih, joined, and_assoc]

/-- What a satisfying valuation gives to a declared existential. -/
theorem Sat.ex (sat : Sat Δ σ es) (mem : i ∈ exIds es) : (σ i).Mono ∧ (σ i).Within (scope Δ es) 0 := by
  have here : ∃ e ∈ es, e.ex? = some i := by simpa [exIds] using mem
  obtain ⟨e, inside, id⟩ := here
  obtain ⟨before, after, rfl⟩ := List.append_of_mem inside
  have holds := (sat_append.1 sat).2.1
  have wider : scope Δ before ⊆ scope Δ (before ++ e :: after) := scope_subset (by simp)
  cases e with
  | unsolved j =>
    cases id
    exact ⟨holds.1, holds.2.mono wider (Nat.le_refl _)⟩
  | solved j t =>
    cases id
    exact ⟨holds.1, holds.2.1.mono wider (Nat.le_refl _)⟩
  | _ => simp [Entry.ex?] at id

theorem Sat.solved (sat : Sat Δ σ es) (mem : .solved i t ∈ es) : σ i = t.read σ [] := by
  obtain ⟨before, after, rfl⟩ := List.append_of_mem mem
  exact (sat_append.1 sat).2.1.2.2

/-- A context is satisfied by what satisfies a refinement of it. -/
theorem Sat.of_refines (sat : Sat Δ σ fs) (refines : Refines es fs) : Sat Δ σ es := by
  induction refines generalizing Δ with
  | nil => trivial
  | keep e _ ih => exact ⟨sat.1, ih sat.2⟩
  | @solve es fs new _ i t _ inner _ _ ih =>
    have parts := sat_append.1 sat
    rw [scope_isEx (inner.isEx (by simp [Entry.isEx]))] at parts
    exact ⟨⟨parts.2.1.1, parts.2.1.2.1⟩, ih parts.2.2⟩

/-- What is put before a solved existential are parts of its solution, so the values of the old
existentials determine those of the new ones. -/
theorem Sat.eq_of_refines {Δ' : Finset Nat} (sat : Sat Δ σ fs) (sat' : Sat Δ' σ' fs)
    (refines : Refines es fs) (same : ∀ i ∈ exIds es, σ i = σ' i) : ∀ i ∈ exIds fs, σ i = σ' i := by
  induction refines generalizing Δ Δ' with
  | nil => simp
  | keep e rest ih =>
    intro i mem
    rw [← List.singleton_append, exIds_append, List.mem_append] at mem
    rcases mem with mem | mem
    · exact same i (by rw [← List.singleton_append, exIds_append]; exact List.mem_append_left _ mem)
    · refine ih sat.2 sat'.2 (fun j inside => same j ?_) i mem
      rw [← List.singleton_append, exIds_append]
      exact List.mem_append_right _ inside
  | @solve es fs new parts i t inside inner rest ihInner ih =>
    obtain ⟨front, here, back⟩ := sat_append.1 sat
    obtain ⟨front', here', back'⟩ := sat_append.1 sat'
    have value : σ i = σ' i := same i (by simp)
    rw [here.2.2, here'.2.2] at value
    have first : ∀ j ∈ exIds new, σ j = σ' j := by
      refine ihInner front front' fun j mem => Ty.eq_of_read_eq value (inside ?_)
      simpa [exIds, Entry.ex?, List.filterMap_map, Function.comp_def] using mem
    have last : ∀ j ∈ exIds fs, σ j = σ' j := ih back back' fun j mem => same j (by simp [mem])
    intro j mem
    simp only [exIds_append, exIds_solved, List.mem_append, List.mem_cons] at mem
    rcases mem with mem | rfl | mem
    · exact first j mem
    · exact same _ (by simp)
    · exact last j mem

/-- More variables in scope outside of the context do no harm. -/
theorem Sat.mono {Δ' : Finset Nat} (sat : Sat Δ σ es) (sub : Δ ⊆ Δ') : Sat Δ' σ es := by
  induction es generalizing Δ Δ' with
  | nil => trivial
  | cons e es ih =>
    refine ⟨?_, ih sat.2 (Finset.union_subset_union_left sub)⟩
    cases e with
    | unsolved i => exact ⟨sat.1.1, sat.1.2.mono sub (Nat.le_refl _)⟩
    | solved i t => exact ⟨sat.1.1, sat.1.2.1.mono sub (Nat.le_refl _), sat.1.2.2⟩
    | _ => trivial

theorem Sat.of_extends (sat : Sat Δ σ fs) (ext : Extends es fs) : Sat Δ σ es := by
  obtain ⟨front, new, rfl, refines, -⟩ := ext
  exact (sat_append.1 sat).1.of_refines refines

/-- Only the declared existentials count. -/
theorem Sat.congr (sat : Sat Δ σ es) (ordered : Ordered before es)
    (same : ∀ i ∈ exIds before ++ exIds es, σ i = σ' i) : Sat Δ σ' es := by
  induction es generalizing Δ before with
  | nil => trivial
  | cons e es ih =>
    refine ⟨?_, ih sat.2 ordered.2 fun i mem => same i ?_⟩
    · cases e with
      | unsolved i =>
        have eq : σ i = σ' i := same i (by simp)
        simpa only [Entry.Holds, eq] using sat.1
      | solved i t =>
        have eq : σ i = σ' i := same i (by simp)
        have read : t.read σ [] = t.read σ' [] := Ty.read_congr fun j mem =>
          same j (List.mem_append_left _ (ordered.1.2.mem_exIds mem))
        simpa only [Entry.Holds, eq, read] using sat.1
      | _ => trivial
    · simpa [← exIds_append] using mem

theorem Sat.extend_one (pick : Nat → Poly) (sat : Sat Δ σ front) (ordered : Ordered [] (front ++ [e]))
    (distinct : (exIds (front ++ [e])).Nodup)
    (picks : ∀ i, e = .unsolved i → (pick i).Mono ∧ (pick i).Within (scope Δ front) 0) :
    ∃ σ', Sat Δ σ' (front ++ [e]) ∧ (∀ i ∈ exIds front, σ' i = σ i) ∧
      ∀ i, e = .unsolved i → σ' i = pick i := by
  have parts := ordered_append.1 ordered
  -- the value of a new existential does not change what stands before it
  have update {i : Nat} (τ : Poly) (new : i ∉ exIds front) : Sat Δ (Function.update σ i τ) front ∧
      ∀ j ∈ exIds front, Function.update σ i τ j = σ j := by
    have others : ∀ j ∈ exIds front, Function.update σ i τ j = σ j := by
      intro j mem
      exact Function.update_of_ne (fun eq : j = i => new (eq ▸ mem)) _ _
    exact ⟨sat.congr parts.1 fun j mem => (others j (by simpa using mem)).symm, others⟩
  rw [exIds_append, List.nodup_append] at distinct
  cases e with
  | unsolved i =>
    have new : i ∉ exIds front := fun mem => distinct.2.2 i mem i (by simp) rfl
    obtain ⟨sat', others⟩ := update (pick i) new
    refine ⟨_, sat_append.2 ⟨sat', ?_, trivial⟩, others, ?_⟩
    · simpa [Entry.Holds] using picks i rfl
    · rintro j ⟨⟩
      simp
  | solved i t =>
    have new : i ∉ exIds front := fun mem => distinct.2.2 i mem i (by simp) rfl
    obtain ⟨mono, within⟩ := ordered_singleton.1 parts.2
    obtain ⟨sat', others⟩ := update (t.read σ []) new
    have same : t.read (Function.update σ i (t.read σ [])) [] = t.read σ [] :=
      Ty.read_congr fun j mem => others j (within.mem_exIds mem)
    refine ⟨_, sat_append.2 ⟨sat', ⟨?_, ?_, ?_⟩, trivial⟩, others, by simp⟩
    · simpa using Ty.read_mono mono fun j mem => (sat.ex (within.mem_exIds mem)).1
    · have closed : (t.read σ []).Within (scope Δ front) 0 :=
        Ty.read_within within (fun x mem => mem_scope.2 (.inr mem))
          fun j mem => (sat.ex (within.mem_exIds mem)).2
      simpa using closed
    · rw [same]
      simp
  | _ => exact ⟨σ, sat_append.2 ⟨sat, trivial, trivial⟩, fun _ _ => rfl, by simp⟩

/-- A satisfying valuation extends to what stands after, with any values in scope for the unsolved
existentials there. -/
theorem Sat.extend (pick : Nat → Poly) (sat : Sat Δ σ front) (ordered : Ordered [] (front ++ rest))
    (distinct : (exIds (front ++ rest)).Nodup)
    (picks : ∀ i, .unsolved i ∈ rest → (pick i).Mono ∧ (pick i).Within (scope Δ front) 0) :
    ∃ σ', Sat Δ σ' (front ++ rest) ∧ (∀ i ∈ exIds front, σ' i = σ i) ∧
      ∀ i, .unsolved i ∈ rest → σ' i = pick i := by
  induction rest generalizing front σ with
  | nil =>
    simp only [List.append_nil]
    exact ⟨σ, sat, fun _ _ => rfl, by simp⟩
  | cons e rest ih =>
    rw [show front ++ e :: rest = (front ++ [e]) ++ rest by simp] at ordered distinct ⊢
    have distinct₁ : (exIds (front ++ [e])).Nodup := by
      rw [exIds_append] at distinct
      exact distinct.of_append_left
    obtain ⟨σ₁, sat₁, others₁, picked₁⟩ := sat.extend_one pick (ordered_append.1 ordered).1 distinct₁
      fun i eq => picks i (by simp [eq])
    obtain ⟨σ', sat', others, picked⟩ := ih sat₁ ordered distinct fun i mem =>
      ⟨(picks i (List.mem_cons_of_mem _ mem)).1,
        (picks i (List.mem_cons_of_mem _ mem)).2.mono (scope_subset (by simp)) (Nat.le_refl _)⟩
    refine ⟨σ', sat', fun i mem => ?_, fun i mem => ?_⟩
    · rw [others i (by simp [mem]), others₁ i mem]
    · rcases List.mem_cons.1 mem with rfl | mem
      · rw [others i (by simp), picked₁ i rfl]
      · exact picked i mem

end Sat

/-- No binder of the type is a rigid variable of the context, or a number that may become one. -/
def Context.Apart (c : Context) (t : Ty) : Prop :=
  ∀ x ∈ t.binders, x < c.allocated ∧ x ∉ rigidIds c.entries

section Apart

variable {c c' : Context} {a b t : Ty} {v : Ident}

@[simp] theorem apart_arrow : c.Apart (.arrow a b) ↔ c.Apart a ∧ c.Apart b := by
  simp only [Context.Apart, Ty.binders, List.forall_mem_append]

theorem apart_of_mono (mono : t.isMono = true) : c.Apart t := by
  simp [Context.Apart, Ty.binders_eq_nil mono]

theorem Context.Apart.body (apart : c.Apart (.all v b)) : c.Apart b := fun x mem =>
  apart x (List.mem_cons_of_mem _ mem)

/-- Rigid variables that are added have numbers that were not given out before. -/
theorem Context.Apart.step (apart : c.Apart t) (grows : c.allocated ≤ c'.allocated)
    (rigids : ∀ x ∈ rigidIds c'.entries, x ∈ rigidIds c.entries ∨ c.allocated ≤ x) : c'.Apart t := by
  intro x mem
  obtain ⟨lt, out⟩ := apart x mem
  refine ⟨Nat.lt_of_lt_of_le lt grows, fun declared => ?_⟩
  rcases rigids x declared with declared | le
  · exact out declared
  · omega

theorem Context.Apart.advances (apart : c.Apart t) (advances : Advances c c') : c'.Apart t :=
  apart.step advances.grows fun _ mem => .inl (advances.ext.rigidIds_eq ▸ mem)

theorem Context.Apart.apply (apart : c.Apart t) (valid : c.Valid) : c.Apart (c.apply t) := by
  rw [Context.Apart, valid.binders_apply]
  exact apart

theorem Context.Apart.withRigid (apart : c.Apart t) : (c.withRigid v).Apart t := by
  refine apart.step (by simp [Context.withRigid, Context.allocated, Supply.skip]) fun x mem => ?_
  simp only [Context.withRigid, rigidIds_append, rigidIds_rigid, rigidIds_nil, List.mem_append,
    List.mem_singleton] at mem
  exact mem.imp id fun eq => Nat.le_of_eq eq.symm

theorem Context.Apart.withEx (apart : c.Apart t) : c.withEx.Apart t :=
  apart.step (by simp [Context.withEx, Context.allocated, Supply.skip]) fun _ mem =>
    .inl (by simpa [Context.withEx] using mem)

theorem Context.Apart.rigidBody (apart : c.Apart (.all v b)) :
    (c.withRigid v).Apart (c.rigidBody v b) := by
  rw [Context.Apart, Context.rigidBody, Ty.binders_substVar rfl]
  exact apart.body.withRigid

theorem Context.Apart.exBody (apart : c.Apart (.all v b)) : c.withEx.Apart (c.exBody v b) := by
  rw [Context.Apart, Context.exBody, Ty.binders_substVar rfl]
  exact apart.body.withEx

end Apart

section Reading

variable {Δ : Finset Nat} {σ : Nat → Poly} {c : Context} {t b : Ty} {v : Ident} {bound : List Nat}

theorem Sat.within (sat : Sat Δ σ c.entries) (within : InScope c.entries [] t) :
    (t.read σ []).Within (scope Δ c.entries) 0 :=
  Ty.read_within within (fun _ mem => mem_scope.2 (.inr mem)) fun _ mem =>
    (sat.ex (within.mem_exIds mem)).2

theorem Sat.read_mono (sat : Sat Δ σ c.entries) (within : InScope c.entries [] t) (mono : t.isMono = true) :
    (t.read σ []).Mono := Ty.read_mono mono fun _ mem => (sat.ex (within.mem_exIds mem)).1

/-- Application to the context keeps the meaning of a type. -/
theorem Sat.read_apply (sat : Sat Δ σ c.entries) (valid : c.Valid)
    (declared : ∀ i ∈ t.exOccurrences, i ∈ exIds c.entries) (apart : c.Apart t) :
    (c.apply t).read σ [] = t.read σ [] := by
  have images : ∀ i ∈ exIds c.entries, ∀ bound, (∀ x ∈ bound, x ∉ rigidIds c.entries) →
      (c.apply (.ex i)).read σ bound = σ i := by
    refine valid.apply_induction (P := fun i u => ∀ bound, (∀ x ∈ bound, x ∉ rigidIds c.entries) →
      u.read σ bound = σ i) valid.ordered (List.Subset.refl _) (fun _ _ _ _ => rfl) ?_
    intro i t mem earlier bound free
    obtain ⟨mono, within⟩ := valid.ordered.of_solved mem
    rw [sat.solved mem, ← Ty.read_bound mono within free, Context.apply_eq_mapEx]
    refine Ty.read_mapEx fun j inside bound' sub => earlier j inside bound' fun x here => ?_
    simpa [Ty.binders_eq_nil mono] using (sub x here).imp (free x) id
  rw [Context.apply_eq_mapEx]
  refine Ty.read_mapEx fun i mem bound' sub => images i (declared i mem) bound' fun x here => ?_
  rcases sub x here with here | here
  · cases here
  · exact (apart x here).2

/-- The body of a quantifier that is opened with a rigid variable. -/
theorem Sat.read_rigidBody (sat : Sat Δ σ c.entries) (within : InScope c.entries [] (.all v b))
    (apart : c.Apart (.all v b)) :
    (c.rigidBody v b).read σ [] = (b.read σ [v.id]).openWith (.fvar c.allocated) := by
  have rigids : ∀ x ∈ rigidIds c.entries, x ∈ scope Δ c.entries := fun x mem => mem_scope.2 (.inr mem)
  refine Ty.read_open (inScope_all.1 within) rigids (fun i mem => (sat.ex (within.mem_exIds mem)).2)
    fun bound' sub => ?_
  have free : c.allocated ∉ bound' := fun here =>
    absurd (apart.body _ (sub _ here)).1 (Nat.lt_irrefl _)
  simp [Ty.read, free]

/-- The body of a quantifier that is opened with an existential. -/
theorem Sat.read_exBody (sat : Sat Δ σ c.entries) (within : InScope c.entries [] (.all v b)) :
    (c.exBody v b).read σ [] = (b.read σ [v.id]).openWith (σ (c.allocated + 1)) := by
  have rigids : ∀ x ∈ rigidIds c.entries, x ∈ scope Δ c.entries := fun x mem => mem_scope.2 (.inr mem)
  exact Ty.read_open (inScope_all.1 within) rigids
    (fun i mem => (sat.ex (within.mem_exIds mem)).2) fun _ _ => rfl

end Reading

end TermBot.Typing
