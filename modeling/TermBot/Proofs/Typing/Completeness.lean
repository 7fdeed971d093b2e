import TermBot.Proofs.Typing.Frame
import TermBot.Proofs.Typing.Halting
import TermBot.Proofs.Typing.Soundness

/-!
# Subtyping is complete

If under some valuation of the context the declarative relation holds between two types, then there is
a derivation for them, and the valuation extends to the context it leaves: `Inst.complete` and
`Subtyping.complete`. So solving an existential with what is at hand never loses a solution. The
induction is on the declarative types, which stay the same while the context changes.
-/

namespace TermBot.Typing

open Scoped

section Valuations

variable {Δ : Finset Nat} {σ : Nat → Poly} {c : Context} {v : Ident} {i : Nat} {t : Ty}
  {before after : List Entry} {τ₁ τ₂ : Poly}

theorem Sat.solve (sat : Sat Δ σ (before ++ .unsolved i :: after)) (solution : σ i = t.read σ []) :
    Sat Δ σ (before ++ .solved i t :: after) := by
  obtain ⟨front, here, back⟩ := sat_append.1 sat
  exact sat_append.2 ⟨front, ⟨here.1, here.2, solution⟩, back⟩

theorem Sat.withRigid (sat : Sat Δ σ c.entries) : Sat Δ σ (c.withRigid v).entries :=
  sat_append.2 ⟨sat, trivial, trivial⟩

theorem Sat.withEx {τ : Poly} (sat : Sat Δ σ c.entries) (valid : c.Valid) (mono : τ.Mono)
    (within : τ.Within (scope Δ c.entries) 0) :
    ∃ σ', Sat Δ σ' c.withEx.entries ∧ (∀ j ∈ exIds c.entries, σ' j = σ j) ∧
      σ' (c.allocated + 1) = τ := by
  obtain ⟨σ', sat', kept, picked⟩ := sat.extend (fun _ => τ) valid.withEx.ordered valid.withEx.distinct
    fun _ _ => ⟨mono, within⟩
  exact ⟨σ', sat', kept, picked _ (by simp)⟩

/-- Splitting an existential that stands for an arrow. -/
theorem Sat.withArrow (sat : Sat Δ σ c.entries) (valid : c.Valid)
    (split : c.entries = before ++ .unsolved i :: after) (value : σ i = .arrow τ₁ τ₂) :
    ∃ σ', Sat Δ σ' (c.withArrow before i after).entries ∧ (∀ j ∈ exIds c.entries, σ' j = σ j) ∧
      σ' (c.allocated + 1) = τ₁ ∧ σ' c.allocated = τ₂ := by
  let σ' := Function.update (Function.update σ (c.allocated + 1) τ₁) c.allocated τ₂
  have dom : σ' (c.allocated + 1) = τ₁ := by simp [σ']
  have cod : σ' c.allocated = τ₂ := by simp [σ']
  have kept : ∀ j ∈ exIds c.entries, σ' j = σ j := by
    intro j mem
    have lt := valid.ex_lt mem
    simp only [σ']
    rw [Function.update_of_ne (by omega), Function.update_of_ne (by omega)]
  have sat' : Sat Δ σ' c.entries := sat.congr valid.ordered fun j mem => (kept j (by simpa using mem)).symm
  rw [split] at sat'
  obtain ⟨front, ⟨mono, within⟩, back⟩ := sat_append.1 sat'
  have value' : σ' i = .arrow τ₁ τ₂ := by rw [kept i (by simp [split]), value]
  rw [value'] at mono within
  -- the two new existentials stand in the scope of the old one
  have same : ∀ j, scope (scope Δ before) [.unsolved j] = scope Δ before := fun j => scope_isEx (by simp)
  have newCod : (Entry.unsolved c.allocated).Holds (scope Δ before) σ' := by
    simp only [Entry.Holds, cod]
    exact ⟨mono.2, within.2⟩
  have newDom : (Entry.unsolved (c.allocated + 1)).Holds (scope Δ before) σ' := by
    simp only [Entry.Holds, dom]
    exact ⟨mono.1, within.1⟩
  have here : (Entry.solved i (.arrow (.ex (c.allocated + 1)) (.ex c.allocated))).Holds
      (scope Δ before) σ' := by
    simp only [Entry.Holds, Ty.read, dom, cod, value']
    exact ⟨mono, within, trivial⟩
  refine ⟨σ', sat_append.2 ⟨front, newCod, ?_⟩, kept, dom, cod⟩
  rw [same]
  refine ⟨newDom, ?_⟩
  rw [same]
  exact ⟨here, back⟩

/-- A renaming of variables that are not in the context. -/
theorem Sat.rename {π : Nat → Nat} {es : List Entry} (sat : Sat Δ σ es) (ordered : Ordered before es)
    (fixed : ∀ x ∈ rigidIds (before ++ es), π x = x) :
    Sat (Δ.image π) (fun i => (σ i).rename π) es := by
  induction es generalizing Δ before with
  | nil => trivial
  | cons e es ih =>
    have here : ∀ x ∈ rigidIds before, π x = x := fun x mem => fixed x (by simp [mem])
    constructor
    · cases e with
      | unsolved i => exact ⟨sat.1.1.rename, sat.1.2.rename⟩
      | solved i t =>
        have value : (σ i).rename π = t.read (fun i => (σ i).rename π) [] := by
          rw [sat.1.2.2, Ty.read_rename ordered.1.2 here]
        exact ⟨sat.1.1.rename, sat.1.2.1.rename, value⟩
      | _ => trivial
    · have rest := @ih _ (before ++ [e]) sat.2 ordered.2 (by simpa using fixed)
      rwa [scope_image fun x mem => fixed x (by
        rw [List.append_cons, rigidIds_append, rigidIds_append]
        simp [mem])] at rest

/-- Where the valuation of the old existentials is kept, a type is read as before. -/
theorem Sat.read_advanced {c' : Context} {σ' : Nat → Poly} (sat : Sat Δ σ' c'.entries)
    (advances : Advances c c') (kept : ∀ j ∈ exIds c.entries, σ' j = σ j)
    (within : InScope c.entries [] t) (apart : c.Apart t) : (c'.apply t).read σ' [] = t.read σ [] := by
  have declared : ∀ k ∈ t.exOccurrences, k ∈ exIds c'.entries := fun _ =>
    (advances.ext.inScope within).mem_exIds
  rw [sat.read_apply advances.valid declared (apart.advances advances)]
  exact Ty.read_congr fun j mem => kept j (within.mem_exIds mem)

end Valuations

theorem Poly.Mono.ne_all {A : Poly} (mono : A.Mono) (B : Poly) : A ≠ .all B := by
  rintro rfl
  exact mono

theorem Side.Relates.arrow_inv {side : Side} {Δ : Finset Nat} {τ A B : Poly}
    (rel : side.Relates Δ τ (.arrow A B)) (mono : τ.Mono) :
    ∃ τ₁ τ₂, τ = .arrow τ₁ τ₂ ∧ side.flip.Relates Δ τ₁ A ∧ side.Relates Δ τ₂ B := by
  cases side with
  | left =>
    have sub : Sub Δ τ (.arrow A B) := rel
    cases sub with
    | arrow dom cod => exact ⟨_, _, rfl, dom, cod⟩
    | allLeft => exact mono.elim
  | right =>
    have sub : Sub Δ (.arrow A B) τ := rel
    cases sub with
    | arrow dom cod => exact ⟨_, _, rfl, dom, cod⟩
    | allRight => exact mono.elim

theorem Side.Relates.eq_of_mono {side : Side} {Δ : Finset Nat} {A B : Poly} (rel : side.Relates Δ A B)
    (left : A.Mono) (right : B.Mono) : A = B := by
  cases side with
  | left => exact Sub.eq_of_mono rel left right
  | right => exact (Sub.eq_of_mono rel right left).symm

theorem outer_withRigid {Δ : Finset Nat} {c : Context} {v : Ident}
    (outer : ∀ x ∈ Δ, x ≠ c.allocated ∧ x ∉ rigidIds c.entries) :
    ∀ x ∈ Δ, x ∉ rigidIds (c.withRigid v).entries := by
  intro x mem
  obtain ⟨ne, out⟩ := outer x mem
  simp [Context.withRigid, out, ne]

/-- A relation that leads from the context to another one, to which the valuation extends. -/
def Attains (Δ : Finset Nat) (c : Context) (σ : Nat → Poly) (R : Context → Prop) : Prop :=
  ∃ c' σ', R c' ∧ Sat Δ σ' c'.entries ∧ ∀ j ∈ exIds c.entries, σ' j = σ j

section Scopes

variable {Δ : Finset Nat} {c : Context} {σ : Nat → Poly} {R R' : Context → Prop} {v : Ident} {a b : Ty}

theorem Attains.imp (sub : ∀ c', R c' → R' c') (attains : Attains Δ c σ R) :
    Attains Δ c σ R' := by
  obtain ⟨c', σ', run, sat, kept⟩ := attains
  exact ⟨c', σ', sub c' run, sat, kept⟩

/-- Leaving a scope that was opened with a rigid variable. -/
theorem Attains.leaveRigid (advances : ∀ c', R c' → Advances (c.withRigid v) c')
    (body : Attains Δ (c.withRigid v) σ R) :
    Attains Δ c σ fun c'' => ∃ c', R c' ∧ c'' = c'.dropFrom .rigid c.allocated := by
  obtain ⟨c', σ', run, sat, kept⟩ := body
  obtain ⟨front, back, split, -, dropped, -⟩ := (advances c' run).leaveRigid
  refine ⟨_, σ', ⟨c', run, rfl⟩, ?_, fun j mem => kept j (by simp [Context.withRigid, mem])⟩
  rw [dropped]
  rw [split] at sat
  exact (sat_append.1 sat).1

/-- Leaving a scope that was opened with an existential. -/
theorem Attains.leaveEx {σ₁ : Nat → Poly} (advances : ∀ c', R c' → Advances c.withEx c')
    (same : ∀ j ∈ exIds c.entries, σ₁ j = σ j) (body : Attains Δ c.withEx σ₁ R) :
    Attains Δ c σ fun c'' => ∃ c', R c' ∧ c'' = c'.dropFrom .marker c.allocated := by
  obtain ⟨c', σ', run, sat, kept⟩ := body
  obtain ⟨front, back, split, -, dropped, -⟩ := (advances c' run).leaveEx
  refine ⟨_, σ', ⟨c', run, rfl⟩, ?_, fun j mem => ?_⟩
  · rw [dropped]
    rw [split] at sat
    exact (sat_append.1 sat).1
  · rw [kept j (by simp [Context.withEx, mem]), same j mem]

/-- The variables outside of the context may be renamed, so that the number of the next variable is
none of them. -/
theorem Attains.of_fresh (valid : c.Valid) (sat : Sat Δ σ c.entries)
    (outer : ∀ x ∈ Δ, x ∉ rigidIds c.entries) (advances : ∀ c', R c' → Advances c c')
    (renamed : ∀ {π : Nat → Nat}, Function.Injective π → (∀ x ∈ rigidIds c.entries, π x = x) →
      Sat (Δ.image π) (fun i => (σ i).rename π) c.entries →
      (∀ x ∈ Δ.image π, x ≠ c.allocated ∧ x ∉ rigidIds c.entries) →
      Attains (Δ.image π) c (fun i => (σ i).rename π) R) : Attains Δ c σ R := by
  obtain ⟨y, new⟩ := Infinite.exists_notMem_finset (insert c.allocated (scope Δ c.entries))
  rw [Finset.mem_insert, mem_scope, not_or, not_or] at new
  obtain ⟨ne, newΔ, newRigid⟩ := new
  let π := Equiv.swap c.allocated y
  have inverse : ∀ x, π (π x) = x := Equiv.swap_apply_self _ _
  have fixed : ∀ x ∈ rigidIds c.entries, π x = x := by
    intro x mem
    have lt := valid.rigid_lt mem
    exact Equiv.swap_apply_of_ne_of_ne (by omega) fun eq => newRigid (eq ▸ mem)
  have avoids : ∀ x ∈ Δ.image π, x ≠ c.allocated ∧ x ∉ rigidIds c.entries := by
    intro x mem
    obtain ⟨z, here, rfl⟩ := Finset.mem_image.1 mem
    refine ⟨fun eq => newΔ ?_, fun declared => outer z here ?_⟩
    · have back : π c.allocated = z := eq ▸ inverse z
      rw [Equiv.swap_apply_left] at back
      exact back ▸ here
    · have back := fixed _ declared
      rw [inverse] at back
      exact back ▸ declared
  obtain ⟨c', σ', run, sat', kept⟩ := renamed π.injective fixed (sat.rename valid.ordered fixed) avoids
  have same := (advances c' run).ext.rigidIds_eq
  have whole : (Δ.image π).image π = Δ := by
    have same : π ∘ π = id := funext inverse
    rw [Finset.image_image, same, Finset.image_id]
  refine ⟨c', fun i => (σ' i).rename π, run, ?_, fun j mem => ?_⟩
  · rw [← whole]
    exact sat'.rename (advances c' run).valid.ordered (by rwa [List.nil_append, same])
  · simp only [kept j mem, Poly.rename_rename]
    exact Poly.rename_eq_self inverse

/-- A supertype that binds a variable: the scope of the variable is opened, and left. -/
theorem Attains.underRigid (valid : c.Valid) (sat : Sat Δ σ c.entries)
    (outer : ∀ x ∈ Δ, x ∉ rigidIds c.entries) (withinA : InScope c.entries [] a)
    (withinB : InScope c.entries [] (.all v b)) (apartB : c.Apart (.all v b))
    (sub : Sub (scope Δ c.entries) (a.read σ []) ((Ty.all v b).read σ []))
    (opens : ∀ c', R c' → Advances (c.withRigid v) c') (advances : ∀ c', R' c' → Advances c c')
    (leave : ∀ {c'}, R c' → R' (c'.dropFrom .rigid c.allocated))
    (body : ∀ {Δ : Finset Nat} {σ : Nat → Poly}, Sat Δ σ (c.withRigid v).entries →
      (∀ x ∈ Δ, x ∉ rigidIds (c.withRigid v).entries) →
      Sub (scope Δ (c.withRigid v).entries) (a.read σ []) ((c.rigidBody v b).read σ []) →
      Attains Δ (c.withRigid v) σ R) : Attains Δ c σ R' := by
  refine .of_fresh valid sat outer advances fun {π} inj fixed sat outer => ?_
  have renamed := sub.rename inj
  rw [scope_image fixed, Ty.read_rename withinA fixed, Ty.read_rename withinB fixed] at renamed
  have opened := Sub.all_right (B := b.read (fun i => (σ i).rename π) [v.id]) renamed
    (allocated_notMem_scope valid fun mem => (outer _ mem).1 rfl)
  rw [← scope_withRigid, ← sat.read_rigidBody withinB apartB] at opened
  refine ((body sat.withRigid (outer_withRigid outer) opened).leaveRigid opens).imp ?_
  rintro c'' ⟨c', run, rfl⟩
  exact leave run

/-- A subtype that binds a variable, with a supertype that binds none: an existential is opened that
stands for the witness. -/
theorem Attains.underEx (valid : c.Valid) (sat : Sat Δ σ c.entries)
    (withinA : InScope c.entries [] (.all v a)) (withinB : InScope c.entries [] b)
    (other : ∀ B, b.read σ [] ≠ .all B)
    (sub : Sub (scope Δ c.entries) ((Ty.all v a).read σ []) (b.read σ []))
    (opens : ∀ c', R c' → Advances c.withEx c')
    (leave : ∀ {c'}, R c' → R' (c'.dropFrom .marker c.allocated))
    (body : ∀ {σ : Nat → Poly}, Sat Δ σ c.withEx.entries →
      Sub (scope Δ c.withEx.entries) ((c.exBody v a).read σ []) (b.read σ []) →
      Attains Δ c.withEx σ R) : Attains Δ c σ R' := by
  obtain ⟨τ, mono, inside, opened⟩ := Sub.all_left (A := a.read σ [v.id]) sub other
  obtain ⟨σ₁, sat₁, kept₁, value⟩ := sat.withEx valid mono inside
  have same : a.read σ₁ [v.id] = a.read σ [v.id] := Ty.read_congr fun j mem =>
    kept₁ j (withinA.mem_exIds mem)
  have readB : b.read σ₁ [] = b.read σ [] := Ty.read_congr fun j mem =>
    kept₁ j (withinB.mem_exIds mem)
  have readA : (c.exBody v a).read σ₁ [] = (a.read σ [v.id]).openWith τ := by
    rw [(sat_append.1 sat₁).1.read_exBody withinA, value, same]
  rw [← scope_withEx, ← readA, ← readB] at opened
  refine ((body sat₁ opened).leaveEx opens kept₁).imp ?_
  rintro c'' ⟨c', run, rfl⟩
  exact leave run

end Scopes

/-- An existential that is out of scope stands later, and is solved by the other one. -/
theorem Attains.reach {Δ : Finset Nat} {side : Side} {c : Context} {i j : Nat} {σ : Nat → Poly}
    {before after : List Entry} (split : c.entries = before ++ .unsolved i :: after)
    (last : .unsolved i ∉ after) (unsolved : .unsolved j ∈ c.entries) (ne : i ≠ j)
    (out : ¬ InScope before [] (.ex j)) (sat : Sat Δ σ c.entries) (value : σ j = σ i) :
    Attains Δ c σ (Inst side c i (.ex j)) := by
  have later : .unsolved j ∈ after := by
    rw [split] at unsolved
    rcases List.mem_append.1 unsolved with mem | mem
    · exact absurd (inScope_ex.2 (mem_exIds.2 (.inl mem))) out
    · rcases List.mem_cons.1 mem with eq | mem
      · cases eq
        exact absurd rfl ne
      · exact mem
  obtain ⟨mid, back, rfl, lastJ⟩ := Context.split_unsolved (c := { entries := after }) later
  refine ⟨_, σ, .reach split last lastJ out, ?_, fun _ _ => rfl⟩
  have split' : c.entries = (before ++ .unsolved i :: mid) ++ .unsolved j :: back := by simp [split]
  rw [split'] at sat
  exact sat.solve value

/-- Instantiation is complete. -/
theorem Inst.complete {Δ : Finset Nat} {side : Side} {c : Context} {i : Nat} {t : Ty} {σ : Nat → Poly}
    (valid : c.Valid) (unsolved : .unsolved i ∈ c.entries) (settled : c.Settled t)
    (within : InScope c.entries [] t) (absent : i ∉ t.exOccurrences) (apart : c.Apart t)
    (sat : Sat Δ σ c.entries) (outer : ∀ x ∈ Δ, x ∉ rigidIds c.entries)
    (rel : side.Relates (scope Δ c.entries) (σ i) (t.read σ [])) :
    Attains Δ c σ (Inst side c i t) := by
  obtain ⟨before, after, split, last⟩ := Context.split_unsolved unsolved
  have image : (σ i).Mono ∧ (σ i).Within (scope Δ before) 0 := by
    rw [split] at sat
    exact (sat_append.1 sat).2.1
  have equal (mono : t.isMono = true) : σ i = t.read σ [] := rel.eq_of_mono image.1
    (Ty.read_mono mono fun j mem => (sat.ex (within.mem_exIds mem)).1)
  by_cases direct : t.isMono = true ∧ InScope before [] t
  · refine ⟨_, σ, .solve split last direct.1 direct.2, ?_, fun _ _ => rfl⟩
    rw [split] at sat
    exact sat.solve (equal direct.1)
  cases shape : t with
  | unit => exact absurd (by simp [shape, Ty.isMono]) direct
  | var v =>
    -- a variable of a later scope is not the value of the existential
    have value : σ i = .fvar v.id := by simpa [shape, Ty.read] using equal (by rw [shape]; rfl)
    have declared : v.id ∈ rigidIds before := by
      have here := image.2
      rw [value] at here
      have visible : v.id ∈ rigidIds c.entries := by simpa [shape] using within
      exact (mem_scope.1 here).resolve_left fun mem => outer _ mem visible
    exact absurd (by simp [shape, Ty.isMono, declared]) direct
  | ex j =>
    rw [shape] at absent settled direct
    have ne : i ≠ j := by simpa [Ty.exOccurrences] using absent
    have out : ¬ InScope before [] (.ex j) := fun inside => direct ⟨rfl, inside⟩
    have value : σ j = σ i := by simpa [shape, Ty.read] using (equal (by rw [shape]; rfl)).symm
    exact .reach split last (Context.settled_ex.1 settled) ne out sat value
  | arrow a b =>
    rw [shape] at absent settled within apart rel direct
    have both := Context.settled_arrow.1 settled
    have apartI : i ∉ a.exOccurrences ∧ i ∉ b.exOccurrences := by simpa [Ty.exOccurrences] using absent
    rw [inScope_arrow] at within
    rw [apart_arrow] at apart
    obtain ⟨τ₁, τ₂, value, relDom, relCod⟩ := rel.arrow_inv image.1
    obtain ⟨σ₁, sat₁, kept₁, valueDom, valueCod⟩ := sat.withArrow valid split value
    have opened := Advances.withArrow valid split
    have domSettled := both.1.withArrow split apartI.1
    have domAbsent : c.allocated + 1 ∉ a.exOccurrences := fun mem =>
      absurd (valid.unsolved_lt (both.1 _ mem)) (by omega)
    have readA : a.read σ₁ [] = a.read σ [] := Ty.read_congr fun j mem => kept₁ j (within.1.mem_exIds mem)
    have same : rigidIds (c.withArrow before i after).entries = rigidIds c.entries := opened.ext.rigidIds_eq
    have domRel : side.flip.Relates (scope Δ (c.withArrow before i after).entries)
        (σ₁ (c.allocated + 1)) (a.read σ₁ []) := by
      rwa [opened.scope_eq, valueDom, readA]
    obtain ⟨c₁, σ₂, dom, sat₂, kept₂⟩ := Inst.complete opened.valid (by simp [Context.withArrow])
      domSettled (opened.ext.inScope within.1) domAbsent (apart.1.advances opened) sat₁
      (by rwa [same]) domRel
    have first := dom.advances opened.valid
    have framed := dom.framed opened.valid domSettled domAbsent
    obtain ⟨codUnsolved, codAbsent, -⟩ := Framed.cod valid split settled absent framed
    have within₁ := first.ext.inScope (opened.ext.inScope within.2)
    have apart₁ := (apart.2.advances opened).advances first
    have declared : ∀ k ∈ b.exOccurrences, k ∈ exIds c₁.entries := fun k => within₁.mem_exIds
    have kept : ∀ j ∈ exIds c.entries, σ₂ j = σ j := fun j mem =>
      (kept₂ j (opened.refines.exIds_subset mem)).trans (kept₁ j mem)
    have readB : (c₁.apply b).read σ₂ [] = b.read σ [] :=
      sat₂.read_advanced (opened.trans first) kept within.2 apart.2
    have valueCod₂ : σ₂ c.allocated = τ₂ := by rw [kept₂ _ (by simp [Context.withArrow]), valueCod]
    obtain ⟨c₂, σ₃, cod, sat₃, kept₃⟩ := Inst.complete first.valid codUnsolved
      (first.valid.settled_apply declared) (first.valid.inScope_apply within₁) codAbsent
      (apart₁.apply first.valid) sat₂ (by rwa [first.ext.rigidIds_eq, same])
      (by rwa [first.scope_eq, opened.scope_eq, valueCod₂, readB])
    refine ⟨c₂, σ₃, .arrow split last direct dom (first.valid.ended declared) cod, sat₃, fun j mem => ?_⟩
    rw [kept₃ j (first.refines.exIds_subset (opened.refines.exIds_subset mem)), kept j mem]
  | all v b =>
    rw [shape] at absent settled within apart rel
    have small := valid.unsolved_lt unsolved
    have inside : InScope c.entries [] (.ex i) := inScope_ex.2 (mem_exIds.2 (.inl unsolved))
    cases side with
    | left =>
      exact .underRigid (a := .ex i) valid sat outer inside within apart rel
        (fun c' inst => inst.advances valid.withRigid) (fun c' inst => inst.advances valid)
        (.rigid unsolved) fun sat outer opened => Inst.complete valid.withRigid
          (List.mem_append_left _ unsolved) settled.rigidBody within.rigidBody
          (fun mem => absent (Context.mem_exOccurrences_rigidBody mem)) apart.rigidBody sat outer opened
    | right =>
      have bodyAbsent : i ∉ (c.exBody v b).exOccurrences := by
        intro mem
        rcases Context.mem_exOccurrences_exBody mem with mem | eq
        · exact absent mem
        · omega
      exact .underEx (b := .ex i) valid sat within inside image.1.ne_all rel
        (fun c' inst => inst.advances valid.withEx) (.existential unsolved) fun sat opened =>
          Inst.complete valid.withEx (List.mem_append_left _ unsolved) settled.exBody within.exBody
            bodyAbsent apart.exBody sat (by simpa [Context.withEx] using outer) opened
termination_by (t.quantifiers, (t.read σ []).size)
decreasing_by
  all_goals simp only [shape, Ty.read, Ty.quantifiers, Poly.size, Prod.lex_def]
  · rw [readA]
    omega
  · rw [first.valid.quantifiers_apply, readB]
    omega
  · rw [Context.rigidBody, Ty.quantifiers_substVar rfl]
    omega
  · rw [Context.exBody, Ty.quantifiers_substVar rfl]
    omega

/-- An existential that occurs in a type other than itself is related to it under no valuation. -/
theorem Side.Relates.absent {side : Side} {Δ : Finset Nat} {σ : Nat → Poly} {i : Nat} {t : Ty}
    (rel : side.Relates Δ (σ i) (t.read σ [])) (mono : (σ i).Mono) (other : ∀ v b, t ≠ .all v b)
    (ne : t ≠ .ex i) : i ∉ t.exOccurrences := by
  intro mem
  cases t with
  | ex j =>
    simp only [Ty.exOccurrences, List.mem_singleton] at mem
    exact ne (mem ▸ rfl)
  | arrow a b =>
    have lt : (σ i).arrows < ((Ty.arrow a b).read σ []).arrows := by
      simp only [Ty.exOccurrences, List.mem_append] at mem
      simp only [Ty.read, Poly.arrows]
      rcases mem with mem | mem
      · have inside : (σ i).arrows ≤ (a.read σ []).arrows := Ty.arrows_le_read [] mem
        omega
      · have inside : (σ i).arrows ≤ (b.read σ []).arrows := Ty.arrows_le_read [] mem
        omega
    have le : ((Ty.arrow a b).read σ []).arrows ≤ (σ i).arrows := by
      cases side with
      | left => exact (Sub.arrows_le rel).1 mono
      | right => exact (Sub.arrows_le rel).2 mono
    omega
  | all v b => exact other v b rfl
  | _ => simp [Ty.exOccurrences] at mem

theorem Ty.read_ne_all {σ : Nat → Poly} {t : Ty} (other : ∀ v b, t ≠ .all v b)
    (images : ∀ i ∈ t.exOccurrences, (σ i).Mono) (B : Poly) : t.read σ [] ≠ .all B := by
  intro eq
  cases t with
  | ex i => exact (images i (by simp [Ty.exOccurrences])).ne_all B eq
  | all v b => exact other v b rfl
  | var v => simp [Ty.read] at eq
  | _ => simp [Ty.read] at eq

/-- Subtyping is complete. -/
theorem Subtyping.complete {Δ : Finset Nat} {c : Context} {a b : Ty} {σ : Nat → Poly} (valid : c.Valid)
    (settledA : c.Settled a) (settledB : c.Settled b) (withinA : InScope c.entries [] a)
    (withinB : InScope c.entries [] b) (apartA : c.Apart a) (apartB : c.Apart b)
    (sat : Sat Δ σ c.entries) (outer : ∀ x ∈ Δ, x ∉ rigidIds c.entries)
    (sub : Sub (scope Δ c.entries) (a.read σ []) (b.read σ [])) : Attains Δ c σ (Subtyping c a b) := by
  by_cases quantB : ∃ v b', b = .all v b'
  · obtain ⟨v, b', shapeB⟩ := quantB
    rw [shapeB] at settledB withinB apartB sub ⊢
    exact .underRigid valid sat outer withinA withinB apartB sub
      (fun c' derivation => derivation.advances valid.withRigid)
      (fun c' derivation => derivation.advances valid) .rigid fun sat outer opened =>
        Subtyping.complete valid.withRigid (fun k mem => List.mem_append_left _ (settledA k mem))
          settledB.rigidBody withinA.append_right withinB.rigidBody apartA.withRigid apartB.rigidBody
          sat outer opened
  have otherB : ∀ v b', b ≠ .all v b' := fun v b' eq => quantB ⟨v, b', eq⟩
  have imageB : ∀ i ∈ b.exOccurrences, (σ i).Mono := fun i mem => (sat.ex (withinB.mem_exIds mem)).1
  by_cases quantA : ∃ v a', a = .all v a'
  · obtain ⟨v, a', shapeA⟩ := quantA
    rw [shapeA] at settledA withinA apartA sub ⊢
    exact .underEx valid sat withinA withinB (Ty.read_ne_all otherB imageB) sub
      (fun c' derivation => derivation.advances valid.withEx) (.existential otherB)
      fun sat opened => Subtyping.complete valid.withEx settledA.exBody
        (fun k mem => List.mem_append_left _ (settledB k mem)) withinA.exBody withinB.append_right
        apartA.exBody apartB.withEx sat (by simpa [Context.withEx] using outer) opened
  have otherA : ∀ v a', a ≠ .all v a' := fun v a' eq => quantA ⟨v, a', eq⟩
  by_cases exA : ∃ i, a = .ex i
  · obtain ⟨i, rfl⟩ := exA
    have unsolved := Context.settled_ex.1 settledA
    have here : i ∈ exIds c.entries := mem_exIds.2 (.inl unsolved)
    by_cases same : b = .ex i
    · rw [same]
      exact ⟨c, σ, .same here, sat, fun _ _ => rfl⟩
    · have rel : Side.left.Relates (scope Δ c.entries) (σ i) (b.read σ []) := sub
      have absent := rel.absent (sat.ex here).1 otherB same
      exact (Inst.complete valid unsolved settledB withinB absent apartB sat outer rel).imp fun c' inst =>
        .left otherB unsolved absent inst
  by_cases exB : ∃ j, b = .ex j
  · obtain ⟨j, rfl⟩ := exB
    have unsolved := Context.settled_ex.1 settledB
    have here : j ∈ exIds c.entries := mem_exIds.2 (.inl unsolved)
    have rel : Side.right.Relates (scope Δ c.entries) (σ j) (a.read σ []) := sub
    have absent := rel.absent (sat.ex here).1 otherA fun eq => exA ⟨j, eq⟩
    have notLeft : c.openEx? a (.ex j) = none := by
      rw [Option.eq_none_iff_forall_ne_some]
      exact fun i open' => exA ⟨i, (openEx?_eq_some.1 open').1⟩
    exact (Inst.complete valid unsolved settledA withinA absent apartA sat outer rel).imp fun c' inst =>
      .right otherA notLeft unsolved absent inst
  cases shapeA : a with
  | all v a' => exact absurd shapeA (otherA v a')
  | ex i => exact absurd ⟨i, shapeA⟩ exA
  | unit =>
    rw [shapeA] at sub
    cases b with
    | unit => exact ⟨c, σ, .unit, sat, fun _ _ => rfl⟩
    | var w =>
      simp only [Ty.read, List.not_mem_nil, if_false] at sub
      cases sub
    | ex j => exact absurd ⟨j, rfl⟩ exB
    | arrow b₁ b₂ => cases sub
    | all v b' => exact absurd rfl (otherB v b')
  | var v =>
    rw [shapeA] at sub withinA
    simp only [Ty.read, List.not_mem_nil, if_false] at sub
    cases b with
    | unit => cases sub
    | var w =>
      simp only [Ty.read, List.not_mem_nil, if_false] at sub
      have eq : v.id = w.id := Poly.fvar.inj (sub.eq_of_mono trivial trivial)
      have declared : v.id ∈ rigidIds c.entries := by simpa using withinA
      exact ⟨c, σ, .var eq declared, sat, fun _ _ => rfl⟩
    | ex j => exact absurd ⟨j, rfl⟩ exB
    | arrow b₁ b₂ => cases sub
    | all w b' => exact absurd rfl (otherB w b')
  | arrow a₁ a₂ =>
    cases shapeB : b with
    | unit =>
      rw [shapeA, shapeB] at sub
      cases sub
    | var w =>
      rw [shapeA, shapeB] at sub
      simp only [Ty.read, List.not_mem_nil, if_false] at sub
      cases sub
    | ex j => exact absurd ⟨j, shapeB⟩ exB
    | all w b' => exact absurd shapeB (otherB w b')
    | arrow b₁ b₂ =>
      rw [shapeA] at settledA withinA apartA sub
      rw [shapeB] at settledB withinB apartB sub
      rw [Context.settled_arrow] at settledA settledB
      rw [inScope_arrow] at withinA withinB
      rw [apart_arrow] at apartA apartB
      obtain ⟨domSub, codSub⟩ := Sub.arrow_inv sub
      obtain ⟨c₁, σ₁, dom, sat₁, kept₁⟩ := Subtyping.complete valid settledB.1 settledA.1 withinB.1
        withinA.1 apartB.1 apartA.1 sat outer domSub
      have first := dom.advances valid
      have withinA₁ := first.ext.inScope withinA.2
      have withinB₁ := first.ext.inScope withinB.2
      have apartA₁ := apartA.2.advances first
      have apartB₁ := apartB.2.advances first
      have declaredA : ∀ k ∈ a₂.exOccurrences, k ∈ exIds c₁.entries := fun k => withinA₁.mem_exIds
      have declaredB : ∀ k ∈ b₂.exOccurrences, k ∈ exIds c₁.entries := fun k => withinB₁.mem_exIds
      have readA : (c₁.apply a₂).read σ₁ [] = a₂.read σ [] :=
        sat₁.read_advanced first kept₁ withinA.2 apartA.2
      have readB : (c₁.apply b₂).read σ₁ [] = b₂.read σ [] :=
        sat₁.read_advanced first kept₁ withinB.2 apartB.2
      rw [← readA, ← readB, ← first.scope_eq] at codSub
      obtain ⟨c₂, σ₂, cod, sat₂, kept₂⟩ := Subtyping.complete first.valid
        (first.valid.settled_apply declaredA) (first.valid.settled_apply declaredB)
        (first.valid.inScope_apply withinA₁) (first.valid.inScope_apply withinB₁)
        (apartA₁.apply first.valid) (apartB₁.apply first.valid) sat₁
        (by rwa [first.ext.rigidIds_eq]) codSub
      refine ⟨c₂, σ₂, .arrow dom (first.valid.ended declaredA) (first.valid.ended declaredB) cod, sat₂,
        fun j mem => ?_⟩
      rw [kept₂ j (first.refines.exIds_subset mem), kept₁ j mem]
termination_by (a.quantifiers + b.quantifiers, (a.read σ []).size + (b.read σ []).size)
decreasing_by
  · simp only [shapeB, Ty.quantifiers, Prod.lex_def]
    rw [Context.rigidBody, Ty.quantifiers_substVar rfl]
    omega
  · simp only [shapeA, Ty.quantifiers, Prod.lex_def]
    rw [Context.exBody, Ty.quantifiers_substVar rfl]
    omega
  · simp only [shapeA, shapeB, Ty.read, Ty.quantifiers, Poly.size, Prod.lex_def]
    omega
  · simp only [shapeA, shapeB, Ty.read, Ty.quantifiers, Poly.size, Prod.lex_def]
    rw [first.valid.quantifiers_apply, first.valid.quantifiers_apply, readA, readB]
    omega

end TermBot.Typing
