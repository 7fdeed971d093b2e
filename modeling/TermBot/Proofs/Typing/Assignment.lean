import TermBot.Proofs.Typing.Generalize
import TermBot.Proofs.Typing.Valuation

/-!
# Declarative type assignment

`Typed Δ Γ e A` says that the expression has the type in the free type variables `Δ` and with the types
`Γ` for its variables. A type may be generalised over a variable that is not in `Δ`, and weakened to a
declarative supertype. `Generalizing.closeOver` introduces the quantifiers of a generalisation at once, in
every judgement that has a rule for one of them.
-/

namespace TermBot.Typing

open Scoped

/-- The types of the variables in scope, innermost first. -/
abbrev Env := List (Nat × Poly)

/-- The types of the variables are well formed in `Δ`. -/
def Env.Within (Δ : Finset Nat) (Γ : Env) : Prop := ∀ p ∈ Γ, p.2.Within Δ 0

/-- Declarative type assignment. -/
inductive Typed : Finset Nat → Env → Expr → Poly → Prop where
  | var {Δ : Finset Nat} {Γ : Env} {x : Ident} {A : Poly} (found : Γ.lookup x.id = some A) :
      Typed Δ Γ (.var x) A
  | unit {Δ : Finset Nat} {Γ : Env} : Typed Δ Γ .unit .unit
  | lam {Δ : Finset Nat} {Γ : Env} {x : Ident} {e : Expr} {A B : Poly} (within : A.Within Δ 0)
      (body : Typed Δ ((x.id, A) :: Γ) e B) : Typed Δ Γ (.lam x e) (.arrow A B)
  | app {Δ : Finset Nat} {Γ : Env} {fn arg : Expr} {A B : Poly} (fnTyped : Typed Δ Γ fn (.arrow A B))
      (argTyped : Typed Δ Γ arg A) : Typed Δ Γ (.app fn arg) B
  | ann {Δ : Finset Nat} {Γ : Env} {e : Expr} {t : Ty} (closed : t.exOccurrences = [])
      (within : t.poly.Within Δ 0) (typed : Typed Δ Γ e t.poly) : Typed Δ Γ (.ann e t) t.poly
  | letIn {Δ : Finset Nat} {Γ : Env} {x : Ident} {value body : Expr} {A B : Poly}
      (bound : Typed Δ Γ value A) (typed : Typed Δ ((x.id, A) :: Γ) body B) :
      Typed Δ Γ (.letIn x none value body) B
  | letAnn {Δ : Finset Nat} {Γ : Env} {x : Ident} {value body : Expr} {t : Ty} {B : Poly}
      (closed : t.exOccurrences = []) (within : t.poly.Within Δ 0) (bound : Typed Δ Γ value t.poly)
      (typed : Typed Δ ((x.id, t.poly) :: Γ) body B) : Typed Δ Γ (.letIn x (some t) value body) B
  | gen {Δ : Finset Nat} {Γ : Env} {e : Expr} {A : Poly} {x : Nat} (new : x ∉ Δ) (env : Γ.Within Δ)
      (within : (Poly.all A).Within Δ 0) (typed : Typed (insert x Δ) Γ e (A.openWith (.fvar x))) :
      Typed Δ Γ e (.all A)
  | sub {Δ : Finset Nat} {Γ : Env} {e : Expr} {A B : Poly} (typed : Typed Δ Γ e A)
      (sub : Sub Δ A B) : Typed Δ Γ e B

/-- The judgement has the rule of generalisation over a variable that is not in `Δ`. -/
def Generalizing (J : Finset Nat → Env → Expr → Poly → Prop) : Prop :=
  ∀ {Δ : Finset Nat} {Γ : Env} {e : Expr} {A : Poly} {x : Nat}, x ∉ Δ → Γ.Within Δ →
    (Poly.all A).Within Δ 0 → J (insert x Δ) Γ e (A.openWith (.fvar x)) → J Δ Γ e (.all A)

theorem Env.Within.mono {Δ Δ' : Finset Nat} {Γ : Env} (within : Γ.Within Δ) (sub : Δ ⊆ Δ') : Γ.Within Δ' :=
  fun p mem => (within p mem).mono sub (Nat.le_refl _)

end TermBot.Typing

namespace TermBot.Scoped.Ty

open Typing

variable {σ : Nat → Poly} {Δ : Finset Nat} {es : List Entry} {t : Ty} {v w : Ident} {i : Nat}
  {bound : List Nat} {pairs : List (Nat × Ident)}

theorem read_substVar_self (same : w.id = v.id) : (t.substVar v.id (.var w)).read σ bound = t.read σ bound := by
  induction t generalizing bound with
  | var x =>
    simp only [substVar]
    split
    · rename_i eq
      simp [read, same, eq]
    · rfl
  | arrow a b iha ihb => simp only [substVar, read, iha, ihb]
  | all x b ih =>
    simp only [substVar]
    split
    · rfl
    · simp only [read, ih]
  | _ => rfl

/-- Opening a quantifier with its own variable, which no other quantifier binds, is forgetting it. -/
theorem read_open_self (within : InScope es [v.id] t) (rigids : ∀ x ∈ rigidIds es, x ∈ Δ)
    (images : ∀ i ∈ t.exOccurrences, (σ i).Within Δ 0) (free : v.id ∉ t.binders) :
    (t.read σ [v.id]).openWith (.fvar v.id) = t.read σ [] := by
  have opened : (t.substVar v.id (.var v)).read σ [] = (t.read σ [v.id]).openWith (.fvar v.id) := by
    refine read_open within rigids images fun bound' sub => ?_
    have notBound : v.id ∉ bound' := fun mem => free (sub _ mem)
    simp [read, notBound]
  rw [← opened, read_substVar_self rfl]

theorem read_substEx (free : v.id ∉ t.binders) :
    (t.substEx i (.var v)).read σ [] = t.read (Function.update σ i (.fvar v.id)) [] := by
  refine read_mapEx fun j _ bound' sub => ?_
  by_cases eq : j = i
  · have notBound : v.id ∉ bound' := fun mem => free ((sub _ mem).resolve_left (by simp))
    simp [eq, read, notBound]
  · simp [eq, read]

end TermBot.Scoped.Ty

namespace TermBot.Typing

open Scoped

/-- The valuation that gives existentials the variables that are put for them. -/
def valued (σ : Nat → Poly) : List (Nat × Ident) → Nat → Poly
  | [] => σ
  | (i, v) :: rest => Function.update (valued σ rest) i (.fvar v.id)

section Valued

variable {σ : Nat → Poly} {pairs : List (Nat × Ident)} {i : Nat}

theorem valued_of_notMem (out : i ∉ pairs.map Prod.fst) : valued σ pairs i = σ i := by
  induction pairs with
  | nil => rfl
  | cons p pairs ih =>
    rw [List.map_cons, List.mem_cons, not_or] at out
    rw [valued, Function.update_of_ne out.1, ih out.2]

theorem valued_of_mem (σ σ' : Nat → Poly) (mem : i ∈ pairs.map Prod.fst) :
    valued σ pairs i = valued σ' pairs i ∧ ∃ x ∈ pairs.map (·.2.id), valued σ pairs i = .fvar x := by
  induction pairs with
  | nil => simp at mem
  | cons p pairs ih =>
    by_cases eq : i = p.1
    · simp [valued, eq]
    · rw [List.map_cons, List.mem_cons] at mem
      obtain ⟨same, x, here, value⟩ := ih (mem.resolve_left eq)
      rw [valued, valued, Function.update_of_ne eq, Function.update_of_ne eq]
      exact ⟨same, x, List.mem_cons_of_mem _ here, value⟩

end Valued

/-- Generalisation introduces all its quantifiers: the variables are new, and the expression has the
type in which they stand for the existentials. -/
theorem Generalizing.closeOver {J : Finset Nat → Env → Expr → Poly → Prop} (gen : Generalizing J)
    {Δ : Finset Nat} {Γ : Env} {e : Expr} {σ : Nat → Poly} {t : Ty} {pairs : List (Nat × Ident)}
    {es : List Entry} (env : Γ.Within Δ) (within : InScope es [] t)
    (rigids : ∀ x ∈ rigidIds es, x ∈ Δ)
    (images : ∀ i ∈ t.exOccurrences, i ∉ pairs.map Prod.fst → (σ i).Within Δ 0)
    (distinct : (pairs.map (·.2.id)).Nodup) (new : ∀ x ∈ pairs.map (·.2.id), x ∉ Δ ∧ x ∉ t.binders)
    (typed : J (Δ ∪ (pairs.map (·.2.id)).toFinset) Γ e (t.read (valued σ pairs) [])) :
    J Δ Γ e ((t.closeOver pairs).read σ []) := by
  induction pairs generalizing Δ t es with
  | nil => simpa [valued, Ty.closeOver] using typed
  | cons p pairs ih =>
    obtain ⟨i, v⟩ := p
    rw [List.map_cons, List.nodup_cons] at distinct
    obtain ⟨newV, freeV⟩ := new v.id (by simp)
    have opened : InScope (es ++ [Entry.rigid v]) [] (t.substEx i (.var v)) :=
      Ty.inScope_substEx within.append_right (by simp)
    have body : InScope es [v.id] ((t.substEx i (.var v)).closeOver pairs) := by
      have wider : InScope es [v.id] t :=
        within.mono (fun _ mem => .inr mem) (fun _ _ mem => mem) (by simp)
      refine Ty.inScope_closeOver (Ty.inScope_substEx wider (by simp)) (List.Subset.refl _)
        fun j mem _ => ?_
      exact within.mem_exIds (Ty.mem_exOccurrences_substEx mem).1
    have left : ∀ j ∈ (t.substEx i (.var v)).exOccurrences, j ∉ pairs.map Prod.fst →
        (σ j).Within Δ 0 := by
      intro j mem out
      obtain ⟨inside, ne⟩ := Ty.mem_exOccurrences_substEx mem
      exact images j inside (by simpa [ne] using out)
    have bodyImages : ∀ j ∈ ((t.substEx i (.var v)).closeOver pairs).exOccurrences,
        (σ j).Within Δ 0 := fun j mem =>
      left j (Ty.mem_exOccurrences_closeOver mem).1 (Ty.mem_exOccurrences_closeOver mem).2
    have free : v.id ∉ ((t.substEx i (.var v)).closeOver pairs).binders := by
      intro mem
      rcases Ty.mem_binders_closeOver mem with mem | mem
      · exact freeV (Ty.binders_substEx ▸ mem)
      · exact distinct.1 mem
    refine gen newV env (Ty.read_within body rigids bodyImages) ?_
    rw [Ty.read_open_self body rigids bodyImages free]
    refine ih (env.mono (Finset.subset_insert _ _)) opened ?_ ?_ distinct.2 ?_ ?_
    · intro x mem
      rw [rigidIds_append, List.mem_append] at mem
      rcases mem with mem | mem
      · exact Finset.mem_insert_of_mem (rigids x mem)
      · simp only [rigidIds_rigid, rigidIds_nil, List.mem_singleton] at mem
        exact mem ▸ Finset.mem_insert_self _ _
    · intro j mem out
      exact (left j mem out).mono (Finset.subset_insert _ _) (Nat.le_refl _)
    · intro x mem
      obtain ⟨out, unbound⟩ := new x (List.mem_cons_of_mem _ mem)
      rw [Finset.mem_insert, not_or, Ty.binders_substEx]
      exact ⟨⟨fun eq => distinct.1 (eq ▸ mem), out⟩, unbound⟩
    · rw [Ty.read_substEx freeV]
      simpa [valued, Finset.insert_union, Finset.union_insert] using typed

end TermBot.Typing
