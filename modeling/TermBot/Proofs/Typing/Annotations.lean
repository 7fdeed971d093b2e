import TermBot.Proofs.Typing.Types
import TermBot.Scoped.Resolve

/-!
# Annotations of scoped expressions

The annotations of an expression that scoping gives have no existentials (`annotations_closed`),
and the numbers in them are no larger than the largest one of the expression.
-/

namespace TermBot.Scoped

open Surface (Term TypeExpr)

/-- The types in the annotations of an expression. -/
def Expr.annotations : Expr → List Ty
  | .var _ | .unit => []
  | .lam _ b => b.annotations
  | .app f a => f.annotations ++ a.annotations
  | .ann e t => t :: e.annotations
  | .letIn _ t v b => t.toList ++ v.annotations ++ b.annotations

theorem Ty.le_maxId_of_mem_binders {t : Ty} {x : Nat} (mem : x ∈ t.binders) : x ≤ t.maxId := by
  induction t with
  | arrow a b iha ihb =>
    rw [binders, List.mem_append] at mem
    rw [maxId]
    rcases mem with mem | mem
    · exact Nat.le_trans (iha mem) (Nat.le_max_left _ _)
    · exact Nat.le_trans (ihb mem) (Nat.le_max_right _ _)
  | all v b ih =>
    rw [binders, List.mem_cons] at mem
    rw [maxId]
    rcases mem with rfl | mem
    · exact Nat.le_max_left _ _
    · exact Nat.le_trans (ih mem) (Nat.le_max_right _ _)
  | _ => simp [binders] at mem

theorem Expr.maxId_le_of_mem {e : Expr} {t : Ty} (mem : t ∈ e.annotations) : t.maxId ≤ e.maxId := by
  induction e with
  | var | unit => simp [annotations] at mem
  | lam x b ih =>
    have := ih mem
    rw [maxId]
    omega
  | app f a ihf iha =>
    rw [annotations, List.mem_append] at mem
    rw [maxId]
    rcases mem with mem | mem
    · have := ihf mem
      omega
    · have := iha mem
      omega
  | ann e s ih =>
    rw [annotations, List.mem_cons] at mem
    rw [maxId]
    rcases mem with rfl | mem
    · omega
    · have := ih mem
      omega
  | letIn x s v b ihv ihb =>
    rw [annotations, List.mem_append, List.mem_append] at mem
    rw [maxId]
    rcases mem with (mem | mem) | mem
    · cases s with
      | none => simp at mem
      | some s =>
        simp only [Option.toList, List.mem_singleton] at mem
        simp only [mem, Option.elim]
        omega
    · have := ihv mem
      omega
    · have := ihb mem
      omega

section Resolve

variable {sc : Scope} {s s' : Supply}

theorem run_bind_some {α β : Type} {m : StateT Supply Option α} {f : α → StateT Supply Option β}
    {b : β} : (m >>= f).run s = some (b, s') ↔
      ∃ a s₁, m.run s = some (a, s₁) ∧ (f a).run s₁ = some (b, s') := by
  simp [StateT.run_bind, Option.bind_eq_some_iff]

theorem exOccurrences_resolveType {t : TypeExpr} {ty : Ty}
    (run : (resolveType sc t).run s = some (ty, s')) : ty.exOccurrences = [] := by
  induction t generalizing sc s s' ty with
  | unit =>
    cases run
    rfl
  | name n p =>
    obtain ⟨_, _, -, rest⟩ := run_bind_some.1 run
    cases rest
    rfl
  | arrow a b iha ihb =>
    obtain ⟨_, _, first, rest⟩ := run_bind_some.1 run
    obtain ⟨_, _, second, rest⟩ := run_bind_some.1 rest
    cases rest
    rw [Ty.exOccurrences, iha first, ihb second]
    rfl
  | all n b ih =>
    obtain ⟨_, _, -, rest⟩ := run_bind_some.1 run
    obtain ⟨_, _, body, rest⟩ := run_bind_some.1 rest
    cases rest
    rw [Ty.exOccurrences]
    exact ih body

/-- The annotations of a scoped expression have no existentials. -/
theorem annotations_closed {t : Term} {e : Expr} {ty : Ty}
    (run : (resolveTerm sc t).run s = some (e, s')) (mem : ty ∈ e.annotations) :
    ty.exOccurrences = [] := by
  induction t generalizing sc s s' e with
  | var n p =>
    obtain ⟨_, _, -, rest⟩ := run_bind_some.1 run
    cases rest
    simp [Expr.annotations] at mem
  | unit p =>
    cases run
    simp [Expr.annotations] at mem
  | lam n b p ih =>
    obtain ⟨_, _, -, rest⟩ := run_bind_some.1 run
    obtain ⟨_, _, body, rest⟩ := run_bind_some.1 rest
    cases rest
    exact ih body mem
  | app f a ihf iha =>
    obtain ⟨_, _, first, rest⟩ := run_bind_some.1 run
    obtain ⟨_, _, second, rest⟩ := run_bind_some.1 rest
    cases rest
    exact (List.mem_append.1 mem).elim (ihf first) (iha second)
  | ann t ty p ih =>
    obtain ⟨_, _, expr, rest⟩ := run_bind_some.1 run
    obtain ⟨_, _, type, rest⟩ := run_bind_some.1 rest
    cases rest
    rcases List.mem_cons.1 mem with rfl | mem
    · exact exOccurrences_resolveType type
    · exact ih expr mem
  | letIn n ty v b p ihv ihb =>
    obtain ⟨ann, _, type, rest⟩ := run_bind_some.1 run
    obtain ⟨_, _, value, rest⟩ := run_bind_some.1 rest
    obtain ⟨_, _, -, rest⟩ := run_bind_some.1 rest
    obtain ⟨_, _, body, rest⟩ := run_bind_some.1 rest
    cases rest
    rw [Expr.annotations, List.mem_append, List.mem_append] at mem
    rcases mem with (mem | mem) | mem
    · cases ty with
      | none =>
        cases type
        simp at mem
      | some t =>
        obtain ⟨_, _, inner, rest⟩ := run_bind_some.1 type
        cases rest
        cases List.mem_singleton.1 mem
        exact exOccurrences_resolveType inner
    · exact ihv value mem
    · exact ihb body mem

end Resolve

end TermBot.Scoped
