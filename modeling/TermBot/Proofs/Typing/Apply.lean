import TermBot.Proofs.Typing.Valid

/-!
# Applying a context to a type

In a valid context the solutions nest no deeper than there are entries, so `apply` puts in all of
them: `apply_solved` and `apply_unsolved` are its equations. What it leaves is settled: every
existential in it is unsolved.
-/

namespace TermBot.Typing

open Scoped

namespace Context

/-- Every existential of the type is unsolved in the context. -/
def Settled (c : Context) (t : Ty) : Prop := ∀ i ∈ t.exOccurrences, .unsolved i ∈ c.entries

variable {c c' : Context} {t : Ty} {i : Nat} {bound : List Nat} {before after : List Entry}

@[simp] theorem settled_arrow {a b : Ty} : c.Settled (.arrow a b) ↔ c.Settled a ∧ c.Settled b := by
  simp only [Settled, Ty.exOccurrences, List.mem_append, or_imp, forall_and]

@[simp] theorem settled_all {v : Ident} {b : Ty} : c.Settled (.all v b) ↔ c.Settled b := Iff.rfl

@[simp] theorem settled_ex : c.Settled (.ex i) ↔ .unsolved i ∈ c.entries := by
  simp [Settled, Ty.exOccurrences]

@[simp] theorem settled_unit : c.Settled .unit := by simp [Settled, Ty.exOccurrences]

@[simp] theorem settled_var {v : Ident} : c.Settled (.var v) := by simp [Settled, Ty.exOccurrences]

theorem apply_eq_mapEx (c : Context) (t : Ty) : c.apply t = t.mapEx fun i => c.apply (.ex i) := rfl

@[simp] theorem apply_arrow {a b : Ty} : c.apply (.arrow a b) = .arrow (c.apply a) (c.apply b) := rfl

@[simp] theorem apply_all {v : Ident} {b : Ty} : c.apply (.all v b) = .all v (c.apply b) := rfl

@[simp] theorem apply_unit : c.apply .unit = .unit := rfl

@[simp] theorem apply_var {v : Ident} : c.apply (.var v) = .var v := rfl

theorem apply_of_solution?_eq_none (absent : c.solution? i = none) : c.apply (.ex i) = .ex i := by
  simp [apply, applyTo, Ty.mapEx, absent]

theorem mem_exOccurrences_apply {j : Nat} :
    j ∈ (c.apply t).exOccurrences ↔ ∃ i ∈ t.exOccurrences, j ∈ (c.apply (.ex i)).exOccurrences := by
  rw [apply_eq_mapEx]
  exact Ty.mem_exOccurrences_mapEx

theorem applyTo_congr (same : c.entries = c'.entries) (n : Nat) (t : Ty) :
    c.applyTo n t = c'.applyTo n t := by
  induction n generalizing t with
  | zero => rfl
  | succ n ih =>
    have solution : c.solution? = c'.solution? := by
      funext i
      simp only [solution?, index?, same]
    simp only [applyTo, solution, ih]

/-- Application looks at the entries only. -/
theorem apply_congr (same : c.entries = c'.entries) (t : Ty) : c.apply t = c'.apply t := by
  rw [apply, apply, same]
  exact applyTo_congr same _ t

namespace Valid

/-- On a type that is in the scope of some first entries, more levels than there are of these entries
change nothing. -/
theorem applyTo_stable (valid : c.Valid) {before after : List Entry} (split : c.entries = before ++ after)
    (within : ∀ i ∈ t.exOccurrences, i ∈ exIds before) {n m : Nat} (hn : before.length ≤ n)
    (hm : before.length ≤ m) : c.applyTo (n + 1) t = c.applyTo (m + 1) t := by
  induction before using List.reverseRecOn generalizing after t n m with
  | nil =>
    refine Ty.mapEx_congr fun i mem => ?_
    simp at within
    exact absurd mem (within i)
  | append_singleton before e ih =>
    refine Ty.mapEx_congr fun i mem => ?_
    cases found : c.solution? i with
    | none => rfl
    | some s =>
      -- the solution stands in the shorter list, or is the last entry: its type is in scope there
      have earlier : InScope before [] s := by
        have solved := valid.solution?_eq_some.1 found
        have ordered := valid.ordered
        have distinct := valid.distinct
        rw [split] at solved ordered distinct
        rw [exIds_append, List.nodup_append] at distinct
        have inside : .solved i s ∈ before ++ [e] := by
          rcases List.mem_append.1 solved with mem | later
          · exact mem
          · exact absurd rfl (distinct.2.2 i (within i mem) i (mem_exIds.2 (.inr ⟨s, later⟩)))
        have split' := ordered_append.1 (ordered_append.1 ordered).1
        rcases List.mem_append.1 inside with mem | mem
        · exact (split'.1.of_solved mem).2
        · obtain rfl := List.mem_singleton.1 mem
          exact (ordered_singleton.1 split'.2).2
      simp only [List.length_append, List.length_singleton] at hn hm
      obtain ⟨n', rfl⟩ : ∃ n', n = n' + 1 := ⟨n - 1, by omega⟩
      obtain ⟨m', rfl⟩ : ∃ m', m = m' + 1 := ⟨m - 1, by omega⟩
      have split' : c.entries = before ++ e :: after := by
        rw [split, List.append_assoc, List.singleton_append]
      exact ih split' (fun j occurs => earlier.mem_exIds occurs) (by omega) (by omega)

theorem apply_solved (valid : c.Valid) (solved : .solved i t ∈ c.entries) :
    c.apply (.ex i) = c.apply t := by
  obtain ⟨before, after, split⟩ := List.append_of_mem solved
  have ordered := valid.ordered
  rw [split] at ordered
  have len : c.entries.length = before.length + after.length + 1 := by
    rw [split, List.length_append, List.length_cons, Nat.add_assoc]
  have found := valid.solution?_eq_some.2 solved
  calc c.apply (.ex i)
      = c.applyTo (before.length + after.length + 1) t := by
        simp only [apply, applyTo, Ty.mapEx, found, len]
    _ = c.apply t := by
        rw [apply, len]
        exact valid.applyTo_stable split (fun j mem => ordered.solution.2.mem_exIds mem)
          (by omega) (by omega)

theorem apply_unsolved (valid : c.Valid) (unsolved : .unsolved i ∈ c.entries) :
    c.apply (.ex i) = .ex i :=
  apply_of_solution?_eq_none (valid.solution?_eq_none.2 fun _ => valid.not_solved unsolved)

theorem apply_of_settled (valid : c.Valid) (settled : c.Settled t) : c.apply t = t := by
  rw [apply_eq_mapEx, Ty.mapEx_congr (g := .ex) fun i mem => valid.apply_unsolved (settled i mem),
    Ty.mapEx_ex]

/-- What is true of unsolved existentials and passes from solutions to what they solve is true of the
application to every declared existential. -/
theorem apply_induction {P : Nat → Ty → Prop} (valid : c.Valid)
    (ordered : Ordered [] before) (sub : before ⊆ c.entries)
    (unsolved : ∀ i, .unsolved i ∈ before → P i (.ex i))
    (solved : ∀ i t, .solved i t ∈ before → (∀ j ∈ t.exOccurrences, P j (c.apply (.ex j))) →
      P i (c.apply t)) : ∀ i ∈ exIds before, P i (c.apply (.ex i)) := by
  refine ordered.ex_induction ?_ ?_
  · intro i mem
    rw [valid.apply_unsolved (sub mem)]
    exact unsolved i mem
  · intro i t mem earlier
    rw [valid.apply_solved (sub mem)]
    exact solved i t mem earlier

theorem settled_apply (valid : c.Valid) (declared : ∀ i ∈ t.exOccurrences, i ∈ exIds c.entries) :
    c.Settled (c.apply t) := by
  have images : ∀ i ∈ exIds c.entries, c.Settled (c.apply (.ex i)) := by
    refine valid.apply_induction (P := fun _ => c.Settled) valid.ordered (List.Subset.refl _) ?_ ?_
    · intro i mem
      exact settled_ex.2 mem
    · intro i t mem earlier j occurs
      obtain ⟨k, inside, here⟩ := mem_exOccurrences_apply.1 occurs
      exact earlier k inside j here
  intro j occurs
  obtain ⟨i, inside, here⟩ := mem_exOccurrences_apply.1 occurs
  exact images i (declared i inside) j here

theorem isMono_apply_ex (valid : c.Valid) (i : Nat) : (c.apply (.ex i)).isMono = true := by
  by_cases declared : i ∈ exIds c.entries
  · refine valid.apply_induction (P := fun _ t => t.isMono = true) valid.ordered (List.Subset.refl _)
      (fun _ _ => rfl) ?_ i declared
    intro i t mem earlier
    have mono := (valid.ordered.of_solved mem).1
    rw [Ty.isMono_iff] at mono ⊢
    rw [apply_eq_mapEx, Ty.quantifiers_mapEx earlier, mono]
  · rw [apply_of_solution?_eq_none]
    · rfl
    · exact valid.solution?_eq_none.2 fun t mem => declared (mem_exIds.2 (.inr ⟨t, mem⟩))

@[simp] theorem quantifiers_apply (valid : c.Valid) : (c.apply t).quantifiers = t.quantifiers := by
  rw [apply_eq_mapEx, Ty.quantifiers_mapEx fun i _ => valid.isMono_apply_ex i]

@[simp] theorem binders_apply (valid : c.Valid) : (c.apply t).binders = t.binders := by
  rw [apply_eq_mapEx, Ty.binders_mapEx fun i _ => valid.isMono_apply_ex i]

theorem isMono_apply (valid : c.Valid) : (c.apply t).isMono = t.isMono := by
  rw [Bool.eq_iff_iff, Ty.isMono_iff, Ty.isMono_iff, valid.quantifiers_apply]

/-- Application does not leave the scope of the first entries. -/
theorem inScope_apply_left (valid : c.Valid) (split : c.entries = before ++ after)
    (within : InScope before bound t) : InScope before bound (c.apply t) := by
  have ordered := valid.ordered
  rw [split] at ordered
  have images : ∀ i ∈ exIds before, InScope before [] (c.apply (.ex i)) := by
    refine valid.apply_induction (P := fun _ => InScope before []) (ordered_append.1 ordered).1
      (by simp [split]) ?_ ?_
    · intro i mem
      exact inScope_ex.2 (mem_exIds.2 (.inl mem))
    · intro i t mem earlier
      rw [apply_eq_mapEx]
      exact ((ordered_append.1 ordered).1.of_solved mem).2.mapEx (List.Subset.refl _) earlier
  rw [apply_eq_mapEx]
  exact within.mapEx (List.Subset.refl _) fun i mem => images i (within.mem_exIds mem)

theorem inScope_apply (valid : c.Valid) (within : InScope c.entries bound t) :
    InScope c.entries bound (c.apply t) :=
  valid.inScope_apply_left (List.append_nil _).symm within

/-- A context that has all solutions of an earlier one absorbs its application. -/
theorem apply_apply (valid : c.Valid) (valid' : c'.Valid)
    (kept : ∀ i t, .solved i t ∈ c.entries → .solved i t ∈ c'.entries)
    (declared : ∀ i ∈ t.exOccurrences, i ∈ exIds c.entries) : c'.apply (c.apply t) = c'.apply t := by
  have images : ∀ i ∈ exIds c.entries, c'.apply (c.apply (.ex i)) = c'.apply (.ex i) := by
    refine valid.apply_induction (P := fun i t => c'.apply t = c'.apply (.ex i)) valid.ordered
      (List.Subset.refl _) (fun _ _ => rfl) ?_
    intro i t mem earlier
    rw [valid'.apply_solved (kept i t mem), apply_eq_mapEx c t, apply_eq_mapEx c', Ty.mapEx_mapEx,
      apply_eq_mapEx c' t]
    exact Ty.mapEx_congr earlier
  rw [apply_eq_mapEx c t, apply_eq_mapEx c', Ty.mapEx_mapEx, apply_eq_mapEx c' t]
  exact Ty.mapEx_congr fun i mem => images i (declared i mem)

/-- On types in the scope of its first entries, a context does what these entries do. -/
theorem apply_left (valid : c.Valid) (valid' : c'.Valid) (split : c.entries = c'.entries ++ after)
    (within : InScope c'.entries bound t) : c.apply t = c'.apply t := by
  have images : ∀ i ∈ exIds c'.entries, c.apply (.ex i) = c'.apply (.ex i) := by
    refine valid'.ordered.ex_induction ?_ ?_
    · intro i mem
      rw [valid'.apply_unsolved mem, valid.apply_unsolved (by simp [split, mem])]
    · intro i t mem earlier
      rw [valid'.apply_solved mem, valid.apply_solved (t := t) (by simp [split, mem]),
        apply_eq_mapEx c, apply_eq_mapEx c']
      exact Ty.mapEx_congr earlier
  rw [apply_eq_mapEx c, apply_eq_mapEx c']
  exact Ty.mapEx_congr fun i mem => images i (within.mem_exIds mem)

end Valid

end Context

end TermBot.Typing
