import TermBot.Proofs.Typing.Types
import Mathlib.Data.List.Induction
import Mathlib.Data.List.Nodup

/-!
# Valid contexts

In a valid context the type of every term and every solution is in the scope of the entries before
it, solutions hold no quantifier, no existential is declared twice, and every declared number was
given out already. So solutions do not refer to themselves: `Ordered.ex_induction` is induction along
them.

Where an existential is solved, split or introduced, or a scope is opened or left, the context stays
valid.
-/

namespace TermBot.Typing

open Scoped

/-- The type of the entry is in the scope of the entries before it. -/
def Entry.Fits (before : List Entry) : Entry → Prop
  | .term _ t => InScope before [] t
  | .solved _ t => t.isMono = true ∧ InScope before [] t
  | _ => True

/-- Every entry fits where it stands, after the entries `before`. -/
def Ordered (before : List Entry) : List Entry → Prop
  | [] => True
  | e :: es => e.Fits before ∧ Ordered (before ++ [e]) es

section Ordered

variable {before before' es fs : List Entry} {e : Entry}

theorem Entry.Fits.weaken (fits : e.Fits before) (rigids : rigidIds before ⊆ rigidIds before')
    (exs : exIds before ⊆ exIds before') : e.Fits before' := by
  cases e with
  | term x t => exact InScope.weaken fits rigids exs
  | solved i t => exact ⟨fits.1, fits.2.weaken rigids exs⟩
  | _ => trivial

theorem ordered_append : Ordered before (es ++ fs) ↔ Ordered before es ∧ Ordered (before ++ es) fs := by
  induction es generalizing before with
  | nil => simp [Ordered]
  | cons e es ih => simp [Ordered, ih, and_assoc]

theorem ordered_singleton : Ordered before [e] ↔ e.Fits before := by simp [Ordered]

theorem Ordered.weaken (ordered : Ordered before es) (rigids : rigidIds before ⊆ rigidIds before')
    (exs : exIds before ⊆ exIds before') : Ordered before' es := by
  induction es generalizing before before' with
  | nil => trivial
  | cons e es ih =>
    refine ⟨ordered.1.weaken rigids exs, ih ordered.2 ?_ ?_⟩ <;>
      simp only [rigidIds_append, exIds_append]
    · exact List.append_subset.2 ⟨fun _ mem => List.mem_append_left _ (rigids mem),
        List.subset_append_right _ _⟩
    · exact List.append_subset.2 ⟨fun _ mem => List.mem_append_left _ (exs mem),
        List.subset_append_right _ _⟩

/-- The solution of an existential is in the scope of what stands before it. -/
theorem Ordered.solution {i : Nat} {t : Ty} (ordered : Ordered [] (es ++ .solved i t :: fs)) :
    t.isMono = true ∧ InScope es [] t := by
  have tail := (ordered_append.1 ordered).2
  simpa [Entry.Fits] using tail.1

/-- Induction along the solutions: they refer to earlier existentials only. -/
theorem Ordered.ex_induction {P : Nat → Prop} (ordered : Ordered [] es)
    (unsolved : ∀ i, .unsolved i ∈ es → P i)
    (solved : ∀ i t, .solved i t ∈ es → (∀ j ∈ t.exOccurrences, P j) → P i) :
    ∀ i ∈ exIds es, P i := by
  induction es using List.reverseRecOn with
  | nil => simp
  | append_singleton es e ih =>
    have split := ordered_append.1 ordered
    have earlier := ih split.1 (fun i mem => unsolved i (by simp [mem]))
      (fun i t mem => solved i t (by simp [mem]))
    intro i mem
    rw [exIds_append, List.mem_append] at mem
    rcases mem with mem | mem
    · exact earlier i mem
    · rcases mem_exIds.1 mem with mem | ⟨t, mem⟩
      · exact unsolved i (List.mem_append_right _ mem)
      · refine solved i t (List.mem_append_right _ mem) fun j occurs => earlier j ?_
        obtain rfl := List.mem_singleton.1 mem
        exact InScope.mem_exIds (ordered_singleton.1 split.2).2 occurs

/-- A solution of a valid context, wherever it stands. -/
theorem Ordered.of_solved {i : Nat} {t : Ty} (ordered : Ordered [] es) (mem : .solved i t ∈ es) :
    t.isMono = true ∧ InScope es [] t := by
  obtain ⟨before, after, rfl⟩ := List.append_of_mem mem
  exact ⟨ordered.solution.1, ordered.solution.2.append_right⟩

theorem Ordered.of_term {x : Ident} {t : Ty} (ordered : Ordered [] es) (mem : .term x t ∈ es) :
    InScope es [] t := by
  obtain ⟨before, after, rfl⟩ := List.append_of_mem mem
  have tail := (ordered_append.1 ordered).2
  exact InScope.append_right (by simpa [Entry.Fits] using tail.1)

end Ordered

/-- The invariant of contexts. -/
structure Context.Valid (c : Context) : Prop where
  ordered : Ordered [] c.entries
  distinct : (exIds c.entries).Nodup
  below : ∀ e ∈ c.entries, e.kind ≠ .term → e.id < c.allocated

namespace Context.Valid

variable {c : Context} {before after : List Entry} {i : Nat} {t : Ty}

theorem withSupply (valid : c.Valid) {s : Supply} (le : c.allocated ≤ s.used) :
    ({ c with supply := s } : Context).Valid :=
  ⟨valid.ordered, valid.distinct, fun e mem other => Nat.lt_of_lt_of_le (valid.below e mem other) le⟩

theorem ex_lt (valid : c.Valid) (mem : i ∈ exIds c.entries) : i < c.allocated := by
  rcases mem_exIds.1 mem with mem | ⟨t, mem⟩
  · exact valid.below _ mem (by simp [Entry.kind])
  · exact valid.below _ mem (by simp [Entry.kind])

theorem rigid_lt (valid : c.Valid) (mem : i ∈ rigidIds c.entries) : i < c.allocated := by
  obtain ⟨v, declared, rfl⟩ := mem_rigidIds.1 mem
  exact valid.below _ declared (by simp [Entry.kind])

/-- An existential is solved or not, and its solution is unique. -/
theorem solved_unique {s : Ty} (valid : c.Valid) (first : .solved i s ∈ c.entries)
    (second : .solved i t ∈ c.entries) : s = t := by
  have distinct := valid.distinct
  obtain ⟨before, after, split⟩ := List.append_of_mem first
  rw [split] at second distinct
  simp only [exIds_append, exIds_solved, List.nodup_append, List.nodup_cons] at distinct
  rcases List.mem_append.1 second with mem | mem
  · exact absurd rfl (distinct.2.2 i (mem_exIds.2 (.inr ⟨t, mem⟩)) i (by simp))
  · rcases List.mem_cons.1 mem with eq | mem
    · simpa using eq.symm
    · exact absurd (mem_exIds.2 (.inr ⟨t, mem⟩)) distinct.2.1.1

theorem not_solved (valid : c.Valid) (unsolved : .unsolved i ∈ c.entries) :
    .solved i t ∉ c.entries := by
  intro solved
  have distinct := valid.distinct
  obtain ⟨before, after, split⟩ := List.append_of_mem unsolved
  rw [split] at solved distinct
  simp only [exIds_append, exIds_unsolved, List.nodup_append, List.nodup_cons] at distinct
  rcases List.mem_append.1 solved with mem | mem
  · exact absurd rfl (distinct.2.2 i (mem_exIds.2 (.inr ⟨t, mem⟩)) i (by simp))
  · rcases List.mem_cons.1 mem with eq | mem
    · simp at eq
    · exact distinct.2.1.1 (mem_exIds.2 (.inr ⟨t, mem⟩))

theorem solution?_eq_some (valid : c.Valid) : c.solution? i = some t ↔ .solved i t ∈ c.entries := by
  constructor
  · exact Context.mem_of_solution?
  · intro mem
    have present : c.has .solved i = true := Context.has_solved.2 ⟨t, mem⟩
    obtain ⟨n, index⟩ := Option.isSome_iff_exists.1 present
    obtain ⟨before, e, after, split, rfl, here, -⟩ := Context.index?_eq_some index
    obtain ⟨s, rfl⟩ := Entry.declares_solved.1 here
    have unique : s = t := valid.solved_unique (by simp [split]) mem
    simp [Context.solution?, index, split, unique]

theorem solution?_eq_none (valid : c.Valid) :
    c.solution? i = none ↔ ∀ t, .solved i t ∉ c.entries := by
  rw [Option.eq_none_iff_forall_ne_some]
  exact forall_congr' fun t => not_congr valid.solution?_eq_some

variable {s s' : Supply} {mid es : List Entry}

/-- Leaving a scope, with any larger count of numbers. -/
theorem leave (valid : (⟨before ++ after, s⟩ : Context).Valid) (le : s.used ≤ s'.used) :
    (⟨before, s'⟩ : Context).Valid where
  ordered := (ordered_append.1 valid.ordered).1
  distinct := by
    have distinct := valid.distinct
    simp only [exIds_append] at distinct
    exact distinct.of_append_left
  below e mem notTerm :=
    Nat.lt_of_lt_of_le (valid.below e (List.mem_append_left _ mem) notTerm) le

/-- Adding entries whose numbers were just given out. -/
theorem push (valid : (⟨before, s⟩ : Context).Valid) (fits : Ordered before es)
    (distinct : (exIds es).Nodup)
    (fresh : ∀ e ∈ es, e.kind ≠ .term → s.used ≤ e.id ∧ e.id < s'.used) (le : s.used ≤ s'.used) :
    (⟨before ++ es, s'⟩ : Context).Valid where
  ordered := ordered_append.2 ⟨valid.ordered, fits⟩
  distinct := by
    simp only [exIds_append]
    refine List.nodup_append.2 ⟨valid.distinct, distinct, ?_⟩
    rintro i old j new rfl
    have lt := valid.ex_lt old
    rcases mem_exIds.1 new with mem | ⟨t, mem⟩
    · have ge := (fresh _ mem (by simp [Entry.kind])).1
      exact Nat.not_le_of_lt lt ge
    · have ge := (fresh _ mem (by simp [Entry.kind])).1
      exact Nat.not_le_of_lt lt ge
  below e mem notTerm := by
    rcases List.mem_append.1 mem with mem | mem
    · exact Nat.lt_of_lt_of_le (valid.below e mem notTerm) le
    · exact (fresh e mem notTerm).2

/-- Putting existentials in the place of an unsolved one, which is among them. -/
theorem replace (mid : List Entry) (valid : (⟨before ++ .unsolved i :: after, s⟩ : Context).Valid)
    (fits : Ordered before mid) (keeps : i ∈ exIds mid) (distinct : (exIds mid).Nodup)
    (fresh : ∀ e ∈ mid, e.id = i ∨ (s.used ≤ e.id ∧ e.id < s'.used)) (le : s.used ≤ s'.used) :
    (⟨before ++ mid ++ after, s'⟩ : Context).Valid where
  ordered := by
    have parts := ordered_append.1 valid.ordered
    refine ordered_append.2 ⟨ordered_append.2 ⟨parts.1, fits⟩, (parts.2.2).weaken ?_ ?_⟩
    · simp
    · simp only [List.nil_append, exIds_append, exIds_unsolved, exIds_nil]
      intro j mem
      rcases List.mem_append.1 mem with mem | mem
      · exact List.mem_append_left _ mem
      · exact List.mem_append_right _ (List.mem_singleton.1 mem ▸ keeps)
  distinct := by
    have old := valid.distinct
    have lt : ∀ j ∈ exIds before ++ i :: exIds after, j < s.used := by
      intro j mem
      exact valid.ex_lt (c := ⟨before ++ .unsolved i :: after, s⟩) (by simpa using mem)
    simp only [exIds_append, exIds_unsolved, List.nodup_append, List.nodup_cons] at old
    obtain ⟨oldBefore, ⟨notAfter, oldAfter⟩, apart⟩ := old
    -- a number of `mid` is `i` or new, so it is none of the others
    have new : ∀ j ∈ exIds mid, j = i ∨ s.used ≤ j := by
      intro j mem
      rcases mem_exIds.1 mem with mem | ⟨t, mem⟩
      · exact (fresh _ mem).imp id And.left
      · exact (fresh _ mem).imp id And.left
    have other : ∀ j ∈ exIds before ++ exIds after, j ∉ exIds mid := by
      intro j mem inMid
      have small : j < s.used := lt j (by simp at mem ⊢; tauto)
      have ne : j ≠ i := by
        rintro rfl
        rcases List.mem_append.1 mem with mem | mem
        · exact apart j mem j (by simp) rfl
        · exact notAfter mem
      rcases new j inMid with eq | le
      · exact ne eq
      · omega
    simp only [exIds_append]
    refine List.nodup_append.2 ⟨List.nodup_append.2 ⟨oldBefore, distinct, ?_⟩, oldAfter, ?_⟩
    · rintro j mem k inMid rfl
      exact other j (List.mem_append_left _ mem) inMid
    · rintro j mem k inAfter rfl
      rcases List.mem_append.1 mem with mem | mem
      · exact apart j mem j (by simp [inAfter]) rfl
      · exact other j (List.mem_append_right _ inAfter) mem
  below e mem notTerm := by
    have old : e ∈ before ∨ e ∈ after → e.id < s'.used := by
      intro mem
      exact Nat.lt_of_lt_of_le (valid.below e (by
        simp only [List.mem_append, List.mem_cons]
        exact mem.imp id .inr) notTerm) le
    have here : i < s'.used := by
      have lt : i < s.used := valid.ex_lt (c := ⟨before ++ .unsolved i :: after, s⟩) (by simp)
      exact Nat.lt_of_lt_of_le lt le
    simp only [List.mem_append] at mem
    rcases mem with (mem | mem) | mem
    · exact old (.inl mem)
    · exact (fresh e mem).elim (fun eq => eq ▸ here) And.right
    · exact old (.inr mem)

/-- Solving an existential. -/
theorem solve (valid : (⟨before ++ .unsolved i :: after, s⟩ : Context).Valid)
    (mono : t.isMono = true) (within : InScope before [] t) :
    (⟨before ++ .solved i t :: after, s⟩ : Context).Valid := by
  have replaced := replace [.solved i t] valid (ordered_singleton.2 ⟨mono, within⟩)
    (by simp) (by simp) (by simp [Entry.id]) (Nat.le_refl _)
  simpa using replaced

/-- Splitting an existential into the arrow of two new ones. -/
theorem articulate (valid : (⟨before ++ .unsolved i :: after, s⟩ : Context).Valid) :
    (⟨before ++ .unsolved s.used :: .unsolved (s.used + 1) ::
        .solved i (.arrow (.ex (s.used + 1)) (.ex s.used)) :: after, s.skip 2⟩ : Context).Valid := by
  have lt : i < s.used := valid.ex_lt (c := ⟨before ++ .unsolved i :: after, s⟩) (by simp)
  have replaced := @replace _ _ i s (s.skip 2) [.unsolved s.used, .unsolved (s.used + 1),
      .solved i (.arrow (.ex (s.used + 1)) (.ex s.used))] valid
    (by simp [Ordered, Entry.Fits, Ty.isMono]) (by simp)
    (by simp; omega) (by simp [Entry.id, Supply.skip])
    (by simp [Supply.skip])
  simpa using replaced

/-- Taking an entry out that no type refers to. -/
theorem forget {e : Entry} (valid : (⟨before ++ e :: after, s⟩ : Context).Valid) (rigid : rigidIds [e] = [])
    (ex : exIds [e] = []) : (⟨before ++ after, s⟩ : Context).Valid where
  ordered := by
    have parts := ordered_append.1 valid.ordered
    exact ordered_append.2 ⟨parts.1, parts.2.2.weaken (by simp [rigid]) (by simp [ex])⟩
  distinct := by
    have distinct := valid.distinct
    have same : exIds (before ++ e :: after) = exIds before ++ (exIds [e] ++ exIds after) := by
      rw [← exIds_append, ← exIds_append, List.singleton_append]
    rwa [same, ex, List.nil_append, ← exIds_append] at distinct
  below e mem notTerm := by
    refine valid.below e ?_ notTerm
    simp only [List.mem_append, List.mem_cons] at mem ⊢
    exact mem.imp id .inr

end Context.Valid

end TermBot.Typing
