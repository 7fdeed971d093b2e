import TermBot.Proofs.Typing.Apply

/-!
# Extension of contexts

Subtyping changes a context in one way only: it solves existentials in their places, and may put new
existentials before a solved one, of which its solution is made. That is `Refines`. Checking and synthesis also leave new existentials
at the end, which is `Extends`. Both keep every entry that is no existential in its place among the
others, so a scope that was opened can be left again: `Extends.leave`.
-/

namespace TermBot.Typing

open Scoped

/-- Solves existentials in their places. The new existentials before a solved one are `parts` of its
solution, and these may be solved in turn. -/
inductive Refines : List Entry → List Entry → Prop where
  | nil : Refines [] []
  | keep {es fs : List Entry} (e : Entry) (rest : Refines es fs) : Refines (e :: es) (e :: fs)
  | solve {es fs new : List Entry} {parts : List Nat} {i : Nat} {t : Ty} (inside : parts ⊆ t.exOccurrences)
      (inner : Refines (parts.map .unsolved) new) (rest : Refines es fs) :
      Refines (.unsolved i :: es) (new ++ .solved i t :: fs)

namespace Refines

variable {es es' fs fs' gs before after : List Entry} {e : Entry} {i : Nat} {t : Ty}

@[refl] theorem refl (es : List Entry) : Refines es es := by
  induction es with
  | nil => exact .nil
  | cons e es ih => exact .keep e ih

theorem append (first : Refines es fs) (second : Refines es' fs') :
    Refines (es ++ es') (fs ++ fs') := by
  induction first with
  | nil => exact second
  | keep e _ ih => exact .keep e ih
  | solve inside inner _ _ ih =>
    rw [List.append_assoc, List.cons_append, List.cons_append]
    exact .solve inside inner ih

/-- The refinement of two parts is made of a refinement of each. -/
theorem of_append (refines : Refines (es ++ es') gs) :
    ∃ fs fs', gs = fs ++ fs' ∧ Refines es fs ∧ Refines es' fs' := by
  induction es generalizing gs with
  | nil => exact ⟨[], gs, rfl, .nil, refines⟩
  | cons e es ih =>
    cases refines with
    | keep _ rest =>
      obtain ⟨fs, fs', rfl, first, second⟩ := ih rest
      exact ⟨e :: fs, fs', rfl, .keep e first, second⟩
    | @solve _ _ new _ i t inside inner rest =>
      obtain ⟨fs, fs', rfl, first, second⟩ := ih rest
      exact ⟨new ++ .solved i t :: fs, fs', by simp, .solve inside inner first, second⟩

/-- An entry that is not an unsolved existential is kept. -/
theorem of_cons (refines : Refines (e :: es) gs) (fixed : e.kind ≠ .unsolved) :
    ∃ fs, gs = e :: fs ∧ Refines es fs := by
  cases refines with
  | keep _ rest => exact ⟨_, rfl, rest⟩
  | solve _ _ rest => simp [Entry.kind] at fixed

/-- An entry that is not an unsolved existential splits a refinement. -/
theorem split {rest : List Entry} (refines : Refines (es ++ e :: rest) gs) (fixed : e.kind ≠ .unsolved) :
    ∃ front back, gs = front ++ e :: back ∧ Refines es front ∧ Refines rest back := by
  obtain ⟨front, tail, rfl, left, opened⟩ := refines.of_append
  obtain ⟨back, rfl, right⟩ := opened.of_cons fixed
  exact ⟨front, back, rfl, left, right⟩

theorem isEx (refines : Refines es fs) (only : ∀ e ∈ es, e.isEx = true) :
    ∀ e ∈ fs, e.isEx = true := by
  induction refines with
  | nil => exact only
  | keep e _ ih =>
    simp only [List.forall_mem_cons] at only ⊢
    exact ⟨only.1, ih only.2⟩
  | solve _ _ _ new ih =>
    simp only [List.forall_mem_cons] at only
    simp only [List.forall_mem_append, List.forall_mem_cons]
    exact ⟨new (by simp), rfl, ih only.2⟩

theorem trans (first : Refines es fs) (second : Refines fs gs) : Refines es gs := by
  induction first generalizing gs with
  | nil => exact second
  | keep e rest ih =>
    cases second with
    | keep _ more => exact .keep e (ih more)
    | solve inside inner more => exact .solve inside inner (ih more)
  | solve inside _ _ ihInner ih =>
    obtain ⟨new, back, rfl, more, rest⟩ := second.of_append
    obtain ⟨tail, rfl, later⟩ := rest.of_cons (by simp [Entry.kind])
    exact .solve inside (ihInner more) (ih later)

/-- The entries that are no existentials stay as they are. -/
theorem filter_fixed (refines : Refines es fs) :
    fs.filter (fun e => !e.isEx) = es.filter (fun e => !e.isEx) := by
  induction refines with
  | nil => rfl
  | keep e _ ih => simp only [List.filter_cons, ih]
  | @solve es fs new parts i t _ _ _ ihInner ih =>
    have none : new.filter (fun e => !e.isEx) = [] := by
      rw [ihInner, List.filter_eq_nil_iff]
      simp
    simp [none, ih]

theorem exIds_subset (refines : Refines es fs) : exIds es ⊆ exIds fs := by
  induction refines with
  | nil => exact List.Subset.refl _
  | keep e _ ih =>
    intro i mem
    cases e <;> simp_all only [exIds_rigid, exIds_term, exIds_marker, exIds_unsolved, exIds_solved,
      List.mem_cons] <;> first | exact ih mem | exact mem.imp id (ih ·)
  | solve _ _ _ _ ih =>
    simp only [exIds_unsolved, exIds_append, exIds_solved]
    exact List.cons_subset.2 ⟨by simp, fun i mem => by simp [ih mem]⟩

/-- An entry that is not an unsolved existential is kept, wherever it stands. -/
theorem mem (refines : Refines es fs) (here : e ∈ es) (fixed : e.kind ≠ .unsolved) : e ∈ fs := by
  obtain ⟨before, after, rfl⟩ := List.append_of_mem here
  obtain ⟨before', rest, rfl, -, tail⟩ := refines.of_append
  obtain ⟨after', rfl, -⟩ := tail.of_cons fixed
  simp

/-- Without an unsolved existential there is nothing to refine. -/
theorem eq_of_no_unsolved (refines : Refines es fs) (none : ∀ e ∈ es, e.kind ≠ .unsolved) :
    fs = es := by
  induction refines with
  | nil => rfl
  | keep e _ ih => rw [ih fun e' mem => none e' (List.mem_cons_of_mem _ mem)]
  | solve => exact absurd rfl (none _ List.mem_cons_self)

/-- Solving one existential. -/
theorem solved : Refines (before ++ .unsolved i :: after) (before ++ .solved i t :: after) := by
  have here : Refines (.unsolved i :: after) ([] ++ .solved i t :: after) :=
    .solve (List.nil_subset _) .nil (refl after)
  exact (refl before).append here

end Refines

theorem rigidIds_eq_filter (es : List Entry) :
    rigidIds es = (es.filter fun e => !e.isEx).filterMap Entry.rigid? := by
  induction es with
  | nil => rfl
  | cons e es ih => cases e <;> simp_all [Entry.isEx, List.filterMap_cons, Entry.rigid?]

/-- Refines, and adds existentials at the end. -/
def Extends (es fs : List Entry) : Prop :=
  ∃ front new, fs = front ++ new ∧ Refines es front ∧ ∀ e ∈ new, e.isEx = true

namespace Extends

variable {es es' fs fs' gs rest : List Entry} {e : Entry} {i : Nat} {t : Ty}

theorem of_refines (refines : Refines es fs) : Extends es fs :=
  ⟨fs, [], (List.append_nil _).symm, refines, by simp⟩

@[refl] theorem refl (es : List Entry) : Extends es es := of_refines (.refl es)

theorem trans (first : Extends es fs) (second : Extends fs gs) : Extends es gs := by
  obtain ⟨front, new, rfl, refines, only⟩ := first
  obtain ⟨front', new', rfl, refines', only'⟩ := second
  obtain ⟨part, part', rfl, left, right⟩ := refines'.of_append
  refine ⟨part, part' ++ new', by simp, refines.trans left, ?_⟩
  exact List.forall_mem_append.2 ⟨right.isEx only, only'⟩

/-- Existentials added at the end. -/
theorem push (only : ∀ e ∈ fs, e.isEx = true) : Extends es (es ++ fs) :=
  ⟨es, fs, rfl, .refl es, only⟩

theorem filter_fixed (ext : Extends es fs) :
    fs.filter (fun e => !e.isEx) = es.filter (fun e => !e.isEx) := by
  obtain ⟨front, new, rfl, refines, only⟩ := ext
  have none : new.filter (fun e => !e.isEx) = [] := by
    rw [List.filter_eq_nil_iff]
    intro e mem
    simp [only e mem]
  rw [List.filter_append, none, List.append_nil, refines.filter_fixed]

theorem rigidIds_eq (ext : Extends es fs) : rigidIds fs = rigidIds es := by
  rw [rigidIds_eq_filter, ext.filter_fixed, ← rigidIds_eq_filter]

theorem exIds_subset (ext : Extends es fs) : exIds es ⊆ exIds fs := by
  obtain ⟨front, new, rfl, refines, -⟩ := ext
  rw [exIds_append]
  exact List.Subset.trans refines.exIds_subset (List.subset_append_left _ _)

theorem mem (ext : Extends es fs) (here : e ∈ es) (fixed : e.kind ≠ .unsolved) : e ∈ fs := by
  obtain ⟨front, new, rfl, refines, -⟩ := ext
  exact List.mem_append_left _ (refines.mem here fixed)

theorem solved_mem (ext : Extends es fs) (here : .solved i t ∈ es) : .solved i t ∈ fs :=
  ext.mem here (by simp [Entry.kind])

/-- An entry that is no existential was there before. -/
theorem mem_of_fixed (ext : Extends es fs) (here : e ∈ fs) (fixed : e.isEx = false) : e ∈ es := by
  have both : e ∈ fs.filter (fun e => !e.isEx) := List.mem_filter.2 ⟨here, by simp [fixed]⟩
  rw [ext.filter_fixed] at both
  exact List.mem_of_mem_filter both

/-- What was added to nothing are existentials. -/
theorem only (ext : Extends [] es) : ∀ e ∈ es, e.isEx = true := by
  obtain ⟨front, new, rfl, refines, only⟩ := ext
  cases refines
  exact only

/-- A type in scope stays so. -/
theorem inScope {bound : List Nat} (ext : Extends es fs) (within : InScope es bound t) :
    InScope fs bound t :=
  within.weaken (by rw [ext.rigidIds_eq]; exact List.Subset.refl _) ext.exIds_subset

/-- The entry that opened a scope splits the extension: what stood before it was refined, and what
stood after it was extended. -/
theorem split (ext : Extends (es ++ e :: rest) gs) (fixed : e.isEx = false) :
    ∃ front back, gs = front ++ e :: back ∧ Refines es front ∧ Extends rest back := by
  obtain ⟨parts, new, rfl, refines, only⟩ := ext
  obtain ⟨front, back, rfl, left, right⟩ :=
    refines.split (by cases e <;> simp_all [Entry.kind, Entry.isEx])
  exact ⟨front, back ++ new, by simp, left, back, new, rfl, right, only⟩

/-- Leaving a scope: the entry that opened it is found, and the context is cut off before it. -/
theorem leave {c : Context} (ext : Extends (es ++ e :: rest) c.entries) (fixed : e.isEx = false)
    (last : ∀ e' ∈ rest, e'.declares e.kind e.id = false) :
    ∃ front back, c.entries = front ++ e :: back ∧ Refines es front ∧ Extends rest back ∧
      (∀ e' ∈ back, e'.declares e.kind e.id = false) := by
  obtain ⟨front, back, split, refines, after⟩ := ext.split fixed
  refine ⟨front, back, split, refines, after, fun e' mem => ?_⟩
  cases new : e'.isEx with
  | false => exact last e' (after.mem_of_fixed mem new)
  | true =>
    rw [Bool.eq_false_iff, ne_eq, Entry.declares_iff]
    rintro ⟨kind, -⟩
    rw [Entry.isEx_iff, kind, ← Entry.isEx_iff, fixed] at new
    cases new

end Extends

end TermBot.Typing
