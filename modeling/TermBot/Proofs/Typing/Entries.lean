import TermBot.Typing.Context
import Mathlib.Data.List.Basic

/-!
# Entries of a context and their places

The operations of a context look an entry up from the end. Where the entries are split around the
last one that declares a number, each operation is an operation on the two parts: `dropFrom_split`,
`remove_split`, `replace_split`, `after?_split`. `index?_eq_some` finds the split.
-/

namespace TermBot.Typing

open Scoped

section LastPlace

variable {α : Type} {p : α → Bool}

theorem lastIdx?_eq_none {l : List α} : lastIdx? p l = none ↔ ∀ a ∈ l, p a = false := by
  induction l with
  | nil => simp [lastIdx?]
  | cons a l ih =>
    simp only [lastIdx?]
    cases rest : lastIdx? p l with
    | none =>
      have absent := ih.1 rest
      cases here : p a <;> simp_all
    | some i => simp_all

example : lastIdx? (fun n => n = 4) [1, 2, 3] = none := by cbv

/-- The last element that satisfies `p`, with what stands before and after it. -/
theorem exists_of_lastIdx? {l : List α} {n : Nat} (found : lastIdx? p l = some n) :
    ∃ before a after, l = before ++ a :: after ∧ before.length = n ∧ p a = true ∧
      ∀ b ∈ after, p b = false := by
  induction l generalizing n with
  | nil => simp [lastIdx?] at found
  | cons a l ih =>
    simp only [lastIdx?] at found
    cases rest : lastIdx? p l with
    | some i =>
      rw [rest] at found
      obtain ⟨before, b, after, rfl, len, hb, last⟩ := ih rest
      refine ⟨a :: before, b, after, rfl, ?_, hb, last⟩
      simp at found
      simp [len, found]
    | none =>
      rw [rest] at found
      cases here : p a with
      | false => simp [here] at found
      | true =>
        simp only [here, if_true, Option.some.injEq] at found
        exact ⟨[], a, l, rfl, found, here, lastIdx?_eq_none.1 rest⟩

theorem lastIdx?_append_cons (before : List α) {after : List α} {a : α} (here : p a = true)
    (last : ∀ b ∈ after, p b = false) :
    lastIdx? p (before ++ a :: after) = some before.length := by
  induction before with
  | nil => simp [lastIdx?, lastIdx?_eq_none.2 last, here]
  | cons b before ih => simp [lastIdx?, ih]

end LastPlace

namespace Entry

theorem declares_iff {k : EntryKind} {i : Nat} {e : Entry} :
    e.declares k i = true ↔ e.kind = k ∧ e.id = i := by
  simp [declares]

example : (marker 3).declares .marker 3 = true := by cbv

theorem declares_unsolved {i : Nat} {e : Entry} :
    e.declares .unsolved i = true ↔ e = .unsolved i := by
  rw [declares_iff]
  cases e <;> simp [kind, Entry.id]

theorem declares_marker {i : Nat} {e : Entry} :
    e.declares .marker i = true ↔ e = .marker i := by
  rw [declares_iff]
  cases e <;> simp [kind, Entry.id]

theorem declares_solved {i : Nat} {e : Entry} :
    e.declares .solved i = true ↔ ∃ t, e = .solved i t := by
  rw [declares_iff]
  cases e <;> simp [kind, Entry.id]

theorem declares_rigid {i : Nat} {e : Entry} :
    e.declares .rigid i = true ↔ ∃ v, e = .rigid v ∧ v.id = i := by
  rw [declares_iff]
  cases e <;> simp [kind, Entry.id]

theorem declares_term {i : Nat} {e : Entry} :
    e.declares .term i = true ↔ ∃ x t, e = .term x t ∧ x.id = i := by
  rw [declares_iff]
  cases e <;> simp [kind, Entry.id]

/-- Declares an existential, solved or not. -/
def isEx : Entry → Bool
  | unsolved _ | solved .. => true
  | _ => false

@[simp] theorem isEx_rigid {v : Ident} : (rigid v).isEx = false := rfl
@[simp] theorem isEx_term {x : Ident} {t : Ty} : (term x t).isEx = false := rfl
@[simp] theorem isEx_unsolved {i : Nat} : (unsolved i).isEx = true := rfl
@[simp] theorem isEx_solved {i : Nat} {t : Ty} : (solved i t).isEx = true := rfl
@[simp] theorem isEx_marker {i : Nat} : (marker i).isEx = false := rfl

theorem isEx_iff {e : Entry} : e.isEx = true ↔ e.kind = .unsolved ∨ e.kind = .solved := by
  cases e <;> simp [isEx, kind]

/-- The existential that an entry declares. -/
def ex? : Entry → Option Nat
  | unsolved i | solved i _ => some i
  | _ => none

/-- The rigid variable that an entry declares. -/
def rigid? : Entry → Option Nat
  | rigid v => some v.id
  | _ => none

end Entry

/-- The existentials that entries declare. -/
def exIds (es : List Entry) : List Nat := es.filterMap Entry.ex?

/-- The rigid variables that entries declare. -/
def rigidIds (es : List Entry) : List Nat := es.filterMap Entry.rigid?

section Declared

variable {es fs : List Entry} {e : Entry}

@[simp] theorem exIds_append : exIds (es ++ fs) = exIds es ++ exIds fs := by simp [exIds]

@[simp] theorem rigidIds_append : rigidIds (es ++ fs) = rigidIds es ++ rigidIds fs := by
  simp [rigidIds]

@[simp] theorem exIds_nil : exIds [] = [] := rfl

@[simp] theorem rigidIds_nil : rigidIds [] = [] := rfl

@[simp] theorem exIds_rigid {v : Ident} : exIds (.rigid v :: es) = exIds es := rfl
@[simp] theorem exIds_term {x : Ident} {t : Ty} : exIds (.term x t :: es) = exIds es := rfl
@[simp] theorem exIds_marker {i : Nat} : exIds (.marker i :: es) = exIds es := rfl
@[simp] theorem exIds_unsolved {i : Nat} : exIds (.unsolved i :: es) = i :: exIds es := rfl
@[simp] theorem exIds_solved {i : Nat} {t : Ty} : exIds (.solved i t :: es) = i :: exIds es := rfl

@[simp] theorem rigidIds_rigid {v : Ident} : rigidIds (.rigid v :: es) = v.id :: rigidIds es := rfl
@[simp] theorem rigidIds_term {x : Ident} {t : Ty} : rigidIds (.term x t :: es) = rigidIds es := rfl
@[simp] theorem rigidIds_marker {i : Nat} : rigidIds (.marker i :: es) = rigidIds es := rfl
@[simp] theorem rigidIds_unsolved {i : Nat} : rigidIds (.unsolved i :: es) = rigidIds es := rfl
@[simp] theorem rigidIds_solved {i : Nat} {t : Ty} : rigidIds (.solved i t :: es) = rigidIds es := rfl

theorem mem_exIds {i : Nat} :
    i ∈ exIds es ↔ .unsolved i ∈ es ∨ ∃ t, .solved i t ∈ es := by
  simp only [exIds, List.mem_filterMap]
  constructor
  · rintro ⟨e, mem, declared⟩
    cases e <;> simp only [Entry.ex?, Option.some.injEq, reduceCtorEq] at declared
    · exact .inl (declared ▸ mem)
    · exact .inr ⟨_, declared ▸ mem⟩
  · rintro (mem | ⟨t, mem⟩)
    · exact ⟨_, mem, rfl⟩
    · exact ⟨_, mem, rfl⟩

theorem mem_rigidIds {i : Nat} : i ∈ rigidIds es ↔ ∃ v, .rigid v ∈ es ∧ v.id = i := by
  simp only [rigidIds, List.mem_filterMap]
  constructor
  · rintro ⟨e, mem, declared⟩
    cases e <;> simp only [Entry.rigid?, Option.some.injEq, reduceCtorEq] at declared
    exact ⟨_, mem, declared⟩
  · rintro ⟨v, mem, rfl⟩
    exact ⟨_, mem, rfl⟩

theorem rigidIds_eq_nil (only : ∀ e ∈ es, e.isEx = true) : rigidIds es = [] := by
  rw [rigidIds, List.filterMap_eq_nil_iff]
  intro e mem
  have := only e mem
  cases e <;> simp_all [Entry.isEx, Entry.rigid?]

end Declared

namespace Context

variable {c : Context} {k : EntryKind} {i n : Nat} {e : Entry} {before after : List Entry}

/-- The place of an entry splits the entries around the last one that declares the number. -/
theorem index?_eq_some (found : c.index? k i = some n) :
    ∃ (before : List Entry) (e : Entry) (after : List Entry), c.entries = before ++ e :: after ∧
      before.length = n ∧ e.declares k i = true ∧ ∀ e' ∈ after, e'.declares k i = false :=
  exists_of_lastIdx? found

theorem index?_eq_none : c.index? k i = none ↔ ∀ e ∈ c.entries, e.declares k i = false :=
  lastIdx?_eq_none

theorem index?_split (split : c.entries = before ++ e :: after) (here : e.declares k i = true)
    (last : ∀ e' ∈ after, e'.declares k i = false) : c.index? k i = some before.length := by
  rw [index?, split]
  exact lastIdx?_append_cons before here last

theorem has_iff : c.has k i = true ↔ ∃ e ∈ c.entries, e.declares k i = true := by
  cases found : c.index? k i with
  | none =>
    have absent := index?_eq_none.1 found
    simp only [has, found, Option.isSome_none, Bool.false_eq_true, false_iff]
    rintro ⟨e, mem, here⟩
    simp [absent e mem] at here
  | some n =>
    obtain ⟨before, e, after, split, -, here, -⟩ := index?_eq_some found
    simp only [has, found, Option.isSome_some, true_iff]
    exact ⟨e, by simp [split], here⟩

theorem has_unsolved : c.has .unsolved i = true ↔ .unsolved i ∈ c.entries := by
  rw [has_iff]
  constructor
  · rintro ⟨e, mem, here⟩
    exact Entry.declares_unsolved.1 here ▸ mem
  · intro mem
    exact ⟨_, mem, Entry.declares_unsolved.2 rfl⟩

/-- An unsolved existential splits the entries around its last place. -/
theorem split_unsolved (mem : .unsolved i ∈ c.entries) :
    ∃ before after, c.entries = before ++ Entry.unsolved i :: after ∧ .unsolved i ∉ after := by
  obtain ⟨n, place⟩ := Option.isSome_iff_exists.1 (has_unsolved.2 mem)
  obtain ⟨before, e, after, split, -, here, absent⟩ := index?_eq_some place
  obtain rfl := Entry.declares_unsolved.1 here
  refine ⟨before, after, split, fun mem => ?_⟩
  exact absurd (absent _ mem) (by simp [Entry.declares_unsolved])

theorem has_solved : c.has .solved i = true ↔ ∃ t, .solved i t ∈ c.entries := by
  rw [has_iff]
  constructor
  · rintro ⟨e, mem, here⟩
    obtain ⟨t, rfl⟩ := Entry.declares_solved.1 here
    exact ⟨t, mem⟩
  · rintro ⟨t, mem⟩
    exact ⟨_, mem, Entry.declares_solved.2 ⟨t, rfl⟩⟩

theorem has_rigid : c.has .rigid i = true ↔ i ∈ rigidIds c.entries := by
  rw [has_iff, mem_rigidIds]
  constructor
  · rintro ⟨e, mem, here⟩
    obtain ⟨v, rfl, id⟩ := Entry.declares_rigid.1 here
    exact ⟨v, mem, id⟩
  · rintro ⟨v, mem, id⟩
    exact ⟨_, mem, Entry.declares_rigid.2 ⟨v, rfl, id⟩⟩

theorem exIndex?_isSome : (c.exIndex? i).isSome = true ↔ i ∈ exIds c.entries := by
  have either : (c.exIndex? i).isSome = true ↔ c.has .unsolved i = true ∨ c.has .solved i = true := by
    simp only [exIndex?, has]
    cases c.index? .unsolved i <;> simp
  rw [either, has_unsolved, has_solved, mem_exIds]

/-- The type of a term variable stands in its last entry. -/
theorem typeOf?_eq_some {t : Ty} (found : c.typeOf? i = some t) :
    ∃ before x after, c.entries = before ++ .term x t :: after ∧ x.id = i ∧
      ∀ e ∈ after, e.declares .term i = false := by
  simp only [typeOf?] at found
  split at found
  · rename_i x s place
    obtain ⟨n, index, get⟩ := Option.bind_eq_some_iff.1 place
    obtain ⟨before, e, after, split, rfl, here, last⟩ := index?_eq_some index
    obtain ⟨y, u, rfl, id⟩ := Entry.declares_term.1 here
    simp only [split, List.getElem?_append_right (Nat.le_refl _), Nat.sub_self,
      List.getElem?_cons_zero, Option.some.injEq, Entry.term.injEq] at get
    cases found
    obtain ⟨rfl, rfl⟩ := get
    exact ⟨before, y, after, split, id, last⟩
  · cases found

theorem typeOf?_eq_none : c.typeOf? i = none ↔ ∀ e ∈ c.entries, e.declares .term i = false := by
  rw [← index?_eq_none]
  cases place : c.index? .term i with
  | none => simp [typeOf?, place]
  | some n =>
    obtain ⟨before, e, after, split, rfl, here, -⟩ := index?_eq_some place
    obtain ⟨x, t, rfl, -⟩ := Entry.declares_term.1 here
    simp [typeOf?, place, split]

/-- A solution that is found stands in an entry. -/
theorem mem_of_solution? {t : Ty} (found : c.solution? i = some t) : .solved i t ∈ c.entries := by
  simp only [solution?] at found
  split at found
  · rename_i j s place
    obtain ⟨n, index, get⟩ := Option.bind_eq_some_iff.1 place
    obtain ⟨before, e, after, split, rfl, here, -⟩ := index?_eq_some index
    obtain ⟨s', rfl⟩ := Entry.declares_solved.1 here
    simp only [split, List.getElem?_append_right (Nat.le_refl _), Nat.sub_self,
      List.getElem?_cons_zero, Option.some.injEq, Entry.solved.injEq] at get
    cases found
    rw [split, get.2]
    simp
  · cases found

theorem dropFrom_split (split : c.entries = before ++ e :: after) (here : e.declares k i = true)
    (last : ∀ e' ∈ after, e'.declares k i = false) :
    c.dropFrom k i = { c with entries := before } := by
  rw [dropFrom, index?_split split here last]
  simp [split]

theorem remove_split (split : c.entries = before ++ e :: after) (here : e.declares k i = true)
    (last : ∀ e' ∈ after, e'.declares k i = false) :
    c.remove k i = { c with entries := before ++ after } := by
  have erased : (before ++ e :: after).eraseIdx before.length = before ++ after := by
    rw [List.eraseIdx_append_of_length_le (Nat.le_refl _), Nat.sub_self, List.eraseIdx_cons_zero]
  rw [remove, index?_split split here last, split]
  simp only [erased]

theorem replace_split {es : List Entry} (split : c.entries = before ++ .unsolved i :: after)
    (last : .unsolved i ∉ after) :
    c.replace i es = { c with entries := before ++ es ++ after } := by
  have absent : ∀ e' ∈ after, e'.declares .unsolved i = false := by
    intro e' mem
    rw [Bool.eq_false_iff, ne_eq, Entry.declares_unsolved]
    rintro rfl
    exact last mem
  have take : c.entries.take before.length = before := by simp [split]
  have drop : c.entries.drop (before.length + 1) = after := by
    simp [split, ← List.drop_drop]
  rw [replace, index?_split split (Entry.declares_unsolved.2 rfl) absent]
  simp only [take, drop]

theorem after?_split (split : c.entries = before ++ .marker i :: after) (last : .marker i ∉ after) :
    c.after? i = some after := by
  have absent : ∀ e' ∈ after, e'.declares .marker i = false := by
    intro e' mem
    rw [Bool.eq_false_iff, ne_eq, Entry.declares_marker]
    rintro rfl
    exact last mem
  have drop : c.entries.drop (before.length + 1) = after := by
    simp [split, ← List.drop_drop]
  rw [after?, index?_split split (Entry.declares_marker.2 rfl) absent, Option.map_some, drop]

end Context

end TermBot.Typing
