import TermBot.Proofs.Typing.Regular
import TermBot.Proofs.Typing.Trace

/-!
# What a coherent context promises

`Context.Coherent` says that a context is well formed, in the terms of the checker alone. A regular
context is coherent while numbers did not run out (`Regular.coherent`). There, putting in solutions
until none is left comes to an end on every type in scope (`Applies`), with the result that `apply`
computes, in which no solved existential is left.
-/

namespace TermBot.Typing

open Scoped

/-- The types in an entry. -/
def Entry.types : Entry → List Ty
  | term _ t | solved _ t => [t]
  | _ => []

/-- Every number of the context was given out, and no two entries of one kind declare the same, solved
and unsolved existentials taken together; the type of a term variable and a solution are well formed
in the entries before them, and solutions hold no quantifier. -/
structure Context.Coherent (c : Context) : Prop where
  declared : ∀ e ∈ c.entries, e.id < c.next
  mentioned : ∀ e ∈ c.entries, ∀ t ∈ e.types, t.maxId < c.next
  distinct : ∀ k, ((c.entries.filter fun e => e.kind = k).map Entry.id).Nodup
  existentials : (exIds c.entries).Nodup
  earlier : ∀ before e after, c.entries = before ++ e :: after →
    ∀ t ∈ e.types, Context.wellFormedIn before [] t = true
  monotypes : ∀ i t, .solved i t ∈ c.entries → t.isMono = true

/-- Putting in solutions, in solutions too, until none is left gives the second type. -/
inductive Applies (c : Context) : Ty → Ty → Prop where
  | unit : Applies c .unit .unit
  | var {v : Ident} : Applies c (.var v) (.var v)
  | arrow {a b a' b' : Ty} (dom : Applies c a a') (cod : Applies c b b') :
      Applies c (.arrow a b) (.arrow a' b')
  | all {v : Ident} {b b' : Ty} (body : Applies c b b') : Applies c (.all v b) (.all v b')
  | unsolved {i : Nat} (none : c.solution? i = none) : Applies c (.ex i) (.ex i)
  | solved {i : Nat} {s r : Ty} (found : c.solution? i = some s) (rest : Applies c s r) : Applies c (.ex i) r

section Applies

variable {c : Context} {t r r' : Ty}

theorem Applies.det (first : Applies c t r) (second : Applies c t r') : r = r' := by
  induction first generalizing r' with
  | unit | var =>
    cases second
    rfl
  | arrow _ _ ihDom ihCod =>
    cases second with
    | arrow dom cod => rw [ihDom dom, ihCod cod]
  | all _ ih =>
    cases second with
    | all body => rw [ih body]
  | unsolved none =>
    cases second with
    | unsolved _ => rfl
    | solved found _ => cases none.symm.trans found
  | solved found _ ih =>
    cases second with
    | unsolved none => cases none.symm.trans found
    | solved found' rest =>
      cases found.symm.trans found'
      exact ih rest

/-- On a type, application is made of what it does on the existentials. -/
theorem Applies.of_images (images : ∀ i ∈ t.exOccurrences, Applies c (.ex i) (c.apply (.ex i))) :
    Applies c t (c.apply t) := by
  induction t with
  | unit => exact .unit
  | var v => exact .var
  | ex i => exact images i (by simp [Ty.exOccurrences])
  | arrow a b iha ihb =>
    exact .arrow (iha fun i mem => images i (by simp [Ty.exOccurrences, mem]))
      (ihb fun i mem => images i (by simp [Ty.exOccurrences, mem]))
  | all v b ih => exact .all (ih images)

namespace Context.Valid

theorem applies_apply (valid : c.Valid) (within : InScope c.entries [] t) : Applies c t (c.apply t) := by
  have images : ∀ i ∈ exIds c.entries, Applies c (.ex i) (c.apply (.ex i)) := by
    refine valid.apply_induction (P := fun i => Applies c (.ex i)) valid.ordered (List.Subset.refl _) ?_ ?_
    · intro i mem
      exact .unsolved (valid.solution?_eq_none.2 fun _ => valid.not_solved mem)
    · intro i t mem earlier
      exact .solved (valid.solution?_eq_some.2 mem) (.of_images earlier)
  exact .of_images fun i mem => images i (within.mem_exIds mem)

/-- Putting in solutions comes to an end, with the type that `apply` computes. -/
theorem applies_iff (valid : c.Valid) (within : InScope c.entries [] t) :
    Applies c t r ↔ r = c.apply t := by
  constructor
  · intro applies
    exact applies.det (valid.applies_apply within)
  · rintro rfl
    exact valid.applies_apply within

/-- No solved existential is left. -/
theorem has_solved_apply (valid : c.Valid) (within : InScope c.entries [] t) :
    ∀ i ∈ (c.apply t).exOccurrences, c.has .solved i = false := by
  intro i mem
  have unsolved := valid.settled_apply (fun _ => within.mem_exIds) i mem
  rw [Bool.eq_false_iff, ne_eq, Context.has_solved]
  rintro ⟨s, solved⟩
  exact valid.not_solved unsolved solved

theorem apply_idem (valid : c.Valid) (within : InScope c.entries [] t) :
    c.apply (c.apply t) = c.apply t :=
  valid.apply_of_settled (valid.settled_apply fun _ => within.mem_exIds)

end Context.Valid

end Applies

theorem Ordered.fits {before after : List Entry} {e : Entry} (ordered : Ordered [] (before ++ e :: after)) :
    e.Fits before := by
  have tail := (ordered_append.1 ordered).2.1
  rwa [List.nil_append] at tail

section Distinct

variable {es : List Entry} {k : EntryKind}

/-- Among entries of a kind that is no existential, numbers are as different as keys. -/
theorem nodup_of_fixedKeys (distinct : (fixedKeys es).Nodup) (fixed : k ≠ .unsolved ∧ k ≠ .solved) :
    ((es.filter fun e => e.kind = k).map Entry.id).Nodup := by
  have sub : ((es.filter fun e => e.kind = k).map Entry.key).Sublist (fixedKeys es) := by
    refine List.Sublist.map _ (List.monotone_filter_right es fun e kind => ?_)
    have kind : e.kind = k := by simpa using kind
    simpa [Entry.isEx_iff, kind, ← Bool.not_eq_true] using fixed
  have keys := distinct.sublist sub
  rw [List.nodup_iff_pairwise_ne, List.pairwise_map] at keys ⊢
  refine keys.imp_of_mem fun {a b} ha hb ne same => ne ?_
  have ha : a.kind = k := by simpa using (List.mem_filter.1 ha).2
  have hb : b.kind = k := by simpa using (List.mem_filter.1 hb).2
  rw [Entry.key, Entry.key, ha, hb, same]

theorem nodup_of_exIds (distinct : (exIds es).Nodup) (ex : k = .unsolved ∨ k = .solved) :
    ((es.filter fun e => e.kind = k).map Entry.id).Nodup := by
  have same : (es.filter fun e => e.kind = k).map Entry.id = exIds (es.filter fun e => e.kind = k) := by
    rw [exIds, ← List.filterMap_eq_map]
    refine List.filterMap_congr fun e mem => ?_
    have kind : e.kind = k := by simpa using (List.mem_filter.1 mem).2
    cases e <;> rcases ex with rfl | rfl <;> cases kind <;> rfl
  rw [same]
  exact distinct.sublist (List.Sublist.filterMap _ List.filter_sublist)

end Distinct

namespace Context.Regular

variable {c : Context} {t : Ty}

theorem resize (regular : c.Regular) (size : Nat) : (c.resize size).Regular :=
  ⟨⟨regular.valid.ordered, regular.valid.distinct, regular.valid.below⟩, regular.distinct, regular.terms,
    regular.positive⟩

theorem maxId_lt (regular : c.Regular) (within : InScope c.entries [] t)
    (binders : ∀ x ∈ t.binders, x < c.allocated) : t.maxId < c.allocated :=
  within.maxId_lt regular.positive (fun _ => regular.valid.rigid_lt) (fun _ => regular.valid.ex_lt) binders
    (by simp)

/-- A regular context is coherent while numbers did not run out. -/
theorem coherent (regular : c.Regular) (next : c.next = c.allocated) : c.Coherent where
  declared e mem := by
    rw [next]
    cases e with
    | term x t => exact (regular.terms mem).1
    | _ => exact regular.valid.below _ mem (by simp [Entry.kind])
  mentioned e mem t inside := by
    rw [next]
    cases e with
    | term x u =>
      obtain rfl := List.mem_singleton.1 inside
      exact regular.maxId_lt (regular.valid.ordered.of_term mem) fun x bound => ((regular.terms mem).2 x bound).1
    | solved i u =>
      obtain rfl := List.mem_singleton.1 inside
      obtain ⟨mono, within⟩ := regular.valid.ordered.of_solved mem
      exact regular.maxId_lt within (by simp [Ty.binders_eq_nil mono])
    | _ => cases inside
  distinct k := by
    by_cases ex : k = .unsolved ∨ k = .solved
    · exact nodup_of_exIds regular.valid.distinct ex
    · exact nodup_of_fixedKeys regular.distinct (not_or.1 ex)
  existentials := regular.valid.distinct
  earlier before e after split t inside := by
    have ordered := regular.valid.ordered
    rw [split] at ordered
    have fits := ordered.fits
    cases e with
    | term x u =>
      obtain rfl := List.mem_singleton.1 inside
      exact fits
    | solved i u =>
      obtain rfl := List.mem_singleton.1 inside
      exact fits.2
    | _ => cases inside
  monotypes i t mem := (regular.valid.ordered.of_solved mem).1

end Context.Regular

end TermBot.Typing
