import TermBot.Proofs.Typing.Rules
import Mathlib.Data.List.Range

/-!
# Generalisation

Generalising a type puts new variables for its local existentials and quantifies over them.
`run_generalize` says which existentials these are and which numbers and names the variables get, and
`run_generalize_wrap` says it of a supply that may start again; `closeOver` is the type it gives.
-/

namespace TermBot.Scoped.Ty

open Typing

/-- Quantifies over variables that are put for existentials, the first pair outermost. -/
def closeOver : List (Nat × Ident) → Ty → Ty
  | [], t => t
  | (i, v) :: rest, t => .all v (closeOver rest (t.substEx i (.var v)))

section FirstOccurrences

variable {l : List Nat} {i : Nat} {t : Ty}

theorem mem_firstOccurrences : i ∈ firstOccurrences l ↔ i ∈ l := by
  induction l with
  | nil => simp [firstOccurrences]
  | cons a l ih =>
    simp only [firstOccurrences, List.mem_cons, List.mem_filter, ih]
    by_cases eq : i = a <;> simp [eq]

theorem mem_existentials : i ∈ t.existentials ↔ i ∈ t.exOccurrences := mem_firstOccurrences

/-- What occurs first stands first. -/
theorem ordered_firstOccurrences (l : List Nat) :
    (firstOccurrences l).Pairwise fun i j => l.idxOf i < l.idxOf j := by
  induction l with
  | nil => exact .nil
  | cons a l ih =>
    have other {j : Nat} (mem : j ∈ (firstOccurrences l).filter (· ≠ a)) : (a :: l).idxOf j = l.idxOf j + 1 := by
      have ne : j ≠ a := by simpa using List.of_mem_filter mem
      exact List.idxOf_cons_ne _ ne.symm
    refine List.pairwise_cons.2 ⟨fun j mem => ?_, (ih.filter _).imp_of_mem fun first second lt => ?_⟩
    · rw [other mem, List.idxOf_cons_self]
      exact Nat.zero_lt_succ _
    · rw [other first, other second]
      exact Nat.succ_lt_succ lt

end FirstOccurrences

section CloseOver

variable {pairs : List (Nat × Ident)} {t : Ty} {i j : Nat} {v w : Ident} {es fs : List Entry}
  {bound : List Nat}

theorem mem_exOccurrences_substEx (mem : j ∈ (t.substEx i (.var v)).exOccurrences) :
    j ∈ t.exOccurrences ∧ j ≠ i := by
  obtain ⟨k, inside, here⟩ := mem_exOccurrences_mapEx.1 mem
  by_cases eq : k = i
  · simp [eq, exOccurrences] at here
  · simp only [eq, if_false, exOccurrences, List.mem_singleton] at here
    exact here ▸ ⟨inside, eq⟩

theorem binders_substEx : (t.substEx i (.var v)).binders = t.binders := by
  refine binders_mapEx fun k _ => ?_
  split <;> rfl

theorem mem_exOccurrences_closeOver (mem : j ∈ (t.closeOver pairs).exOccurrences) :
    j ∈ t.exOccurrences ∧ j ∉ pairs.map Prod.fst := by
  induction pairs generalizing t with
  | nil => exact ⟨mem, by simp⟩
  | cons p pairs ih =>
    obtain ⟨inside, out⟩ := ih (t := t.substEx p.1 (.var p.2)) mem
    obtain ⟨inside, ne⟩ := mem_exOccurrences_substEx inside
    refine ⟨inside, ?_⟩
    rw [List.map_cons, List.mem_cons, not_or]
    exact ⟨ne, out⟩

theorem mem_binders_closeOver {x : Nat} (mem : x ∈ (t.closeOver pairs).binders) :
    x ∈ t.binders ∨ x ∈ pairs.map (·.2.id) := by
  induction pairs generalizing t with
  | nil => exact .inl mem
  | cons p pairs ih =>
    simp only [closeOver, binders, List.mem_cons] at mem
    simp only [List.map_cons, List.mem_cons]
    rcases mem with eq | mem
    · exact .inr (.inl eq)
    · rcases ih mem with mem | mem
      · exact .inl (binders_substEx ▸ mem)
      · exact .inr (.inr mem)

theorem inScope_substEx (within : InScope es bound t) (declared : v.id ∈ bound ∨ v.id ∈ rigidIds es) :
    InScope es bound (t.substEx i (.var v)) := by
  induction t generalizing bound with
  | ex j =>
    simp only [substEx, mapEx]
    split
    · exact inScope_var.2 declared
    · exact within
  | arrow a b iha ihb =>
    rw [inScope_arrow] at within
    exact inScope_arrow.2 ⟨iha within.1 declared, ihb within.2 declared⟩
  | all x b ih =>
    exact inScope_all.2 (ih (inScope_all.1 within) (declared.imp (List.mem_cons_of_mem _) id))
  | _ => exact within

/-- The generalised type is in every scope that declares what is left of the type. -/
theorem inScope_closeOver (within : InScope es bound t) (rigids : rigidIds es ⊆ rigidIds fs)
    (exs : ∀ i ∈ t.exOccurrences, i ∉ pairs.map Prod.fst → i ∈ exIds fs) :
    InScope fs bound (t.closeOver pairs) := by
  induction pairs generalizing t bound with
  | nil =>
    exact within.mono (fun _ mem => .inr (rigids mem)) (fun i mem _ => exs i mem (by simp))
      fun _ mem => mem
  | cons p pairs ih =>
    have wider : InScope es (p.2.id :: bound) t :=
      within.mono (fun _ mem => .inr mem) (fun _ _ mem => mem) fun _ mem => List.mem_cons_of_mem _ mem
    refine inScope_all.2 (ih (inScope_substEx wider (.inl List.mem_cons_self)) fun i mem out => ?_)
    obtain ⟨inside, ne⟩ := mem_exOccurrences_substEx mem
    refine exs i inside ?_
    rw [List.map_cons, List.mem_cons, not_or]
    exact ⟨ne, out⟩

theorem substEx_comm (ne : i ≠ j) :
    (t.substEx i (.var v)).substEx j (.var w) = (t.substEx j (.var w)).substEx i (.var v) := by
  rw [substEx, substEx, substEx, substEx, mapEx_mapEx, mapEx_mapEx]
  refine mapEx_congr fun k _ => ?_
  by_cases eqI : k = i
  · simp [eqI, ne, mapEx]
  · by_cases eqJ : k = j <;> simp [eqI, eqJ, mapEx, ne.symm]

/-- A variable that is put for an existential and does not occur otherwise may be taken back. -/
theorem substVar_substEx (within : InScope es bound t) (notBound : v.id ∉ bound)
    (undeclared : v.id ∉ rigidIds es) (free : v.id ∉ t.binders) :
    (t.substEx i (.var v)).substVar v.id (.ex i) = t := by
  induction t generalizing bound with
  | var x =>
    have ne : x.id ≠ v.id := fun eq =>
      (inScope_var.1 within).elim (fun mem => notBound (eq ▸ mem)) fun mem => undeclared (eq ▸ mem)
    simp [substEx, mapEx, substVar, ne]
  | ex j => by_cases eq : j = i <;> simp [substEx, mapEx, substVar, eq]
  | arrow a b iha ihb =>
    rw [inScope_arrow] at within
    simp only [binders, List.mem_append, not_or] at free
    have left := iha within.1 notBound free.1
    have right := ihb within.2 notBound free.2
    simp only [substEx, mapEx, substVar] at left right ⊢
    rw [left, right]
  | all x b ih =>
    simp only [binders, List.mem_cons, not_or] at free
    have inner := ih (inScope_all.1 within) (by simp [notBound, free.1]) free.2
    have ne : x.id ≠ v.id := fun eq => free.1 eq.symm
    simp only [substEx, mapEx, substVar, ne, if_false] at inner ⊢
    rw [inner]
  | unit => rfl

theorem substVar_closeOver (within : InScope es bound t) (notBound : v.id ∉ bound)
    (undeclared : v.id ∉ rigidIds es) (free : v.id ∉ t.binders) (other : i ∉ pairs.map Prod.fst)
    (new : v.id ∉ pairs.map (·.2.id)) :
    ((t.substEx i (.var v)).closeOver pairs).substVar v.id (.ex i) = t.closeOver pairs := by
  induction pairs generalizing t bound with
  | nil => exact substVar_substEx within notBound undeclared free
  | cons p pairs ih =>
    obtain ⟨j, w⟩ := p
    rw [List.map_cons, List.mem_cons, not_or] at other new
    have ne : w.id ≠ v.id := fun eq => new.1 eq.symm
    have wider : InScope es (w.id :: bound) t :=
      within.mono (fun _ mem => .inr mem) (fun _ _ mem => mem) fun _ mem => List.mem_cons_of_mem _ mem
    rw [closeOver, closeOver, substVar, if_neg ne, substEx_comm other.1]
    rw [ih (inScope_substEx wider (.inl List.mem_cons_self)) (by simp [notBound, new.1])
      (by rwa [binders_substEx]) other.2 new.2]

end CloseOver

end TermBot.Scoped.Ty

namespace TermBot.Typing

open Scoped

theorem run_rename {c : Context} (ids : List Nat) (taken : List String) (t : Ty) (k : Nat) :
    ∃ (pairs : List (Nat × Ident)) (vs : List Ident) (body : Ty),
      (rename ids taken t).run { c with supply := c.supply.skip k } =
        (.ok (vs, body), { c with supply := c.supply.skip (k + ids.length) }) ∧
      vs.foldr .all body = t.closeOver pairs ∧ pairs.map Prod.fst = ids ∧
      pairs.map (·.2.id) = (List.range' (c.allocated + k) ids.length).map c.supply.wrap ∧
      pairs.map (·.2.name) = nextNames ids.length taken := by
  induction ids generalizing taken t k with
  | nil => exact ⟨[], [], t, rfl, rfl, rfl, rfl, rfl⟩
  | cons i ids ih =>
    obtain ⟨v, first, number⟩ : ∃ v : Ident, (freshVar (nextName taken)).run
        { c with supply := c.supply.skip k } = (.ok v, { c with supply := c.supply.skip (k + 1) }) ∧
        v.name = nextName taken ∧ v.id = c.supply.wrap (c.allocated + k) := ⟨_, rfl, rfl, rfl⟩
    obtain ⟨pairs, vs, body, run, closed, fsts, numbers, names⟩ :=
      ih (v.name :: taken) (t.substEx i (.var v)) (k + 1)
    refine ⟨(i, v) :: pairs, v :: vs, body, ?_, ?_, ?_, ?_, ?_⟩
    · rw [rename, run_bind_of_ok first, run_bind_of_ok run, run_pure, List.length_cons,
        Nat.add_assoc, Nat.add_comm 1]
    · rw [List.foldr_cons, closed, Ty.closeOver]
    · rw [List.map_cons, fsts]
    · rw [List.map_cons, numbers, List.length_cons, List.range'_succ, List.map_cons, Nat.add_assoc,
        number.2]
    · rw [List.map_cons, names, List.length_cons, nextNames, number.1]

/-- A generalisation gives out numbers and leaves the entries as they are. -/
theorem run_generalize_skip {c : Context} {mark : Nat} (t : Ty) : ∃ u k,
    (generalize mark t).run c = (.ok u, { c with supply := c.supply.skip k }) := by
  rw [generalize, run_bind_of_ok run_get]
  cases c.after? mark with
  | none => exact ⟨t, 0, rfl⟩
  | some scope =>
    obtain ⟨pairs, vs, body, run, -⟩ := run_rename (c := c)
      (t.existentials.filter fun i => scope.any (·.declares .unsolved i)) t.names t 0
    exact ⟨_, _, run_bind_of_ok run⟩

/-- Generalisation over the unsolved existentials after a marker, on any supply. -/
theorem run_generalize_wrap {c : Context} {t : Ty} {mark : Nat} {front back : List Entry}
    (split : c.entries = front ++ .marker mark :: back) (last : .marker mark ∉ back) :
    ∃ pairs : List (Nat × Ident),
      (pairs.map Prod.fst).Pairwise (fun i j => t.exOccurrences.idxOf i < t.exOccurrences.idxOf j) ∧
      (∀ i, i ∈ pairs.map Prod.fst ↔ i ∈ t.exOccurrences ∧ .unsolved i ∈ back) ∧
      pairs.map (·.2.id) = (List.range' c.allocated pairs.length).map c.supply.wrap ∧
      pairs.map (·.2.name) = nextNames pairs.length t.names ∧
      (generalize mark t).run c =
        (.ok (t.closeOver pairs), { c with supply := c.supply.skip pairs.length }) := by
  have found : c.after? mark = some back := Context.after?_split split last
  obtain ⟨pairs, vs, body, run, closed, fsts, numbers, names⟩ := run_rename (c := c)
    (t.existentials.filter fun i => back.any (·.declares .unsolved i)) t.names t 0
  have length : (t.existentials.filter fun i => back.any (·.declares .unsolved i)).length =
      pairs.length := by rw [← fsts, List.length_map]
  refine ⟨pairs, ?_, fun i => ?_, ?_, ?_, ?_⟩
  · rw [fsts]
    exact (Ty.ordered_firstOccurrences _).filter _
  · rw [fsts, List.mem_filter, Ty.mem_existentials, List.any_eq_true]
    refine and_congr Iff.rfl ⟨?_, fun mem => ⟨_, mem, Entry.declares_unsolved.2 rfl⟩⟩
    rintro ⟨e, mem, here⟩
    exact Entry.declares_unsolved.1 here ▸ mem
  · rw [numbers, length, Nat.add_zero]
  · rw [names, length]
  · rw [generalize, run_bind_of_ok run_get, found]
    simp only
    rw [← closed, ← length]
    refine (run_bind_of_ok run).trans ?_
    rw [run_pure, Nat.zero_add]

/-- The variables that generalisation puts for the local existentials of a type. -/
structure Generalizes (c : Context) (back : List Entry) (t : Ty) (pairs : List (Nat × Ident)) :
    Prop where
  nodup : (pairs.map Prod.fst).Nodup
  mem : ∀ i, i ∈ pairs.map Prod.fst ↔ i ∈ t.exOccurrences ∧ .unsolved i ∈ back
  numbers : pairs.map (·.2.id) = List.range' c.allocated pairs.length
  names : pairs.map (·.2.name) = nextNames pairs.length t.names

section Generalizes

variable {c : Context} {front back : List Entry} {t : Ty} {pairs : List (Nat × Ident)} {mark i x : Nat}

theorem Generalizes.nodup_numbers (gen : Generalizes c back t pairs) : (pairs.map (·.2.id)).Nodup := by
  rw [gen.numbers]
  exact List.nodup_range'

theorem Generalizes.number_bounds (gen : Generalizes c back t pairs) (mem : x ∈ pairs.map (·.2.id)) :
    c.allocated ≤ x ∧ x < c.allocated + pairs.length := by
  rwa [gen.numbers, List.mem_range'_1] at mem

/-- What is left of the type is unsolved before the marker, or generalised. -/
theorem Generalizes.front_or_back (gen : Generalizes c back t pairs)
    (split : c.entries = front ++ .marker mark :: back) (distinct : (exIds c.entries).Nodup)
    (unsolved : .unsolved i ∈ c.entries) (mem : i ∈ t.exOccurrences) :
    i ∈ exIds front ∧ i ∉ pairs.map Prod.fst ∨ .unsolved i ∈ back ∧ i ∈ pairs.map Prod.fst := by
  rw [split, exIds_append, List.nodup_append] at distinct
  rw [split, List.mem_append, List.mem_cons] at unsolved
  rw [gen.mem]
  rcases unsolved with here | eq | here
  · have first : i ∈ exIds front := mem_exIds.2 (.inl here)
    exact .inl ⟨first, fun both => distinct.2.2 i first i (by simp [mem_exIds.2 (.inl both.2)]) rfl⟩
  · cases eq
  · exact .inr ⟨here, mem, here⟩

end Generalizes

/-- Generalisation over the unsolved existentials after a marker. -/
theorem run_generalize {c : Context} {t : Ty} {mark : Nat} {front back : List Entry}
    (unlimited : c.supply.size = 0) (split : c.entries = front ++ .marker mark :: back)
    (last : .marker mark ∉ back) : ∃ pairs, Generalizes c back t pairs ∧
      (generalize mark t).run c =
        (.ok (t.closeOver pairs), { c with supply := c.supply.skip pairs.length }) := by
  obtain ⟨pairs, ordered, mem, numbers, names, run⟩ := run_generalize_wrap (t := t) split last
  have nodup : (pairs.map Prod.fst).Nodup := ordered.imp fun lt same => absurd (same ▸ lt) (Nat.lt_irrefl _)
  have plain : c.supply.wrap = id := by
    funext k
    rw [Supply.wrap, unlimited, Nat.mod_zero, id]
  exact ⟨pairs, ⟨nodup, mem, by rw [numbers, plain, List.map_id], names⟩, run⟩

end TermBot.Typing
