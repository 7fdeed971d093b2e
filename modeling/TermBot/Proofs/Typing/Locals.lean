import TermBot.Proofs.Typing.Generalize
import TermBot.Proofs.Typing.NameSearch

/-!
# What generalisation closes over

Generalising a type puts a new variable for each existential in it that a marker makes local, and quantifies over
these variables (`generalize_closes`). The names are new to the type, so that each variable stands for its existential
only, whatever the numbers are. The numbers are the next ones of the supply. As long as the supply does not start
again they are new to a type whose numbers it has given out, and then no quantifier of the type captures a variable
(`Ty.uncaptured_of_new`) and substitution by numbers takes the variables back (`Ty.restore_fill`). When the supply
starts again, a quantifier of the type may have the number of a new variable (`generalize_captures`).
-/

namespace TermBot.Scoped.Ty

/-- The variables of a type and of its quantifiers, from left to right. -/
def idents : Ty → List Ident
  | var v => [v]
  | arrow a b => a.idents ++ b.idents
  | all v b => v :: b.idents
  | unit | ex _ => []

/-- The variable that is put for an existential, or the existential itself. -/
def filling (pairs : List (Nat × Ident)) (i : Nat) : Ty := ((pairs.lookup i).map var).getD (ex i)

/-- Puts variables for existentials. -/
def fill (pairs : List (Nat × Ident)) (t : Ty) : Ty := t.mapEx (filling pairs)

/-- Puts the existentials back for their variables, a variable being its name and its number. -/
def unfill (pairs : List (Nat × Ident)) : Ty → Ty
  | var v => ((pairs.find? (·.2 = v)).map fun p => ex p.1).getD (var v)
  | arrow a b => arrow (a.unfill pairs) (b.unfill pairs)
  | all v b => all v (b.unfill pairs)
  | unit => unit
  | ex i => ex i

/-- Puts the existentials back for the free variables with their numbers, one after the other. -/
def restore (pairs : List (Nat × Ident)) (t : Ty) : Ty :=
  pairs.foldl (fun u p => u.substVar p.2.id (ex p.1)) t

/-- No quantifier around an existential, `around` being the numbers of those outside of the type, has the number of
the variable that is put for it. -/
def Uncaptured (pairs : List (Nat × Ident)) (around : List Nat) : Ty → Prop
  | ex i => ∀ v, (i, v) ∈ pairs → v.id ∉ around
  | arrow a b => a.Uncaptured pairs around ∧ b.Uncaptured pairs around
  | all v b => b.Uncaptured pairs (v.id :: around)
  | unit | var _ => True

variable {pairs : List (Nat × Ident)} {t : Ty} {i j : Nat} {v : Ident} {around : List Nat}

@[simp] theorem fill_unit : unit.fill pairs = unit := rfl

@[simp] theorem fill_var : (var v).fill pairs = var v := rfl

@[simp] theorem fill_ex : (ex i).fill pairs = filling pairs i := rfl

@[simp] theorem fill_arrow {a b : Ty} : (arrow a b).fill pairs = arrow (a.fill pairs) (b.fill pairs) := rfl

@[simp] theorem fill_all : (all v t).fill pairs = all v (t.fill pairs) := rfl

theorem filling_cons : filling ((i, v) :: pairs) j = if j = i then var v else filling pairs j := by
  rw [filling, List.lookup_cons]
  by_cases here : j = i
  · simp [here]
  · rw [if_neg here, beq_false_of_ne here]
    rfl

theorem filling_of_notMem (absent : i ∉ pairs.map Prod.fst) : filling pairs i = ex i := by
  have unpaired : pairs.lookup i = none :=
    List.lookup_eq_none_iff.2 fun p mem => bne_iff_ne.2 fun same => absent (same ▸ List.mem_map_of_mem mem)
  rw [filling, unpaired]
  rfl

/-- An existential stays, or a variable that was put for it. -/
theorem filling_cases (pairs : List (Nat × Ident)) (i : Nat) :
    filling pairs i = ex i ∨ ∃ v, (i, v) ∈ pairs ∧ filling pairs i = var v := by
  induction pairs with
  | nil => exact .inl rfl
  | cons p pairs ih =>
    obtain ⟨k, w⟩ := p
    rw [filling_cons]
    by_cases here : i = k
    · exact .inr ⟨w, here ▸ List.mem_cons_self, if_pos here⟩
    · rw [if_neg here]
      exact ih.imp_right fun ⟨v, mem, filled⟩ => ⟨v, List.mem_cons_of_mem _ mem, filled⟩

/-- A generalised type is a block of quantifiers over the type with the variables in it. -/
theorem closeOver_eq_fill (pairs : List (Nat × Ident)) (t : Ty) :
    t.closeOver pairs = (pairs.map Prod.snd).foldr all (t.fill pairs) := by
  induction pairs generalizing t with
  | nil => exact (mapEx_ex t).symm
  | cons p pairs ih =>
    obtain ⟨i, v⟩ := p
    have step : (t.substEx i (var v)).fill pairs = t.fill ((i, v) :: pairs) := by
      rw [substEx, fill, fill, mapEx_mapEx]
      refine mapEx_congr fun j _ => ?_
      rw [filling_cons]
      split <;> rfl
    rw [closeOver, ih, step, List.map_cons, List.foldr_cons]

/-! ### The variables taken back -/

/-- Variables with new names stand for their existentials only. -/
theorem unfill_fill (distinct : (pairs.map (·.2.name)).Nodup) (new : ∀ p ∈ pairs, p.2.name ∉ t.names) :
    (t.fill pairs).unfill pairs = t := by
  induction t with
  | unit => rfl
  | var v =>
    have other : pairs.find? (·.2 = v) = none := by
      refine List.find?_eq_none.2 fun p mem => ?_
      rw [decide_eq_true_eq]
      rintro rfl
      exact new p mem List.mem_cons_self
    rw [fill_var, unfill, other]
    rfl
  | ex i =>
    rw [fill_ex]
    obtain kept | ⟨v, mem, filled⟩ := filling_cases pairs i
    · rw [kept, unfill]
    · obtain ⟨p, found⟩ : ∃ p, pairs.find? (·.2 = v) = some p := by
        rw [← Option.isSome_iff_exists, List.find?_isSome]
        exact ⟨(i, v), mem, by simp⟩
      have same : p.2 = v := by simpa using List.find?_some found
      have first : p = (i, v) :=
        List.inj_on_of_nodup_map distinct (List.mem_of_find?_eq_some found) mem (congrArg Ident.name same)
      rw [filled, unfill, found, first]
      rfl
  | arrow a b iha ihb =>
    have left := iha fun p mem => (not_or.1 (mt List.mem_append.2 (new p mem))).1
    have right := ihb fun p mem => (not_or.1 (mt List.mem_append.2 (new p mem))).2
    rw [fill_arrow, unfill, left, right]
  | all v b ih => rw [fill_all, unfill, ih fun p mem => mt (List.mem_cons_of_mem _) (new p mem)]

/-- A variable with a new number is taken back. -/
theorem substVar_fill (new : v.id ∉ t.idents.map (·.id)) (others : v.id ∉ pairs.map (·.2.id))
    (once : i ∉ pairs.map Prod.fst) : (t.fill ((i, v) :: pairs)).substVar v.id (ex i) = t.fill pairs := by
  induction t with
  | unit => rfl
  | var x =>
    have ne : x.id ≠ v.id := fun same => new (List.mem_singleton.2 same.symm)
    exact if_neg ne
  | ex j =>
    rw [fill_ex, fill_ex, filling_cons]
    split
    case isTrue here =>
      rw [here, filling_of_notMem once]
      exact if_pos rfl
    case isFalse =>
      obtain kept | ⟨w, mem, filled⟩ := filling_cases pairs j
      · rw [kept]
        rfl
      · have ne : w.id ≠ v.id := fun same => others (same ▸ List.mem_map_of_mem (f := (·.2.id)) mem)
        rw [filled]
        exact if_neg ne
  | arrow a b iha ihb =>
    rw [idents, List.map_append, List.mem_append, not_or] at new
    rw [fill_arrow, fill_arrow, substVar, iha new.1, ihb new.2]
  | all x b ih =>
    rw [idents, List.map_cons, List.mem_cons, not_or] at new
    rw [fill_all, fill_all, substVar, if_neg (Ne.symm new.1), ih new.2]

/-- Variables with new numbers are taken back by their numbers. -/
theorem restore_fill (once : (pairs.map Prod.fst).Nodup) (distinct : (pairs.map (·.2.id)).Nodup)
    (new : ∀ p ∈ pairs, p.2.id ∉ t.idents.map (·.id)) : (t.fill pairs).restore pairs = t := by
  induction pairs with
  | nil => exact mapEx_ex t
  | cons p pairs ih =>
    rw [List.map_cons, List.nodup_cons] at once distinct
    rw [List.forall_mem_cons] at new
    rw [restore, List.foldl_cons, substVar_fill new.1 distinct.1 once.1]
    exact ih once.2 distinct.2 new.2

/-- No quantifier captures a variable with a new number. -/
theorem uncaptured_of_new (new : ∀ p ∈ pairs, p.2.id ∉ t.idents.map (·.id) ∧ p.2.id ∉ around) :
    t.Uncaptured pairs around := by
  induction t generalizing around with
  | ex i => exact fun v mem => (new _ mem).2
  | arrow a b iha ihb =>
    simp only [idents, List.map_append, List.mem_append, not_or] at new
    exact ⟨iha fun p mem => ⟨(new p mem).1.1, (new p mem).2⟩, ihb fun p mem => ⟨(new p mem).1.2, (new p mem).2⟩⟩
  | all v b ih =>
    simp only [idents, List.map_cons, List.mem_cons, not_or] at new
    exact ih fun p mem => ⟨(new p mem).1.2, List.not_mem_cons_of_ne_of_not_mem (new p mem).1.1 (new p mem).2⟩
  | _ => trivial

end TermBot.Scoped.Ty

namespace TermBot.Typing

open Scoped

variable {c : Context} {back : List Entry} {t : Ty} {pairs : List (Nat × Ident)}

/-- The pairs are the existentials of the type that are unsolved among the entries `back`, in the order of their first
occurrence, with variables that have the next numbers of the context and names that are new to the type. -/
structure ClosesOver (c : Context) (back : List Entry) (t : Ty) (pairs : List (Nat × Ident)) : Prop where
  locals : ∀ i, i ∈ pairs.map Prod.fst ↔ i ∈ t.exOccurrences ∧ .unsolved i ∈ back
  ordered : (pairs.map Prod.fst).Pairwise fun i j => t.exOccurrences.idxOf i < t.exOccurrences.idxOf j
  numbers : pairs.map (·.2.id) = (List.range pairs.length).map fun k => c.supply.wrap (c.next + k)
  distinct : (pairs.map (·.2.name)).Nodup
  new : ∀ p ∈ pairs, p.2.name ∉ t.names

/-- The numbers that follow the next one, counted from there. -/
theorem wrap_range' (s : Supply) (count : Nat) :
    (List.range' s.used count).map s.wrap = (List.range count).map fun k => s.wrap (s.next + k) := by
  rw [List.range'_eq_map_range, List.map_map]
  refine List.map_congr_left fun k _ => ?_
  rw [Function.comp_apply, Supply.next, Supply.wrap, Supply.wrap, Supply.wrap, Nat.mod_add_mod]

/-- While the supply does not start again, the numbers are different from each other and from all that it has given
out. -/
theorem ClosesOver.numbers_new (closes : ClosesOver c back t pairs)
    (fits : c.supply.size = 0 ∨ c.next + pairs.length ≤ c.supply.size) :
    (pairs.map (·.2.id)).Nodup ∧ ∀ p ∈ pairs, c.next ≤ p.2.id := by
  have plain : pairs.map (·.2.id) = List.range' c.next pairs.length := by
    rw [closes.numbers, List.range'_eq_map_range]
    refine List.map_congr_left fun k mem => ?_
    have lt := List.mem_range.1 mem
    rcases fits with unlimited | fits
    · rw [Supply.wrap, unlimited, Nat.mod_zero]
    · exact Nat.mod_eq_of_lt (by omega)
  refine ⟨plain ▸ List.nodup_range', fun p mem => ?_⟩
  have given : p.2.id ∈ List.range' c.next pairs.length := plain ▸ List.mem_map_of_mem (f := (·.2.id)) mem
  exact (List.mem_range'_1.1 given).1

/-- **Generalisation closes over exactly the local existentials.** In every context that declares the marker, the
result is a block of quantifiers over the type with their variables put for those of its existentials that are unsolved
behind the (last) marker; the entries stay as they are. Taken back as they are, name and number, the variables give the
type again. If the numbers in the type are below the next one and the supply does not start again, no quantifier of the
type captures a variable, and the numbers alone are enough to take them back. -/
theorem generalize_closes {mark : Nat} (declared : .marker mark ∈ c.entries) (t : Ty) :
    ∃ front back pairs, c.entries = front ++ .marker mark :: back ∧ .marker mark ∉ back ∧
      (generalize mark t).run c =
        (.ok ((pairs.map Prod.snd).foldr .all (t.fill pairs)), { c with supply := c.supply.skip pairs.length }) ∧
      ClosesOver c back t pairs ∧ (t.fill pairs).unfill pairs = t ∧
      ((∀ v ∈ t.idents, v.id < c.next) → c.supply.size = 0 ∨ c.next + pairs.length ≤ c.supply.size →
        t.Uncaptured pairs [] ∧ (t.fill pairs).restore pairs = t) := by
  obtain ⟨back, front, reversed, last⟩ := List.eq_append_cons_of_mem (List.mem_reverse.2 declared)
  have split : c.entries = front.reverse ++ .marker mark :: back.reverse := by
    rw [← List.reverse_reverse c.entries, reversed]
    simp
  replace last : .marker mark ∉ back.reverse := mt List.mem_reverse.1 last
  obtain ⟨pairs, ordered, locals, numbers, names, run⟩ := run_generalize_wrap (t := t) split last
  obtain ⟨distinct, new⟩ := nextNames_new pairs.length t.names
  rw [← names] at distinct new
  have fresh : ∀ p ∈ pairs, p.2.name ∉ t.names := fun p mem => new _ (List.mem_map_of_mem (f := (·.2.name)) mem)
  have closes : ClosesOver c back.reverse t pairs :=
    ⟨locals, ordered, numbers.trans (wrap_range' c.supply pairs.length), distinct, fresh⟩
  rw [Ty.closeOver_eq_fill] at run
  refine ⟨_, _, pairs, split, last, run, closes, Ty.unfill_fill distinct fresh, fun below fits => ?_⟩
  obtain ⟨once, above⟩ := closes.numbers_new fits
  have unused : ∀ p ∈ pairs, p.2.id ∉ t.idents.map (·.id) := by
    intro p mem used
    obtain ⟨v, inside, same⟩ := List.mem_map.1 used
    have lt := below v inside
    have le := above p mem
    omega
  refine ⟨Ty.uncaptured_of_new fun p mem => ⟨unused p mem, List.not_mem_nil⟩, Ty.restore_fill ?_ once unused⟩
  exact ordered.imp fun lt same => absurd (same ▸ lt) (Nat.lt_irrefl _)

/-- Two of three existentials are local, and a quantifier of the type has the first name of the sequence. -/
theorem generalize_closes_two :
    let a : Ident := ⟨"a", 4⟩
    let b : Ident := ⟨"b", 10⟩
    let d : Ident := ⟨"c", 11⟩
    let c : Context := { entries := [.unsolved 1, .marker 2, .unsolved 3, .rigid ⟨"r", 6⟩, .unsolved 5], supply := 10 }
    let t : Ty := .all a (.arrow (.ex 5) (.arrow (.ex 1) (.arrow (.ex 3) (.arrow (.ex 5) (.var a)))))
    let body : Ty := .all a (.arrow (.var b) (.arrow (.ex 1) (.arrow (.var d) (.arrow (.var b) (.var a)))))
    .marker 2 ∈ c.entries ∧ (generalize 2 t).run c = (.ok (.all b (.all d body)), { c with supply := 12 }) ∧
      ∃ pairs : List (Nat × Ident), (pairs.map Prod.snd).foldr .all (t.fill pairs) = .all b (.all d body) ∧
        (t.fill pairs).unfill pairs = t ∧ t.Uncaptured pairs [] ∧ (t.fill pairs).restore pairs = t := by
  intro a b d c t body
  have declared : .marker 2 ∈ c.entries := by decide
  have ran : (generalize 2 t).run c = (.ok (.all b (.all d body)), { c with supply := 12 }) :=
    Prod.ext (by decide +kernel) (by rfl)
  obtain ⟨front, back, pairs, -, -, run, -, unfilled, rest⟩ := generalize_closes declared t
  rw [ran, Prod.mk.injEq, Except.ok.injEq, Context.mk.injEq] at run
  obtain ⟨whole, -, supply⟩ := run
  have count : 12 = 10 + pairs.length := congrArg Supply.used supply
  have room : c.next + pairs.length ≤ c.supply.size := by
    have next : c.next = 10 := by decide +kernel
    have size : c.supply.size = 4294967296 := by decide +kernel
    omega
  have below : ∀ v ∈ t.idents, v.id < c.next := by decide +kernel
  obtain ⟨uncaptured, restored⟩ := rest below (.inr room)
  exact ⟨declared, ran, pairs, whole.symm, unfilled, uncaptured, restored⟩

/-- The second number after the last one is that of a quantifier in the type, which captures the second variable. -/
theorem generalize_captures :
    let x : Ident := ⟨"x", 0⟩
    let a : Ident := ⟨"a", 4294967295⟩
    let b : Ident := ⟨"b", 0⟩
    let c : Context := { entries := [.marker 7, .unsolved 5, .unsolved 6], supply := 4294967295 }
    let t : Ty := .all x (.arrow (.ex 5) (.ex 6))
    let pairs : List (Nat × Ident) := [(5, a), (6, b)]
    .marker 7 ∈ c.entries ∧ (∀ v ∈ t.idents, v.id < c.next) ∧
      (generalize 7 t).run c =
        (.ok (.all a (.all b (.all x (.arrow (.var a) (.var b))))), { c with supply := 4294967297 }) ∧
      t.fill pairs = .all x (.arrow (.var a) (.var b)) ∧ ¬ t.Uncaptured pairs [] ∧
      (t.fill pairs).restore pairs = .all x (.arrow (.ex 5) (.var b)) := by
  intro x a b c t pairs
  refine ⟨by decide, by decide +kernel, Prod.ext (by decide +kernel) (by rfl), by decide +kernel, fun uncaptured => ?_, by decide +kernel⟩
  exact uncaptured.2 b (by decide) (by decide)

end TermBot.Typing
