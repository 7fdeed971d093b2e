import TermBot.Proofs.Scoped.Resolution
import TermBot.Proofs.Surface.Printing
import TermBot.Proofs.Typing.FreshNames
import TermBot.Proofs.Typing.Tidy

/-!
# Types that can be read without numbers

A type refers to its quantifiers by numbers and is shown with names. It is `Ty.Legible` when no variable is
bound by one quantifier and has the name of another one further in. Annotations are of this kind as they were
scoped (`Ty.Linked.legible`); opening a quantifier, putting in solutions and generalising keep types so, and
therefore inference gives such a type: `Infers.clear`. What the names say is then what the numbers say
(`read_eq_reading`).
-/

namespace TermBot.Surface

/-- The declarative type that a written type stands for, with the names of the quantifiers around it,
innermost first. -/
def TypeExpr.reading (bound : List String) : TypeExpr → Typing.Poly
  | .unit => .unit
  | .name n _ => .bvar (bound.idxOf n)
  | .arrow a b => .arrow (a.reading bound) (b.reading bound)
  | .all n b => .all (b.reading (n :: bound))

end TermBot.Surface

namespace TermBot.Scoped

open Surface (TypeExpr)
open Typing

/-- The innermost binder with a number. -/
def Scope.numbered? (sc : Scope) (id : Nat) : Option Ident := List.find? (·.id = id) sc

/-- The types differ in the names and numbers of their quantifiers only: whatever the existentials stand for,
they are read as the same declarative type, in which a bound variable is an index. -/
def Ty.AlphaEquiv (t u : Ty) : Prop := ∀ σ, t.read σ [] = u.read σ []

/-- If a quantifier of `around` binds the variable, then it is also the innermost one of its name, and this
name is not that of the unit type. -/
def Ident.Shown (v : Ident) (around : Scope) : Prop :=
  ∀ u, around.numbered? v.id = some u → around.find? v.name = some u ∧ v.name ≠ "Unit"

/-- Under the quantifiers `around`, innermost first, names tell bound variables apart as numbers do. -/
def Ty.Legible (around : Scope) : Ty → Prop
  | .unit | .ex _ => True
  | .var v => v.Shown around
  | .arrow a b => a.Legible around ∧ b.Legible around
  | .all v b => b.Legible (v :: around)

/-- A type that is shown in full by its names: they tell its variables apart, and every quantifier has a number
of its own. -/
structure Ty.Clear (t : Ty) : Prop where
  legible : t.Legible []
  distinct : t.binders.Nodup

section Shown

variable {around inner outer : Scope} {u v w : Ident}

theorem Scope.name_of_find? {n : String} (found : around.find? n = some u) : u.name = n :=
  (Scope.innermost_of_find? found).1

theorem Scope.id_of_numbered? {i : Nat} (found : around.numbered? i = some u) : u.id = i := by
  simpa using List.find?_some found

theorem Scope.exists_numbered?_iff {i : Nat} :
    (∃ u, around.numbered? i = some u) ↔ i ∈ around.map (·.id) := by
  rw [← Option.isSome_iff_exists, numbered?, List.find?_isSome]
  simp

theorem Ident.shown_of_free (free : v.id ∉ around.map (·.id)) : v.Shown around := fun u found =>
  absurd (Scope.exists_numbered?_iff.1 ⟨u, found⟩) free

/-- Quantifiers further out may be left out. -/
theorem Ident.Shown.of_append (shown : v.Shown (inner ++ outer)) : v.Shown inner := by
  intro u found
  have all : Scope.numbered? (inner ++ outer) v.id = some u := by
    rw [Scope.numbered?, List.find?_append, show List.find? (·.id = v.id) inner = some u from found,
      Option.some_or]
  obtain ⟨named, plain⟩ := shown u all
  refine ⟨?_, plain⟩
  obtain ⟨x, first⟩ : ∃ x, inner.find? v.name = some x := by
    rw [Scope.exists_find?_iff, ← Scope.name_of_find? named]
    exact List.mem_map_of_mem (List.mem_of_find?_eq_some found)
  rw [Scope.find?, List.find?_append, show List.find? (·.name = v.name) inner = some x from first,
    Option.some_or] at named
  exact first.trans named

/-- A quantifier with another name and another number may be put anywhere. -/
theorem Ident.Shown.insert (shown : v.Shown (inner ++ outer)) (name : w.name ≠ v.name) (id : w.id ≠ v.id) :
    v.Shown (inner ++ w :: outer) := by
  intro u found
  have sameId : Scope.numbered? (inner ++ w :: outer) v.id = Scope.numbered? (inner ++ outer) v.id := by
    simp only [Scope.numbered?, List.find?_append, List.find?_cons, id, decide_false]
  have sameName : Scope.find? (inner ++ w :: outer) v.name = Scope.find? (inner ++ outer) v.name := by
    simp only [Scope.find?, List.find?_append, List.find?_cons, name, decide_false]
  rw [sameName]
  exact shown u (sameId ▸ found)

/-- A variable of a quantifier that no quantifier further in can be taken for. -/
theorem Ident.shown_inserted (plain : v.name ≠ "Unit") (new : ∀ w ∈ inner, w.name ≠ v.name ∧ w.id ≠ v.id) :
    v.Shown (inner ++ v :: outer) := by
  have first (p : Ident → Bool) (here : p v = true) (others : ∀ w ∈ inner, p w = false) :
      List.find? p (inner ++ v :: outer) = some v := by
    rw [List.find?_append, List.find?_eq_none.2 fun w mem => by simp [others w mem], Option.none_or,
      List.find?_cons_of_pos here]
  intro u found
  rw [Scope.numbered?, first _ (by simp) fun w mem => by simpa using (new w mem).2] at found
  cases found
  exact ⟨first _ (by simp) fun w mem => by simpa using (new w mem).1, plain⟩

/-- Counted from the inside, the quantifier of the number is the one of the name. -/
theorem Ident.Shown.idxOf_eq (shown : v.Shown around) (bound : v.id ∈ around.map (·.id)) :
    (around.map (·.id)).idxOf v.id = (around.map (·.name)).idxOf v.name := by
  obtain ⟨u, found⟩ := Scope.exists_numbered?_iff.2 bound
  obtain ⟨named, -⟩ := shown u found
  clear shown bound
  induction around with
  | nil => cases found
  | cons w around ih =>
    by_cases id : w.id = v.id
    · -- the innermost one has the number, hence the name
      rw [Scope.numbered?, List.find?_cons_of_pos (by simpa using id)] at found
      cases found
      simp [id, Scope.name_of_find? named]
    · have name : w.name ≠ v.name := by
        intro name
        rw [Scope.find?, List.find?_cons_of_pos (by simpa using name)] at named
        cases named
        exact id (Scope.id_of_numbered? found)
      rw [Scope.numbered?, List.find?_cons_of_neg (by simpa using id)] at found
      rw [Scope.find?, List.find?_cons_of_neg (by simpa using name)] at named
      rw [List.map_cons, List.map_cons, List.idxOf_cons_ne _ id, List.idxOf_cons_ne _ name, ih found named]

end Shown

namespace Ty

section Legible

variable {around inner outer : Scope} {t : Ty} {v : Ident} {es : List Entry} {bound : List Nat} {i : Nat}

theorem Legible.of_append (legible : t.Legible (inner ++ outer)) : t.Legible inner := by
  induction t generalizing inner with
  | var v => exact Ident.Shown.of_append legible
  | arrow a b iha ihb => exact ⟨iha legible.1, ihb legible.2⟩
  | all v b ih => exact @ih (v :: inner) legible
  | _ => trivial

/-- Opening a quantifier. -/
theorem Legible.substVar (legible : t.Legible (inner ++ [v])) :
    (t.substVar v.id (.ex i)).Legible inner := by
  induction t generalizing inner with
  | var x =>
    rw [Ty.substVar]
    split
    · trivial
    · exact legible.of_append
  | arrow a b iha ihb => exact ⟨iha legible.1, ihb legible.2⟩
  | all x b ih =>
    rw [Ty.substVar]
    split
    · exact legible.of_append
    · exact @ih (x :: inner) legible
  | _ => trivial

/-- The variables of a type without quantifiers are not bound where the context does not declare them. -/
theorem legible_of_mono (mono : t.isMono = true) (within : InScope es [] t)
    (apart : ∀ x ∈ around.map (·.id), x ∉ rigidIds es) : t.Legible around := by
  induction t with
  | var x => exact Ident.shown_of_free fun mem => apart _ mem ((inScope_var.1 within).resolve_left (by simp))
  | arrow a b iha ihb =>
    simp only [isMono, Bool.and_eq_true] at mono
    rw [inScope_arrow] at within
    exact ⟨iha mono.1 within.1, ihb mono.2 within.2⟩
  | all x b => simp [isMono] at mono
  | _ => trivial

/-- Putting in solutions. -/
theorem Legible.mapEx {f : Nat → Ty} (legible : t.Legible around)
    (images : ∀ i ∈ t.exOccurrences, (f i).isMono = true ∧ InScope es [] (f i))
    (binders : ∀ x ∈ t.binders, x ∉ rigidIds es) (apart : ∀ x ∈ around.map (·.id), x ∉ rigidIds es) :
    (t.mapEx f).Legible around := by
  induction t generalizing around with
  | ex i =>
    obtain ⟨mono, within⟩ := images i (by simp [exOccurrences])
    exact legible_of_mono mono within apart
  | arrow a b iha ihb =>
    simp only [exOccurrences, Ty.binders, List.forall_mem_append] at images binders
    exact ⟨iha legible.1 images.1 binders.1 apart, ihb legible.2 images.2 binders.2 apart⟩
  | all x b ih =>
    rw [Ty.binders, List.forall_mem_cons] at binders
    exact ih legible images binders.2 (List.forall_mem_cons.2 ⟨binders.1, apart⟩)
  | _ => exact legible

/-- A new variable for an existential, and a quantifier for it. -/
theorem Legible.substEx (legible : t.Legible (inner ++ outer)) (plain : v.name ≠ "Unit")
    (name : v.name ∉ t.names) (id : t.maxId < v.id) (new : ∀ w ∈ inner, w.name ≠ v.name ∧ w.id ≠ v.id) :
    (t.substEx i (.var v)).Legible (inner ++ v :: outer) := by
  induction t generalizing inner with
  | var x =>
    refine Ident.Shown.insert legible (fun same => name ?_) (Nat.ne_of_gt id)
    rw [names, same]
    exact List.mem_singleton_self _
  | ex j =>
    rw [Ty.substEx, Ty.mapEx]
    split
    · exact Ident.shown_inserted plain new
    · trivial
  | arrow a b iha ihb =>
    rw [names, List.mem_append, not_or] at name
    have below := Nat.max_lt.1 id
    exact ⟨iha legible.1 name.1 below.1 new, ihb legible.2 name.2 below.2 new⟩
  | all x b ih =>
    rw [names, List.mem_cons, not_or] at name
    have below := Nat.max_lt.1 id
    refine @ih (x :: inner) legible name.2 below.2 (List.forall_mem_cons.2 ⟨?_, new⟩)
    exact ⟨fun same => name.1 same.symm, Nat.ne_of_lt below.1⟩
  | unit => trivial

theorem names_substEx : (t.substEx i (.var v)).names ⊆ v.name :: t.names := by
  induction t with
  | ex j =>
    rw [Ty.substEx, Ty.mapEx]
    split <;> simp [names]
  | arrow a b iha ihb =>
    simp only [Ty.substEx, Ty.mapEx, names] at iha ihb ⊢
    intro n mem
    rcases List.mem_append.1 mem with mem | mem
    · exact (List.mem_cons.1 (iha mem)).elim (· ▸ List.mem_cons_self) fun mem => by simp [mem]
    · exact (List.mem_cons.1 (ihb mem)).elim (· ▸ List.mem_cons_self) fun mem => by simp [mem]
  | all x b ih =>
    simp only [Ty.substEx, Ty.mapEx, names] at ih ⊢
    intro n mem
    rcases List.mem_cons.1 mem with rfl | mem
    · simp
    · exact (List.mem_cons.1 (ih mem)).elim (· ▸ List.mem_cons_self) fun mem => by simp [mem]
  | _ => simp [Ty.substEx, Ty.mapEx]

theorem maxId_substEx : (t.substEx i (.var v)).maxId ≤ max t.maxId v.id := by
  induction t with
  | ex j =>
    rw [Ty.substEx, Ty.mapEx]
    split
    · exact Nat.le_max_right _ _
    · exact Nat.le_max_left _ _
  | arrow a b iha ihb =>
    simp only [Ty.substEx, Ty.mapEx, maxId] at iha ihb ⊢
    omega
  | all x b ih =>
    simp only [Ty.substEx, Ty.mapEx, maxId] at ih ⊢
    omega
  | _ => exact Nat.le_max_left _ _

/-- Generalising with names that are not taken and numbers that are not used. -/
theorem Legible.closeOver {pairs : List (Nat × Ident)} {taken : List String} {n : Nat}
    (legible : t.Legible around) (sub : t.names ⊆ taken)
    (names : pairs.map (·.2.name) = nextNames pairs.length taken) (below : t.maxId < n)
    (ids : pairs.map (·.2.id) = List.range' n pairs.length) : (t.closeOver pairs).Legible around := by
  induction pairs generalizing t taken n around with
  | nil => exact legible
  | cons p pairs ih =>
    rw [List.map_cons, List.length_cons, nextNames, List.cons.injEq] at names
    rw [List.map_cons, List.length_cons, List.range'_succ, List.cons.injEq] at ids
    obtain ⟨name, names⟩ := names
    obtain ⟨id, ids⟩ := ids
    have new : p.2.name ∉ t.names := fun mem => nextName_notMem taken (name ▸ sub mem)
    have outside : t.Legible ([] ++ around) := legible
    have opened : (t.substEx p.1 (.var p.2)).Legible (p.2 :: around) :=
      outside.substEx (name ▸ nextName_ne_unit taken) new (id ▸ below) (by simp)
    have lt : (t.substEx p.1 (.var p.2)).maxId < n + 1 := by
      have le := maxId_substEx (t := t) (i := p.1) (v := p.2)
      omega
    have sub : (t.substEx p.1 (.var p.2)).names ⊆ p.2.name :: taken := fun m mem =>
      List.cons_subset_cons _ sub (names_substEx mem)
    exact ih opened sub (name ▸ names) lt ids

theorem binders_closeOver (pairs : List (Nat × Ident)) :
    (t.closeOver pairs).binders = pairs.map (·.2.id) ++ t.binders := by
  induction pairs generalizing t with
  | nil => rfl
  | cons p pairs ih =>
    rw [Ty.closeOver, Ty.binders, ih, binders_substEx, List.map_cons, List.cons_append]

theorem Clear.closeOver {pairs : List (Nat × Ident)} {n : Nat} (clear : t.Clear)
    (names : pairs.map (·.2.name) = nextNames pairs.length t.names) (below : t.maxId < n)
    (ids : pairs.map (·.2.id) = List.range' n pairs.length) : (t.closeOver pairs).Clear where
  legible := clear.legible.closeOver (List.Subset.refl _) names below ids
  distinct := by
    rw [binders_closeOver, ids, List.nodup_append]
    refine ⟨List.nodup_range', clear.distinct, fun x new y old => ?_⟩
    have lt := Nat.lt_of_le_of_lt (le_maxId_of_mem_binders old) below
    have le := (List.mem_range'_1.1 new).1
    omega

theorem clear_of_mono (mono : t.isMono = true) (within : InScope es [] t) : t.Clear :=
  ⟨legible_of_mono mono within (by simp), by simp [binders_eq_nil mono]⟩

/-- The body of a quantifier, with an existential for its variable. -/
theorem Clear.opened {b : Ty} (clear : (Ty.all v b).Clear) : (b.substVar v.id (.ex i)).Clear where
  legible := by
    have body : b.Legible ([] ++ [v]) := clear.legible
    exact body.substVar
  distinct := by
    rw [binders_substVar rfl]
    exact (List.nodup_cons.1 clear.distinct).2

theorem Clear.cod {a b : Ty} (clear : (Ty.arrow a b).Clear) : b.Clear :=
  ⟨clear.legible.2, (List.nodup_append.1 clear.distinct).2.1⟩

/-- A scoped type whose quantifiers have numbers of their own. -/
theorem Linked.legible (linked : t.Linked around) (named : t.written.Named)
    (distinct : (t.binders ++ around.map (·.id)).Nodup) : t.Legible around := by
  induction t generalizing around with
  | var v =>
    obtain ⟨inner, outer, rfl, others⟩ := linked
    refine Ident.shown_inserted named.2 fun w mem => ⟨others w mem, fun same => ?_⟩
    rw [Ty.binders, List.nil_append, List.map_append, List.nodup_append] at distinct
    exact distinct.2.2 _ (List.mem_map_of_mem mem) _ (List.mem_map_of_mem List.mem_cons_self) same
  | arrow a b iha ihb =>
    rw [Ty.binders] at distinct
    refine ⟨iha linked.1 named.1 (distinct.sublist ?_), ihb linked.2 named.2 (distinct.sublist ?_)⟩
    · exact List.Sublist.append_right (List.sublist_append_left _ _) _
    · exact List.Sublist.append_right (List.sublist_append_right _ _) _
  | all v b ih =>
    refine ih linked named.2 ?_
    rw [List.map_cons]
    exact (List.perm_middle.nodup_iff).2 distinct
  | _ => trivial

theorem Linked.clear (linked : t.Linked []) (named : t.written.Named) (distinct : t.binders.Nodup) :
    t.Clear :=
  ⟨linked.legible named (by simpa using distinct), distinct⟩

/-- A closed legible type is read off the names alone. -/
theorem Legible.read_eq_reading {σ : Nat → Poly} (legible : t.Legible around)
    (closed : InScope [] (around.map (·.id)) t) :
    t.read σ (around.map (·.id)) = t.written.reading (around.map (·.name)) := by
  induction t generalizing around with
  | unit => rfl
  | var v =>
    have bound : v.id ∈ around.map (·.id) := (inScope_var.1 closed).resolve_right (by simp)
    rw [read, if_pos bound, Ident.Shown.idxOf_eq legible bound, written, TypeExpr.reading]
  | ex i => exact absurd (inScope_ex.1 closed) (by simp)
  | arrow a b iha ihb =>
    rw [inScope_arrow] at closed
    rw [read, iha legible.1 closed.1, ihb legible.2 closed.2, written, TypeExpr.reading]
  | all v b ih => exact congrArg Poly.all (@ih (v :: around) legible closed)

end Legible

end Ty

end TermBot.Scoped

namespace TermBot.Typing

open Scoped

/-- The types of the term variables are shown in full by their names. -/
def ClearTerms (es : List Entry) : Prop := ∀ x t, .term x t ∈ es → t.Clear

section Terms

variable {c c' c₁ c₂ : Context} {t u : Ty} {x : Ident} {rest : List Entry} {s : Supply}

theorem ClearTerms.leads (terms : ClearTerms c.entries) (leads : Leads c c') : ClearTerms c'.entries :=
  fun x t mem => terms x t (leads.ext.mem_of_fixed mem rfl)

theorem ClearTerms.push (terms : ClearTerms c.entries) (clear : t.Clear) :
    ClearTerms (c.push [.term x t]).entries := by
  intro y u mem
  rcases List.mem_append.1 mem with mem | mem
  · exact terms y u mem
  · cases List.mem_singleton.1 mem
    exact clear

theorem Context.Valid.clear_apply (valid : c.Valid) (clear : t.Clear) (apart : c.Apart t)
    (within : InScope c.entries [] t) : (c.apply t).Clear where
  legible := by
    have images : ∀ i ∈ t.exOccurrences,
        (c.apply (.ex i)).isMono = true ∧ InScope c.entries [] (c.apply (.ex i)) := fun i mem =>
      ⟨valid.isMono_apply_ex i, valid.inScope_apply (inScope_ex.2 (within.mem_exIds mem))⟩
    exact clear.legible.mapEx images (fun x mem => (apart x mem).2) (by simp)
  distinct := by
    rw [valid.binders_apply]
    exact clear.distinct

/-- A type that is generalised after a marker. -/
theorem Leads.clear_generalize (leads : Leads ⟨c.entries ++ .marker c.allocated :: rest, s⟩ c₁)
    (unlimited : c.supply.size = 0) (size : s.size = c.supply.size) (lt : c.allocated < s.used)
    (unmarked : .marker c.allocated ∉ rest) (flat : rigidIds rest = []) (within : InScope c₁.entries [] u)
    (gen : (Typing.generalize c.allocated (c₁.apply u)).run c₁ = (.ok t, c₂)) (apart : c₁.Apart u)
    (clear : u.Clear) : t.Clear := by
  obtain ⟨front, back, pairs, -, -, generalizes, rfl, -⟩ :=
    leads.generalize unlimited size (Nat.le_of_lt lt) unmarked flat within gen
  have positive : 0 < c₁.allocated := Nat.lt_of_lt_of_le (Nat.zero_lt_of_lt lt) leads.grows
  have below : (c₁.apply u).maxId < c₁.allocated :=
    (leads.valid.inScope_apply within).maxId_lt positive (fun _ => leads.valid.rigid_lt)
      (fun _ => leads.valid.ex_lt) (fun x mem => (apart.apply leads.valid x mem).1) (by simp)
  exact (leads.valid.clear_apply clear apart within).closeOver generalizes.names below generalizes.numbers

end Terms

/-- The inferred type is shown in full by its names. -/
theorem Infers.clear {c c' : Context} {goal : Goal} (infers : Infers c goal c') (posed : goal.Posed c)
    (given : ∀ t ∈ goal.given, t.Clear) (annotations : ∀ t ∈ goal.annotations, t.Clear)
    (terms : ClearTerms c.entries) : ∀ t ∈ goal.result, t.Clear := by
  induction infers with
  | checkAll | checkUnit | checkLam | checkLet | checkSub => simp [Goal.result]
  | var found =>
    obtain ⟨before, x, after, split, -, -⟩ := Context.typeOf?_eq_some found
    simpa [Goal.result] using terms x _ (by simp [split])
  | unit => simpa [Goal.result] using (⟨trivial, List.nodup_nil⟩ : Ty.unit.Clear)
  | @ann _ _ _ t =>
    simpa [Goal.result] using annotations t (by simp [Goal.annotations, Expr.annotations])
  | @lam c c₁ c₂ x e t body gen _ =>
    have leads := posed.synthLam.leads body
    have within : InScope c₁.entries [] c.lambdaType :=
      leads.ext.inScope (by simp [Context.lambdaType, Context.withLambda])
    have clear := leads.clear_generalize posed.unlimited rfl (by simp [Supply.skip, Context.allocated])
      (by simp) (by simp) within gen (apart_of_mono rfl) (Ty.clear_of_mono rfl within)
    simpa [Goal.result] using clear
  | @app c c₁ c₂ fn arg s t fnType applied ihFn ihApply =>
    obtain ⟨first, within, apart⟩ := fnType.gives posed.synthFn rfl
    have fnClear : s.Clear := ihFn posed.synthFn (by simp [Goal.given])
      (fun t mem => annotations t (List.mem_append_left _ mem)) terms s (by simp [Goal.result])
    exact ihApply (posed.synthArg first within apart)
      (by simpa [Goal.given] using first.valid.clear_apply fnClear apart within)
      (fun t mem => annotations t (List.mem_append_right _ mem)) (terms.leads first)
  | @letIn c c₁ c₂ x ann value e bound t binding body ihBinding ihBody =>
    obtain ⟨first, within, apart⟩ := binding.gives posed.synthBinding rfl
    have boundClear : bound.Clear := ihBinding posed.synthBinding (by simp [Goal.given])
      (fun t mem => annotations t (List.mem_append_left _ mem)) terms bound (by simp [Goal.result])
    exact ihBody (posed.synthBody first within apart) (by simp [Goal.given])
      (fun t mem => annotations t (List.mem_append_right _ mem)) ((terms.leads first).push boundClear)
  | @applyAll c c' v b t arg body ih =>
    have clear : (Ty.all v b).Clear := given _ (by simp [Goal.given])
    exact ih posed.applyAll (by simpa [Goal.given] using clear.opened) annotations
      (terms.leads (Leads.withUnsolved posed.valid))
  | @applyEx c => simpa [Goal.result] using (⟨trivial, List.nodup_nil⟩ : (Ty.ex c.allocated).Clear)
  | @applyArrow c _ dom cod _ checked _ =>
    have whole : (Ty.arrow dom cod).Clear := given _ (by simp [Goal.given])
    simpa [Goal.result] using whole.cod
  | @annotated _ _ _ t => simpa [Goal.result] using annotations t (by simp [Goal.annotations])
  | @generalized c c₁ c₂ value s t synth gen ih =>
    obtain ⟨leads, within, apart⟩ := synth.gives posed.bindGeneralized rfl
    have marked : ClearTerms c.withMarker.entries := fun x t mem =>
      terms x t (by simpa [Context.withMarker] using mem)
    have valueClear : s.Clear := ih posed.bindGeneralized (by simp [Goal.given]) annotations marked s
      (by simp [Goal.result])
    have clear := leads.clear_generalize posed.unlimited rfl (by simp [Supply.skip, Context.allocated])
      (by simp) (by simp) within gen apart valueClear
    simpa [Goal.result] using clear

end TermBot.Typing
