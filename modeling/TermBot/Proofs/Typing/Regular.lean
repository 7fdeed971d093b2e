import TermBot.Proofs.Typing.Binders
import TermBot.Proofs.Typing.Tidy

/-!
# Regular contexts

A regular context is valid, no two of its entries of one kind declare the same number, and all
numbers in it were given out, those of term variables and of binders in their types included.
`Context.Admits` is what this asks of an expression that is inferred there. Both survive what
inference does to a context (`Regular.leads`, `Admits.leads`) and the scopes that it opens.
-/

namespace TermBot.Typing

open Scoped

/-- The kind of an entry and the number that it declares. -/
def Entry.key (e : Entry) : EntryKind × Nat := (e.kind, e.id)

/-- The keys of the entries that are no existentials. -/
def fixedKeys (es : List Entry) : List (EntryKind × Nat) := (es.filter fun e => !e.isEx).map Entry.key

/-- The term variables that entries declare. -/
def termIds (es : List Entry) : List Nat :=
  (fixedKeys es).filterMap fun k => if k.1 = .term then some k.2 else none

section Keys

variable {es fs : List Entry} {i : Nat}

@[simp] theorem fixedKeys_nil : fixedKeys [] = [] := rfl

@[simp] theorem fixedKeys_append : fixedKeys (es ++ fs) = fixedKeys es ++ fixedKeys fs := by
  simp [fixedKeys]

@[simp] theorem fixedKeys_rigid {v : Ident} : fixedKeys (.rigid v :: es) = (.rigid, v.id) :: fixedKeys es :=
  rfl
@[simp] theorem fixedKeys_term {x : Ident} {t : Ty} :
    fixedKeys (.term x t :: es) = (.term, x.id) :: fixedKeys es := rfl
@[simp] theorem fixedKeys_marker : fixedKeys (.marker i :: es) = (.marker, i) :: fixedKeys es := rfl
@[simp] theorem fixedKeys_unsolved : fixedKeys (.unsolved i :: es) = fixedKeys es := rfl
@[simp] theorem fixedKeys_solved {t : Ty} : fixedKeys (.solved i t :: es) = fixedKeys es := rfl

theorem mem_fixedKeys {k : EntryKind × Nat} : k ∈ fixedKeys es ↔ ∃ e ∈ es, e.isEx = false ∧ e.key = k := by
  simp [fixedKeys, and_assoc]

@[simp] theorem termIds_append : termIds (es ++ fs) = termIds es ++ termIds fs := by simp [termIds]

theorem Extends.fixedKeys_eq (ext : Extends es fs) : fixedKeys fs = fixedKeys es := by
  rw [fixedKeys, ext.filter_fixed, fixedKeys]

theorem Extends.termIds_eq (ext : Extends es fs) : termIds fs = termIds es := by
  rw [termIds, ext.fixedKeys_eq, termIds]

end Keys

/-- A context as inference reaches it. -/
structure Context.Regular (c : Context) : Prop where
  valid : c.Valid
  distinct : (fixedKeys c.entries).Nodup
  terms : ∀ {x t}, .term x t ∈ c.entries → x.id < c.allocated ∧ c.Apart t
  positive : 0 < c.allocated

/-- What a context asks of an expression that is inferred in it. -/
structure Context.Admits (c : Context) (e : Expr) : Prop where
  binders : e.BindsNew (termIds c.entries)
  below : e.maxId < c.allocated
  annotations : ∀ t ∈ e.annotations, t.exOccurrences = [] ∧ c.Apart t

section Regular

variable {c c' : Context} {e fn arg value : Expr} {x v : Ident} {t : Ty} {ann : Option Ty} {es : List Entry}
  {s : Supply}

namespace Context.Regular

theorem tidy (regular : c.Regular) (admits : c.Admits e) : c.Tidy e.annotations :=
  ⟨fun mem => (regular.terms mem).2, admits.annotations⟩

theorem leads (regular : c.Regular) (leads : Leads c c') : c'.Regular where
  valid := leads.valid
  distinct := by
    rw [leads.ext.fixedKeys_eq]
    exact regular.distinct
  terms mem := by
    obtain ⟨lt, apart⟩ := regular.terms (leads.ext.mem_of_fixed mem rfl)
    exact ⟨Nat.lt_of_lt_of_le lt leads.grows, apart.leads leads⟩
  positive := Nat.lt_of_lt_of_le regular.positive leads.grows

theorem key_lt (regular : c.Regular) {k : EntryKind × Nat} (mem : k ∈ fixedKeys c.entries) :
    k.2 < c.allocated := by
  obtain ⟨e, here, -, rfl⟩ := mem_fixedKeys.1 mem
  cases e with
  | term x t => exact (regular.terms here).1
  | _ => exact regular.valid.below _ here (by simp [Entry.kind])

/-- Entries added at the end, with new numbers but for term variables that are not there. -/
theorem push (regular : c.Regular) (valid : (⟨c.entries ++ es, s⟩ : Context).Valid)
    (grows : c.allocated ≤ s.used) (distinct : (fixedKeys es).Nodup)
    (new : ∀ k ∈ fixedKeys es, c.allocated ≤ k.2 ∨ k.1 = .term ∧ k.2 ∉ termIds c.entries)
    (rigids : ∀ x ∈ rigidIds es, c.allocated ≤ x)
    (terms : ∀ {x t}, .term x t ∈ es → x.id < s.used ∧ c.Apart t) :
    (⟨c.entries ++ es, s⟩ : Context).Regular where
  valid := valid
  distinct := by
    rw [fixedKeys_append, List.nodup_append]
    refine ⟨regular.distinct, distinct, ?_⟩
    rintro k old _ here rfl
    rcases new k here with le | ⟨kind, out⟩
    · exact Nat.not_lt_of_le le (regular.key_lt old)
    · refine out (List.mem_filterMap.2 ⟨k, old, ?_⟩)
      rw [if_pos kind]
  terms mem := by
    have step {t : Ty} (apart : c.Apart t) : (⟨c.entries ++ es, s⟩ : Context).Apart t := by
      refine apart.step grows fun x mem => ?_
      rw [rigidIds_append, List.mem_append] at mem
      exact mem.imp id (rigids x)
    rcases List.mem_append.1 mem with mem | mem
    · obtain ⟨lt, apart⟩ := regular.terms mem
      exact ⟨Nat.lt_of_lt_of_le lt grows, step apart⟩
    · obtain ⟨lt, apart⟩ := terms mem
      exact ⟨lt, step apart⟩
  positive := Nat.lt_of_lt_of_le regular.positive grows

theorem withRigid (regular : c.Regular) : (c.withRigid v).Regular :=
  regular.push regular.valid.withRigid (by simp [Supply.skip, Context.allocated]) (by simp) (by simp)
    (by simp) (by simp)

theorem withEx (regular : c.Regular) : c.withEx.Regular :=
  regular.push regular.valid.withEx (by simp [Supply.skip, Context.allocated]) (by simp) (by simp)
    (by simp) (by simp)

theorem withMarker (regular : c.Regular) : c.withMarker.Regular :=
  regular.push regular.valid.withMarker (by simp [Supply.skip, Context.allocated]) (by simp) (by simp)
    (by simp) (by simp)

theorem pushTerm (regular : c.Regular) (within : InScope c.entries [] t) (apart : c.Apart t)
    (below : x.id < c.allocated) (new : x.id ∉ termIds c.entries) : (c.push [.term x t]).Regular := by
  refine regular.push (regular.valid.pushTerm within) (Nat.le_refl _) (by simp) (by simp [new]) (by simp)
    fun mem => ?_
  cases List.mem_singleton.1 mem
  exact ⟨below, apart⟩

theorem withLambda (regular : c.Regular) (below : x.id < c.allocated) (new : x.id ∉ termIds c.entries) :
    (c.withLambda x).Regular := by
  refine regular.push regular.valid.withLambda (by simp [Supply.skip, Context.allocated]) (by simp)
    (by simp [new]) (by simp) fun mem => ?_
  simp only [List.mem_cons, reduceCtorEq, Entry.term.injEq, List.not_mem_nil, or_false, false_or] at mem
  obtain ⟨rfl, rfl⟩ := mem
  exact ⟨Nat.lt_of_lt_of_le below (by simp [Supply.skip, Context.allocated]), apart_of_mono rfl⟩

end Context.Regular

namespace Context.Admits

theorem step (admits : c.Admits e) (grows : c.allocated ≤ c'.allocated)
    (rigids : ∀ x ∈ rigidIds c'.entries, x ∈ rigidIds c.entries ∨ c.allocated ≤ x)
    (terms : termIds c'.entries ⊆ termIds c.entries) : c'.Admits e where
  binders := admits.binders.mono terms
  below := Nat.lt_of_lt_of_le admits.below grows
  annotations t mem := ⟨(admits.annotations t mem).1, (admits.annotations t mem).2.step grows rigids⟩

theorem leads (admits : c.Admits e) (leads : Leads c c') : c'.Admits e := by
  refine admits.step leads.grows (fun _ mem => .inl (leads.ext.rigidIds_eq ▸ mem)) ?_
  rw [leads.ext.termIds_eq]
  exact List.Subset.refl _

/-- Entries added at the end, with new numbers and no term variable. -/
theorem append (admits : c.Admits e) (grows : c.allocated ≤ s.used)
    (rigids : ∀ x ∈ rigidIds es, c.allocated ≤ x) (terms : termIds es = []) :
    (⟨c.entries ++ es, s⟩ : Context).Admits e := by
  refine admits.step grows (fun x mem => ?_) ?_
  · rw [rigidIds_append, List.mem_append] at mem
    exact mem.imp id (rigids x)
  · rw [termIds_append, terms, List.append_nil]
    exact List.Subset.refl _

theorem withRigid (admits : c.Admits e) : (c.withRigid v).Admits e :=
  admits.append (by simp [Supply.skip, Context.allocated]) (by simp) rfl

theorem withMarker (admits : c.Admits e) : c.withMarker.Admits e :=
  admits.append (by simp [Supply.skip, Context.allocated]) (by simp) rfl

/-- Under a term variable, with entries among which it is the only one. -/
theorem under (binders : e.BindsNew (x.id :: termIds c.entries)) (below : e.maxId < c.allocated)
    (annotations : ∀ t ∈ e.annotations, t.exOccurrences = [] ∧ c.Apart t) (grows : c.allocated ≤ s.used)
    (rigids : rigidIds es = []) (terms : termIds es = [x.id]) :
    (⟨c.entries ++ es, s⟩ : Context).Admits e where
  binders := by
    refine binders.mono fun i mem => ?_
    rw [termIds_append, terms, List.mem_append, List.mem_singleton] at mem
    exact List.mem_cons.2 mem.symm
  below := Nat.lt_of_lt_of_le below grows
  annotations t mem := by
    refine ⟨(annotations t mem).1, (annotations t mem).2.step grows fun x mem => ?_⟩
    rw [rigidIds_append, rigids, List.append_nil] at mem
    exact .inl mem

theorem lam (admits : c.Admits (.lam x e)) : x.id < c.allocated ∧ x.id ∉ termIds c.entries ∧
    (c.push [.term x t]).Admits e ∧ (c.withLambda x).Admits e := by
  have below := admits.below
  rw [Expr.maxId] at below
  refine ⟨by omega, admits.binders.1, ?_, ?_⟩
  · exact under admits.binders.2 (by omega) admits.annotations (Nat.le_refl _) rfl rfl
  · exact under admits.binders.2 (by omega) admits.annotations (by simp [Supply.skip, Context.allocated])
      rfl rfl

theorem app (admits : c.Admits (.app fn arg)) : c.Admits fn ∧ c.Admits arg := by
  have below := admits.below
  rw [Expr.maxId] at below
  exact ⟨⟨admits.binders.1, by omega, fun t mem => admits.annotations t (List.mem_append_left _ mem)⟩,
    ⟨admits.binders.2, by omega, fun t mem => admits.annotations t (List.mem_append_right _ mem)⟩⟩

theorem annotated (admits : c.Admits (.ann e t)) : c.Admits e ∧ t.exOccurrences = [] ∧ c.Apart t := by
  have below := admits.below
  rw [Expr.maxId] at below
  exact ⟨⟨admits.binders, by omega, fun t mem => admits.annotations t (List.mem_cons_of_mem _ mem)⟩,
    admits.annotations t List.mem_cons_self⟩

/-- The parts of a binding: what its value and its type need, and what its body does later. -/
theorem letIn (admits : c.Admits (.letIn x ann value e)) :
    c.Admits value ∧ (∀ t ∈ ann, t.exOccurrences = [] ∧ c.Apart t) ∧
      ∀ {c' : Context} {t}, Leads c c' → x.id < c'.allocated ∧ x.id ∉ termIds c'.entries ∧
        (c'.push [.term x t]).Admits e := by
  have below := admits.below
  rw [Expr.maxId] at below
  have inBody : ∀ t ∈ e.annotations, t.exOccurrences = [] ∧ c.Apart t := fun t mem =>
    admits.annotations t (List.mem_append_right _ mem)
  refine ⟨⟨admits.binders.1, by omega, fun t mem => ?_⟩, fun t mem => ?_, fun leads => ?_⟩
  · exact admits.annotations t (List.mem_append_left _ (List.mem_append_right _ mem))
  · refine admits.annotations t (List.mem_append_left _ (List.mem_append_left _ ?_))
    exact Option.mem_toList.2 mem
  · have same := leads.ext.termIds_eq
    have grows := leads.grows
    refine ⟨by omega, same ▸ admits.binders.2.1, under (same ▸ admits.binders.2.2) (by omega)
      (fun t mem => ⟨(inBody t mem).1, (inBody t mem).2.leads leads⟩) (Nat.le_refl _) rfl rfl⟩

end Context.Admits

end Regular

end TermBot.Typing
