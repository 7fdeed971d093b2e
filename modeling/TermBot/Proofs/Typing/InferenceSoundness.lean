import TermBot.Proofs.Typing.Assignment
import TermBot.Proofs.Typing.Tidy
import Mathlib.Algebra.Group.Nat.Defs

/-!
# Inference is sound

Under every valuation that satisfies the context a derivation of inference leaves, the expression has
the type in declarative type assignment: `Infers.sound`. Where a scope ends with a generalisation, the
valuation gives the generalised existentials the new variables (`Generalizing.leads`). Whence
`infer_sound`: the type inferred for a closed expression is one of its types.
-/

namespace TermBot.Typing

open Scoped

/-- The variable that an entry binds, with its type under a valuation. -/
def Entry.binding? (σ : Nat → Poly) : Entry → Option (Nat × Poly)
  | .term x t => some (x.id, t.read σ [])
  | _ => none

/-- The types of the term variables of a context under a valuation. -/
def env (σ : Nat → Poly) (es : List Entry) : Env := (es.filterMap (Entry.binding? σ)).reverse

section Env

variable {Δ : Finset Nat} {σ σ' : Nat → Poly} {c : Context} {es fs : List Entry} {x : Ident} {t : Ty}
  {i : Nat}

theorem env_append : env σ (es ++ fs) = env σ fs ++ env σ es := by simp [env]

theorem env_eq_filter (es : List Entry) : env σ es = env σ (es.filter fun e => !e.isEx) := by
  rw [env, env, List.filterMap_filter]
  congr 2
  funext e
  cases e <;> rfl

theorem Extends.env_eq (ext : Extends es fs) : env σ fs = env σ es := by
  rw [env_eq_filter, ext.filter_fixed, ← env_eq_filter]

theorem env_push : env σ (c.push [.term x t]).entries = (x.id, t.read σ []) :: env σ c.entries := env_append

theorem env_eq_of_no_term (none : ∀ e ∈ fs, e.kind ≠ .term) : env σ (es ++ fs) = env σ es := by
  have nothing : fs.filterMap (Entry.binding? σ) = [] := by
    rw [List.filterMap_eq_nil_iff]
    intro e mem
    cases e with
    | term x t => exact absurd rfl (none _ mem)
    | _ => rfl
  rw [env_append, env, nothing]
  rfl

theorem env_congr (ordered : Ordered [] es) (same : ∀ i ∈ exIds es, σ i = σ' i) : env σ es = env σ' es := by
  rw [env, env]
  congr 1
  refine List.filterMap_congr fun e mem => ?_
  cases e with
  | term x t =>
    have within := ordered.of_term mem
    rw [Entry.binding?, Ty.read_congr fun i inside => same i (within.mem_exIds inside)]
    rfl
  | _ => rfl

theorem Sat.env_within (sat : Sat Δ σ c.entries) (valid : c.Valid) :
    (env σ c.entries).Within (scope Δ c.entries) := by
  intro p mem
  rw [env, List.mem_reverse, List.mem_filterMap] at mem
  obtain ⟨e, mem, eq⟩ := mem
  cases e with
  | term x t =>
    cases eq
    exact sat.within (valid.ordered.of_term mem)
  | _ => cases eq

theorem lookup_env_of_absent (absent : ∀ e ∈ es, e.declares .term i = false) : (env σ es).lookup i = none := by
  rw [List.lookup_eq_none_iff]
  intro p mem
  rw [env, List.mem_reverse, List.mem_filterMap] at mem
  obtain ⟨e, mem, eq⟩ := mem
  cases e with
  | term y s =>
    cases eq
    have ne := absent _ mem
    rw [Bool.eq_false_iff, ne_eq, Entry.declares_iff] at ne
    exact bne_iff_ne.2 fun eq => ne ⟨rfl, eq.symm⟩
  | _ => cases eq

theorem lookup_env (found : c.typeOf? i = some t) : (env σ c.entries).lookup i = some (t.read σ []) := by
  obtain ⟨before, x, after, split, rfl, last⟩ := Context.typeOf?_eq_some found
  have absent : (env σ after).lookup x.id = none := lookup_env_of_absent last
  have split' : c.entries = (before ++ [Entry.term x t]) ++ after := by simp [split]
  rw [split', env_append, List.lookup_append, absent, env_append]
  exact List.lookup_cons_self

/-- A variable that has a type in the environment has one in the context. -/
theorem exists_typeOf? {B : Poly} (found : (env σ c.entries).lookup i = some B) :
    ∃ t, c.typeOf? i = some t ∧ B = t.read σ [] := by
  cases type : c.typeOf? i with
  | some t => exact ⟨t, rfl, Option.some.inj (found.symm.trans (lookup_env type))⟩
  | none =>
    have absent : (env σ c.entries).lookup i = none := lookup_env_of_absent (Context.typeOf?_eq_none.1 type)
    cases absent.symm.trans found

end Env

/-- A valuation of the context before the marker extends to one of the whole context, with the new
variables as the values of the generalised existentials. -/
theorem Generalizes.exists_sat {Δ : Finset Nat} {σ : Nat → Poly} {c : Context} {front back : List Entry}
    {mark : Nat} {t : Ty} {pairs : List (Nat × Ident)} (gen : Generalizes c back t pairs) (valid : c.Valid)
    (split : c.entries = front ++ .marker mark :: back) (settled : c.Settled t) (sat : Sat Δ σ front) :
    ∃ σ', Sat (Δ ∪ (pairs.map (·.2.id)).toFinset) σ' c.entries ∧ (∀ i ∈ exIds front, σ' i = σ i) ∧
      t.read (valued σ pairs) [] = t.read σ' [] := by
  have wider : Δ ⊆ Δ ∪ (pairs.map (·.2.id)).toFinset := Finset.subset_union_left
  have picks : ∀ i, (valued (fun _ => .unit) pairs i).Mono ∧
      (valued (fun _ => .unit) pairs i).Within (scope (Δ ∪ (pairs.map (·.2.id)).toFinset) front) 0 := by
    intro i
    by_cases mem : i ∈ pairs.map Prod.fst
    · obtain ⟨x, here, value⟩ := (valued_of_mem (fun _ => .unit) (fun _ => .unit) mem).2
      rw [value]
      exact ⟨trivial, mem_scope.2 (.inl (Finset.mem_union_right _ (List.mem_toFinset.2 here)))⟩
    · rw [valued_of_notMem mem]
      exact ⟨trivial, trivial⟩
  obtain ⟨σ', sat', kept, picked⟩ := (sat.mono wider).extend (valued (fun _ => .unit) pairs)
    (split ▸ valid.ordered) (split ▸ valid.distinct) fun i _ => picks i
  refine ⟨σ', split ▸ sat', kept, Ty.read_congr fun i mem => ?_⟩
  rcases gen.front_or_back split valid.distinct (settled i mem) mem with ⟨here, out⟩ | ⟨here, inside⟩
  · rw [kept i here, valued_of_notMem out]
  · rw [picked i (List.mem_cons_of_mem _ here)]
    exact (valued_of_mem _ _ inside).1

/-- An expression has the generalised type if it has the type under every valuation of the scope. -/
theorem Generalizing.leads {J : Finset Nat → Env → Expr → Poly → Prop} (rule : Generalizing J)
    {Δ : Finset Nat} {σ : Nat → Poly} {c c₁ c₂ : Context} {rest : List Entry} {s : Supply} {t u : Ty}
    {e : Expr} (leads : Leads ⟨c.entries ++ .marker c.allocated :: rest, s⟩ c₁) (valid : c.Valid)
    (unlimited : c.supply.size = 0) (size : s.size = c.supply.size) (le : c.allocated ≤ s.used)
    (unmarked : .marker c.allocated ∉ rest) (flat : rigidIds rest = []) (within : InScope c₁.entries [] u)
    (gen : (Typing.generalize c.allocated (c₁.apply u)).run c₁ = (.ok t, c₂)) (apart : c₁.Apart u)
    (typed : ∀ {Δ σ}, (∀ x ∈ Δ, c₁.allocated ≤ x) → Sat Δ σ c₁.entries →
      J (scope Δ c.entries) (env σ c.entries) e (u.read σ []))
    (base : ∀ x ∈ Δ, (c₂.dropFrom .marker c.allocated).allocated ≤ x)
    (sat : Sat Δ σ (c₂.dropFrom .marker c.allocated).entries) :
    J (scope Δ c.entries) (env σ c.entries) e (t.read σ []) := by
  obtain ⟨front, back, pairs, split, -, generalizes, rfl, dropped, left, -⟩ :=
    leads.generalize unlimited size le unmarked flat within gen
  rw [dropped] at base sat
  have grows : c.allocated ≤ c₁.allocated := Nat.le_trans le leads.grows
  have base : ∀ x ∈ Δ, c₁.allocated + pairs.length ≤ x := base
  have same : scope Δ front = scope Δ c.entries := left.scope_eq
  have settled := leads.valid.settled_apply fun _ => within.mem_exIds
  obtain ⟨σ', sat', kept, read⟩ := generalizes.exists_sat leads.valid split settled sat
  rw [sat'.read_apply leads.valid (fun _ => within.mem_exIds) apart] at read
  have above : ∀ x ∈ Δ ∪ (pairs.map (·.2.id)).toFinset, c₁.allocated ≤ x := by
    intro x mem
    rcases Finset.mem_union.1 mem with mem | mem
    · exact Nat.le_trans (Nat.le_add_right _ _) (base x mem)
    · exact (generalizes.number_bounds (List.mem_toFinset.1 mem)).1
  have value := typed above sat'
  have types : env σ' c.entries = env σ c.entries :=
    env_congr valid.ordered fun i mem => kept i (left.refines.exIds_subset mem)
  rw [types, ← read] at value
  have satC := sat.of_refines left.refines
  have within' : InScope c₁.entries [] (c₁.apply u) := leads.valid.inScope_apply within
  refine rule.closeOver (satC.env_within valid) within' (fun x mem => ?_) (fun i mem out => ?_)
    generalizes.nodup_numbers (fun x mem => ?_) ?_
  · rw [leads.ext.rigidIds_eq] at mem
    exact mem_scope.2 (.inr (by simpa [flat] using mem))
  · rcases generalizes.front_or_back split leads.valid.distinct (settled i mem) mem with ⟨here, -⟩ | ⟨-, inside⟩
    · exact same ▸ (sat.ex here).2
    · exact absurd inside out
  · obtain ⟨ge, lt⟩ := generalizes.number_bounds mem
    rw [mem_scope, not_or]
    refine ⟨⟨fun inside => ?_, fun inside => ?_⟩, fun inside => ?_⟩
    · have le := base x inside
      omega
    · have lt := valid.rigid_lt inside
      omega
    · have lt := (apart.apply leads.valid x inside).1
      omega
  · have joined : scope Δ c.entries ∪ (pairs.map (·.2.id)).toFinset =
        scope (Δ ∪ (pairs.map (·.2.id)).toFinset) c.entries := by
      rw [scope, scope, Finset.union_right_comm]
    rwa [joined]

/-- What a goal says in declarative type assignment. -/
def Goal.Holds (Δ : Finset Nat) (Γ : Env) (σ : Nat → Poly) : Goal → Prop
  | .check e t | .synth e t => Typed Δ Γ e (t.read σ [])
  | .apply f arg t => ∀ fn, Typed Δ Γ fn (f.read σ []) → Typed Δ Γ (.app fn arg) (t.read σ [])
  | .bind ann value t => Typed Δ Γ value (t.read σ []) ∧ ∀ s, ann = some s → t = s

section Scopes

variable {Δ : Finset Nat} {σ : Nat → Poly} {c c' : Context} {x v : Ident} {t : Ty}

theorem Leads.scope_eq (leads : Leads c c') : scope Δ c'.entries = scope Δ c.entries :=
  scope_congr leads.ext.rigidIds_eq

theorem scope_push : scope Δ (c.push [.term x t]).entries = scope Δ c.entries :=
  scope_congr (by simp [Context.push])

theorem scope_withLambda : scope Δ (c.withLambda x).entries = scope Δ c.entries :=
  scope_congr (by simp [Context.withLambda])

theorem scope_withMarker : scope Δ c.withMarker.entries = scope Δ c.entries :=
  scope_congr (by simp [Context.withMarker])

theorem env_withLambda : env σ (c.withLambda x).entries = (x.id, σ (c.allocated + 1)) :: env σ c.entries :=
  env_append

theorem env_withMarker : env σ c.withMarker.entries = env σ c.entries :=
  env_eq_of_no_term (by simp [Entry.kind])

/-- Variables that are new where inference leads were new before. -/
theorem Leads.above (leads : Leads c c') (base : ∀ x ∈ Δ, c'.allocated ≤ x) : ∀ x ∈ Δ, c.allocated ≤ x :=
  fun x mem => Nat.le_trans leads.grows (base x mem)

/-- A valuation of what is left of a scope extends to the scope. -/
theorem Leads.reenter {e : Entry} {rest : List Entry} {s : Supply}
    (leads : Leads ⟨c.entries ++ e :: rest, s⟩ c') (fixed : e.isEx = false)
    (last : ∀ e' ∈ rest, e'.declares e.kind e.id = false)
    (sat : Sat Δ σ (c'.dropFrom e.kind e.id).entries) :
    ∃ σ', Sat Δ σ' c'.entries ∧ ∀ j ∈ exIds c.entries, σ' j = σ j := by
  obtain ⟨front, back, split, left, -, absent⟩ := leads.ext.leave fixed last
  rw [Context.dropFrom_split split (by simp [Entry.declares_iff]) absent] at sat
  obtain ⟨σ', sat', same⟩ := leads.valid.extend_sat split sat
  exact ⟨σ', sat', fun j mem => same j (left.exIds_subset mem)⟩

theorem allocated_remove {k : EntryKind} {i : Nat} : (c.remove k i).allocated = c.allocated := by
  rw [Context.remove]
  split <;> rfl

/-- A term variable that is taken out does not matter to a valuation. -/
theorem Leads.reenterTerm (leads : Leads (c.push [.term x t]) c')
    (sat : Sat Δ σ (c'.remove .term x.id).entries) : Sat Δ σ c'.entries := by
  obtain ⟨front, back, split, -, -, absent⟩ := leads.ext.leave rfl (by simp)
  rw [Context.remove_split split (Entry.declares_term.2 ⟨x, t, rfl, rfl⟩) absent] at sat
  obtain ⟨first, second⟩ := sat_append.1 sat
  rw [split]
  refine sat_append.2 ⟨first, trivial, ?_⟩
  simpa [scope] using second

end Scopes

section Rules

variable {Δ : Finset Nat} {Γ : Env} {σ : Nat → Poly} {c : Context} {x v : Ident} {e value fn : Expr}
  {t b bound : Ty} {ann : Option Ty} {B : Poly}

theorem read_eq_poly (closed : t.exOccurrences = []) : t.read σ [] = t.poly :=
  Ty.read_congr (by simp [closed])

/-- A binding and the expression it is for. -/
theorem Typed.of_binding (binding : (Goal.bind ann value bound).Holds Δ Γ σ)
    (closed : ∀ t ∈ ann.toList, t.exOccurrences = []) (within : (bound.read σ []).Within Δ 0)
    (body : Typed Δ ((x.id, bound.read σ []) :: Γ) e B) : Typed Δ Γ (.letIn x ann value e) B := by
  obtain ⟨typed, same⟩ := binding
  cases ann with
  | none => exact .letIn typed body
  | some t =>
    rw [same t rfl] at typed within body
    have closed := closed t (by simp)
    rw [read_eq_poly closed] at typed within body
    exact .letAnn closed within typed body

/-- The body of a quantifier that is opened with an existential at the end of the context. -/
theorem Sat.read_unsolvedBody (sat : Sat Δ σ c.withUnsolved.entries) (within : InScope c.entries [] (.all v b)) :
    (b.substVar v.id (.ex c.allocated)).read σ [] = (b.read σ [v.id]).openWith (σ c.allocated) ∧
      (σ c.allocated).Mono ∧ (σ c.allocated).Within (scope Δ c.entries) 0 := by
  have satC := (sat_append.1 sat).1
  have same : scope Δ c.withUnsolved.entries = scope Δ c.entries :=
    scope_congr (by simp [Context.withUnsolved])
  have image := sat.ex (i := c.allocated) (by simp [Context.withUnsolved])
  rw [same] at image
  refine ⟨?_, image⟩
  exact Ty.read_open (inScope_all.1 within) (fun _ mem => mem_scope.2 (.inr mem))
    (fun i mem => (satC.ex (within.mem_exIds mem)).2) fun _ _ => rfl

/-- A quantified type may be instantiated with an existential. -/
theorem Typed.of_all (sat : Sat Δ σ c.withUnsolved.entries) (within : InScope c.entries [] (.all v b))
    (typed : Typed (scope Δ c.entries) Γ fn ((Ty.all v b).read σ [])) :
    Typed (scope Δ c.entries) Γ fn ((b.substVar v.id (.ex c.allocated)).read σ []) := by
  obtain ⟨opened, mono, image⟩ := sat.read_unsolvedBody within
  have closed := (sat_append.1 sat).1.within within
  rw [opened]
  exact .sub typed (.allLeft mono image (.refl _ (Poly.within_openAt closed image)))

end Rules

/-- The type of an abstraction, generalised after the marker before its parameter. -/
theorem Generalizing.lambda {J : Finset Nat → Env → Expr → Poly → Prop} (rule : Generalizing J) {Δ : Finset Nat}
    {σ : Nat → Poly} {c c₁ c₂ : Context} {x : Ident} {e : Expr} {t : Ty}
    (posed : (Goal.synth (.lam x e) t).Posed c) (leads : Leads (c.withLambda x) c₁)
    (gen : (generalize c.allocated (c₁.apply c.lambdaType)).run c₁ = (.ok t, c₂))
    (typed : ∀ {Δ σ}, (∀ x ∈ Δ, c₁.allocated ≤ x) → Sat Δ σ c₁.entries →
      J (scope Δ c.entries) (env σ c.entries) (.lam x e) (.arrow (σ (c.allocated + 1)) (σ (c.allocated + 2))))
    (base : ∀ x ∈ Δ, (c₂.dropFrom .marker c.allocated).allocated ≤ x)
    (sat : Sat Δ σ (c₂.dropFrom .marker c.allocated).entries) :
    J (scope Δ c.entries) (env σ c.entries) (.lam x e) (t.read σ []) := by
  have within : InScope c₁.entries [] c.lambdaType :=
    leads.ext.inScope (by simp [Context.lambdaType, Context.withLambda])
  exact rule.leads leads posed.valid posed.unlimited rfl (by simp [Supply.skip, Context.allocated]) (by simp)
    (by simp) within gen (apart_of_mono rfl) typed base sat

/-- The type of a value, generalised after the marker that its scope starts with. -/
theorem Generalizing.binding {J : Finset Nat → Env → Expr → Poly → Prop} (rule : Generalizing J) {Δ : Finset Nat}
    {σ : Nat → Poly} {c c₁ c₂ : Context} {value : Expr} {s t : Ty}
    (posed : (Goal.bind none value t).Posed c) (synth : Infers c.withMarker (.synth value s) c₁)
    (gen : (generalize c.allocated (c₁.apply s)).run c₁ = (.ok t, c₂))
    (typed : ∀ {Δ σ}, (∀ x ∈ Δ, c₁.allocated ≤ x) → Sat Δ σ c₁.entries →
      J (scope Δ c.withMarker.entries) (env σ c.withMarker.entries) value (s.read σ []))
    (base : ∀ x ∈ Δ, (c₂.dropFrom .marker c.allocated).allocated ≤ x)
    (sat : Sat Δ σ (c₂.dropFrom .marker c.allocated).entries) :
    J (scope Δ c.entries) (env σ c.entries) value (t.read σ []) := by
  obtain ⟨leads, within, apart⟩ := synth.gives posed.bindGeneralized rfl
  refine rule.leads leads posed.valid posed.unlimited rfl (by simp [Supply.skip, Context.allocated]) (by simp)
    (by simp) within gen apart (fun base sat => ?_) base sat
  have here := typed base sat
  rwa [scope_withMarker, env_withMarker] at here

/-- The body of a binding in the scope of its name. -/
theorem Infers.typed_let {Δ : Finset Nat} {σ : Nat → Poly} {c c₁ c₂ : Context} {x : Ident}
    {ann : Option Ty} {value e : Expr} {bound : Ty} {B : Poly}
    (binding : Infers c (.bind ann value bound) c₁) (body : Leads (c₁.push [.term x bound]) c₂)
    (posed : (Goal.bind ann value bound).Posed c) (sat : Sat Δ σ c₂.entries)
    (holds : Sat Δ σ c₁.entries →
      (Goal.bind ann value bound).Holds (scope Δ c.entries) (env σ c.entries) σ)
    (typed : Typed (scope Δ (c₁.push [.term x bound]).entries)
      (env σ (c₁.push [.term x bound]).entries) e B) :
    Typed (scope Δ c.entries) (env σ c.entries) (.letIn x ann value e) B := by
  obtain ⟨first, within, -⟩ := binding.gives posed rfl
  have sat₁ : Sat Δ σ c₁.entries := (sat_append.1 (sat.of_extends body.ext)).1
  have formed := sat₁.within within
  rw [scope_push, first.scope_eq, env_push, first.ext.env_eq] at typed
  rw [first.scope_eq] at formed
  exact .of_binding (holds sat₁) (fun t mem => (posed.tidy.annotations t (List.mem_append_left _ mem)).1)
    formed typed

/-- What is synthesised is a subtype of what is asked for. -/
theorem Infers.sub {Δ : Finset Nat} {σ : Nat → Poly} {c c₁ c₂ : Context} {e : Expr} {s t : Ty}
    (synth : Infers c (.synth e s) c₁) (sub : Subtyping c₁ (c₁.apply s) (c₁.apply t) c₂)
    (posed : (Goal.check e t).Posed c) (base : ∀ x ∈ Δ, c₂.allocated ≤ x) (sat : Sat Δ σ c₂.entries) :
    Sub (scope Δ c.entries) (s.read σ []) (t.read σ []) := by
  obtain ⟨first, output, left⟩ := synth.gives posed.checkSynth rfl
  have sat₁ := sat.of_refines (sub.advances first.valid).refines
  have within : InScope c₁.entries [] t := first.ext.inScope posed.input
  have right : c₁.Apart t := (posed.given t (by simp [Goal.given])).leads first
  have weaker := sub.sound first.valid (first.valid.inScope_apply output) (first.valid.inScope_apply within)
    (left.apply first.valid) (right.apply first.valid) base sat
  rwa [sat₁.read_apply first.valid (fun _ => output.mem_exIds) left,
    sat₁.read_apply first.valid (fun _ => within.mem_exIds) right, first.scope_eq] at weaker

/-- Inference is sound. -/
theorem Infers.sound {c c' : Context} {goal : Goal} (infers : Infers c goal c') {Δ : Finset Nat}
    {σ : Nat → Poly} (posed : goal.Posed c) (base : ∀ x ∈ Δ, c'.allocated ≤ x) (sat : Sat Δ σ c'.entries) :
    goal.Holds (scope Δ c.entries) (env σ c.entries) σ := by
  induction infers generalizing Δ σ with
  | @checkAll c c' e v b body ih =>
    have inner := posed.checkAll
    have apart : c.Apart (.all v b) := posed.given _ (by simp [Goal.given])
    have leads := inner.leads body
    obtain ⟨σ', sat', kept⟩ := leads.reenter rfl (by simp) sat
    rw [allocated_dropFrom] at base
    have satC := (sat_append.1 (sat'.of_extends leads.ext)).1
    have above : ∀ x ∈ Δ, c.allocated < x := leads.above base
    have typed := ih inner base sat'
    have same : env σ' (c.withRigid v).entries = env σ' c.entries := env_eq_of_no_term (by simp [Entry.kind])
    rw [Goal.Holds, scope_withRigid, same, satC.read_rigidBody posed.input apart] at typed
    have new := allocated_notMem_scope (Δ := Δ) posed.valid fun mem => Nat.lt_irrefl _ (above _ mem)
    have rule := Typed.gen new (satC.env_within posed.valid) (satC.within posed.input) typed
    rw [env_congr posed.valid.ordered kept] at rule
    rw [Goal.Holds, ← Ty.read_congr fun j mem => kept j (InScope.mem_exIds posed.input mem)]
    exact rule
  | checkUnit => exact .unit
  | @checkLam c c' x e dom cod body ih =>
    have inner := posed.checkLam
    have leads := inner.leads body
    obtain ⟨σ', sat', kept⟩ := leads.reenter rfl (by simp) sat
    rw [allocated_dropFrom] at base
    have satC := (sat_append.1 (sat'.of_extends leads.ext)).1
    have typed := ih inner base sat'
    rw [Goal.Holds, scope_push, env_push] at typed
    have rule := Typed.lam (satC.within (inScope_arrow.1 posed.input).1) typed
    rw [env_congr posed.valid.ordered kept] at rule
    rw [Goal.Holds, ← Ty.read_congr fun j mem => kept j (InScope.mem_exIds posed.input mem)]
    exact rule
  | @checkLet c c₁ c₂ x ann value e bound t binding body ihBinding ihBody =>
    obtain ⟨first, within, apart⟩ := binding.gives posed.checkBinding rfl
    have inner := posed.checkBody first within apart
    have second := inner.leads body
    rw [allocated_remove] at base
    have sat₂ := second.reenterTerm sat
    exact binding.typed_let second posed.checkBinding sat₂
      (fun sat₁ => ihBinding posed.checkBinding (second.above base) sat₁) (ihBody inner base sat₂)
  | @checkSub c c₁ c₂ e s t synth sub ih =>
    have second := sub.advances (synth.gives posed.checkSynth rfl).1.valid
    have typed := ih posed.checkSynth (second.leads.above base) (sat.of_refines second.refines)
    exact .sub typed (synth.sub sub posed base sat)
  | var found => exact .var (lookup_env found)
  | unit => exact .unit
  | @ann c c' e t within checked ih =>
    obtain ⟨closed, -⟩ := posed.tidy.annotations t (by simp [Goal.annotations, Expr.annotations])
    have leads := (posed.synthAnn within).leads checked
    have typed : Typed (scope Δ c.entries) (env σ c.entries) e (t.read σ []) :=
      ih (posed.synthAnn within) base sat
    have formed := (sat.of_extends leads.ext).within within
    rw [read_eq_poly closed] at typed formed
    rw [Goal.Holds, read_eq_poly closed]
    exact .ann closed formed typed
  | @lam c c₁ c₂ x e t body gen ih =>
    have inner := posed.synthLam
    have leads := inner.leads body
    refine Generalizing.lambda .gen posed leads gen (fun {Δ σ} base sat => ?_) base sat
    have typed : Typed (scope Δ (c.withLambda x).entries) (env σ (c.withLambda x).entries) e
        (σ (c.allocated + 2)) := ih inner base sat
    have image := ((sat.of_extends leads.ext).ex (i := c.allocated + 1) (by simp [Context.withLambda])).2
    rw [scope_withLambda] at typed image
    rw [env_withLambda] at typed
    exact .lam image typed
  | @app c c₁ c₂ fn arg s t fnType applied ihFn ihApply =>
    obtain ⟨first, output, apart⟩ := fnType.gives posed.synthFn rfl
    have inner := posed.synthArg first output apart
    have second := inner.leads applied
    have sat₁ := sat.of_extends second.ext
    have fnTyped := ihFn posed.synthFn (second.above base) sat₁
    have rule := ihApply inner base sat
    rw [Goal.Holds, sat₁.read_apply first.valid (fun _ => output.mem_exIds) apart, first.scope_eq,
      first.ext.env_eq] at rule
    exact rule fn fnTyped
  | @letIn c c₁ c₂ x ann value e bound t binding body ihBinding ihBody =>
    obtain ⟨first, within, apart⟩ := binding.gives posed.synthBinding rfl
    have inner := posed.synthBody first within apart
    have second := inner.leads body
    rw [allocated_remove] at base
    have sat₂ := second.reenterTerm sat
    exact binding.typed_let second posed.synthBinding sat₂
      (fun sat₁ => ihBinding posed.synthBinding (second.above base) sat₁) (ihBody inner base sat₂)
  | @applyAll c c' v b t arg body ih =>
    have opened := Leads.withUnsolved posed.valid
    have inner := posed.applyAll
    have leads := inner.leads body
    have rule := ih inner base sat
    rw [Goal.Holds, opened.scope_eq, opened.ext.env_eq] at rule
    intro fn fnTyped
    exact rule fn (fnTyped.of_all (sat.of_extends leads.ext) posed.input)
  | @applyEx c c' i arg before after split checked ih =>
    have opened := Advances.withArrow posed.valid split
    have inner := posed.applyEx split
    have leads := inner.leads checked
    have solution : σ i = .arrow (σ (c.allocated + 1)) (σ c.allocated) :=
      sat.solved (t := .arrow (.ex (c.allocated + 1)) (.ex c.allocated))
        (leads.ext.solved_mem (by simp [Context.withArrow]))
    have typed := ih inner base sat
    rw [Goal.Holds, opened.scope_eq, opened.ext.env_eq] at typed
    intro fn fnTyped
    rw [Ty.read, solution] at fnTyped
    exact .app fnTyped typed
  | applyArrow _ ih =>
    intro fn fnTyped
    exact .app fnTyped (ih posed.applyArrow base sat)
  | annotated within _ ih => exact ⟨ih (posed.bindAnnotated within) base sat, by simp⟩
  | generalized synth gen ih =>
    exact ⟨Generalizing.binding .gen posed synth gen (ih posed.bindGeneralized) base sat, by simp⟩

/-- On an empty context the type of a binding is closed, and nothing of the value is left. -/
theorem Infers.bind_closed {c c' : Context} {e : Expr} {t : Ty} (none : c.entries = []) (unlimited : c.supply.size = 0)
    (derivation : Infers c (.bind .none e t) c') : t.exOccurrences = [] ∧ c'.entries = [] := by
  have valid : c.Valid := ⟨by simp [none, Ordered], by simp [none], by simp [none]⟩
  cases derivation with
  | generalized synth gen =>
    obtain ⟨leads, within⟩ := synth.leads valid.withMarker unlimited trivial
    obtain ⟨front, back, pairs, -, -, -, -, dropped, left, output⟩ := leads.generalize unlimited rfl
      (by simp [Supply.skip, Context.allocated]) (by simp) (by simp) within gen
    have empty : front = [] := (left.refines.eq_of_no_unsolved (by simp [none])).trans none
    refine ⟨?_, by rw [dropped, empty]⟩
    rw [List.eq_nil_iff_forall_not_mem]
    intro i mem
    simpa [empty] using output.mem_exIds mem

/-- On an empty context that has given out the numbers of the expression, the inferred type is closed
and the expression has it. -/
theorem Infers.sound_closed {c c₁ c₂ : Context} {e : Expr} {s t : Ty} (none : c.entries = [])
    (unlimited : c.supply.size = 0)
    (annotations : ∀ t ∈ e.annotations, t.exOccurrences = [] ∧ t.maxId < c.allocated)
    (synth : Infers c.withMarker (.synth e s) c₁)
    (gen : (generalize c.allocated (c₁.apply s)).run c₁ = (.ok t, c₂)) :
    t.exOccurrences = [] ∧ Typed ∅ [] e t.poly := by
  have valid : c.Valid := ⟨by simp [none, Ordered], by simp [none], by simp [none]⟩
  have tidy : c.Tidy e.annotations := by
    refine ⟨by simp [none], fun t mem => ⟨(annotations t mem).1, fun x bound => ⟨?_, by simp [none]⟩⟩⟩
    exact Nat.lt_of_le_of_lt (Ty.le_maxId_of_mem_binders bound) (annotations t mem).2
  have posed : (Goal.bind .none e t).Posed c := ⟨valid, unlimited, trivial, tidy, by simp [Goal.given]⟩
  have derivation : Infers c (.bind .none e t) (c₂.dropFrom .marker c.allocated) := .generalized synth gen
  obtain ⟨closed, empty⟩ := derivation.bind_closed none unlimited
  have sat : Sat ∅ (fun _ => .unit) (c₂.dropFrom .marker c.allocated).entries := by simp [empty]
  have typed := (derivation.sound posed (by simp) sat).1
  rw [none, scope_nil] at typed
  exact ⟨closed, typed⟩

/-- The type inferred for a scoped expression is a type without existentials, and the expression has it
in declarative type assignment, provided that the numbers are not used up. -/
theorem infer_sound {t : Surface.Term} {e : Expr} {ty : Ty} {c : Context} {depth : Nat}
    (resolved : resolve t = some e) (reserved : e.maxId + 1 < 2 ^ 32)
    (run : (infer depth e).run {} = (.ok ty, c)) (fits : c.allocated ≤ 2 ^ 32) :
    ty.exOccurrences = [] ∧ Typed ∅ [] e ty.poly := by
  obtain ⟨⟨e', s⟩, resolving, same⟩ := Option.map_eq_some_iff.1 resolved
  rw [show e' = e from same] at resolving
  rw [run_infer, reserveAbove_empty reserved] at run
  -- with enough numbers the run is that on a supply without a last number
  have follows : Follows (fresh >>= inferAt depth e) (fresh >>= inferAt depth e) :=
    .bind .fresh fun _ => follows_inferAt (Nat.le_refl depth)
  have agrees := follows.agrees ⟨[], ⟨e.maxId + 1, 2 ^ 32⟩⟩ 0
  rw [run] at agrees
  have enough : c.Fits := .inr (by rwa [size_run follows run])
  obtain ⟨u, c₁, c₂, synth, gen, -⟩ := run_inferAt_ok rfl (agrees (by simp) enough (.inl rfl))
  refine Infers.sound_closed rfl rfl (fun t mem => ⟨annotations_closed resolving mem, ?_⟩) synth gen
  exact Nat.lt_succ_of_le (Expr.maxId_le_of_mem mem)

/-- A name that is bound to the identity is applied. -/
theorem infer_sound_let :
    let x : Ident := ⟨"x", 0⟩
    let f : Ident := ⟨"f", 1⟩
    Typed ∅ [] (.letIn f none (.lam x (.var x)) (.app (.var f) .unit)) .unit := by
  intro x f
  have resolved : resolve (.letIn "f" none (.lam "x" (.var "x" default) default)
      (.app (.var "f" default) (.unit default)) default) =
        some (.letIn f none (.lam x (.var x)) (.app (.var f) .unit)) := rfl
  rcases run : (infer 9 (.letIn f none (.lam x (.var x)) (.app (.var f) .unit))).run {} with ⟨r, c⟩
  have type : r = .ok .unit := by
    have first : ((infer 9 (.letIn f none (.lam x (.var x)) (.app (.var f) .unit))).run {}).1 =
        .ok .unit := by decide +kernel
    rwa [run] at first
  have fits : c.allocated ≤ 2 ^ 32 := by
    have second : ((infer 9 (.letIn f none (.lam x (.var x)) (.app (.var f) .unit))).run {}).2.allocated ≤
        2 ^ 32 := by decide +kernel
    rwa [run] at second
  rw [type] at run
  exact (infer_sound resolved (by decide) run fits).2

end TermBot.Typing
