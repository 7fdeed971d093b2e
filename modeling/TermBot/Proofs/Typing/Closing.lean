import TermBot.Pipeline.Run
import TermBot.Proofs.Typing.Inference

/-!
# Successful inference leaves nothing open

On any supply, also one that starts again, a successful run leads from an ordered context to an ordered
one that extends it (`Widens`), and the type it gives is in scope there: `widens_infers`. So a scope
that was opened is found again and left, and what a generalisation does not quantify over was declared
before its marker. For a whole inference nothing was: the type is closed, the context keeps solutions
only, and applying it changes nothing (`infer_closed`).
-/

namespace TermBot.Scoped.Ty

open Typing

/-- The rigid variables that no quantifier of the type binds. -/
def freeRigids : Ty → List Nat
  | var v => [v.id]
  | arrow a b => a.freeRigids ++ b.freeRigids
  | all v b => b.freeRigids.filter (· ≠ v.id)
  | _ => []

theorem mem_of_mem_freeRigids {es : List Entry} {bound : List Nat} {t : Ty} {x : Nat}
    (within : InScope es bound t) (free : x ∈ t.freeRigids) : x ∈ bound ∨ x ∈ rigidIds es := by
  induction t generalizing bound with
  | var v =>
    simp only [freeRigids, List.mem_singleton] at free
    exact free ▸ inScope_var.1 within
  | arrow a b iha ihb =>
    rw [inScope_arrow] at within
    exact (List.mem_append.1 free).elim (iha within.1) (ihb within.2)
  | all v b ih =>
    simp only [freeRigids, ne_eq, decide_not, List.mem_filter, Bool.not_eq_true',
      decide_eq_false_iff_not] at free
    rcases ih (inScope_all.1 within) free.1 with mem | mem
    · exact .inl ((List.mem_cons.1 mem).resolve_left free.2)
    · exact .inr mem
  | _ => simp [freeRigids] at free

end TermBot.Scoped.Ty

namespace TermBot.Typing

open Scoped

section Apply

variable {c : Context} {t : Ty} {bound : List Nat}

/-- Application does not leave the scope of an ordered context. -/
theorem Ordered.inScope_apply (ordered : Ordered [] c.entries) (within : InScope c.entries bound t) :
    InScope c.entries bound (c.apply t) := by
  suffices levels : ∀ n {t bound}, InScope c.entries bound t → InScope c.entries bound (c.applyTo n t) from
    levels _ within
  intro n
  induction n with
  | zero => exact fun within => within
  | succ n ih =>
    intro t bound within
    refine within.mapEx (List.Subset.refl _) fun i mem => ?_
    cases found : c.solution? i with
    | none => exact inScope_ex.2 (within.mem_exIds mem)
    | some s => exact ih (ordered.of_solved (Context.mem_of_solution? found)).2

/-- What is left where all solutions have an end is unsolved. -/
theorem Context.Ended.unsolved {i : Nat} (ended : c.Ended t) (within : InScope c.entries bound (c.apply t))
    (mem : i ∈ (c.apply t).exOccurrences) : .unsolved i ∈ c.entries := by
  rcases mem_exIds.1 (within.mem_exIds mem) with here | solved
  · exact here
  · exact absurd (Context.has_solved.2 solved) (by simpa using List.any_eq_false.1 ended i mem)

end Apply

/-- The second context is ordered and extends the first one. -/
structure Widens (c c' : Context) : Prop where
  ordered : Ordered [] c'.entries
  ext : Extends c.entries c'.entries

namespace Widens

variable {c c₀ c' c'' : Context} {e : Entry} {rest before after : List Entry} {i : Nat} {t u : Ty}
  {x : Ident}

theorem refl (ordered : Ordered [] c.entries) : Widens c c := ⟨ordered, .refl _⟩

theorem trans (first : Widens c c') (second : Widens c' c'') : Widens c c'' :=
  ⟨second.ordered, first.ext.trans second.ext⟩

/-- A scope that an entry opened is found again. -/
theorem leave (widens : Widens c₀ c') (opened : c₀.entries = c.entries ++ e :: rest)
    (fixed : e.isEx = false) (last : ∀ e' ∈ rest, e'.declares e.kind e.id = false) :
    ∃ front back, c'.entries = front ++ e :: back ∧ Extends rest back ∧
      (∀ e' ∈ back, e'.declares e.kind e.id = false) ∧ Refines c.entries front ∧ Ordered [] front := by
  have ext := widens.ext
  rw [opened] at ext
  obtain ⟨front, back, split, refines, after, absent⟩ := ext.leave fixed last
  have ordered := widens.ordered
  rw [split] at ordered
  exact ⟨front, back, split, after, absent, refines, (ordered_append.1 ordered).1⟩

/-- Cutting the context off where a scope was opened. -/
theorem drop (widens : Widens c₀ c') (opened : c₀.entries = c.entries ++ e :: rest)
    (fixed : e.isEx = false) (last : ∀ e' ∈ rest, e'.declares e.kind e.id = false) :
    Widens c (c'.dropFrom e.kind e.id) := by
  obtain ⟨front, back, split, -, absent, refines, ordered⟩ := widens.leave opened fixed last
  rw [Context.dropFrom_split split (Entry.declares_iff.2 ⟨rfl, rfl⟩) absent]
  exact ⟨ordered, .of_refines refines⟩

/-- Taking a term variable out, which keeps what was added after it. -/
theorem removeTerm (widens : Widens (c.push [.term x t]) c') :
    Widens c (c'.remove .term x.id) ∧
      (InScope c'.entries [] u → InScope (c'.remove .term x.id).entries [] u) := by
  obtain ⟨front, back, split, after, absent, refines, -⟩ := widens.leave rfl rfl (by simp)
  rw [Context.remove_split split (Entry.declares_term.2 ⟨x, t, rfl, rfl⟩) absent]
  have ordered := widens.ordered
  rw [split] at ordered
  have parts := ordered_append.1 ordered
  refine ⟨⟨ordered_append.2 ⟨parts.1, parts.2.2.weaken (by simp) (by simp)⟩, front, back, rfl, refines,
    after.only⟩, fun within => ?_⟩
  rw [split] at within
  exact within.weaken (by simp) (by simp)

/-- Solving an existential, with the parts of its solution put before it. -/
theorem replace {new : List Entry} {parts : List Nat} {s : Supply} (ordered : Ordered [] c.entries)
    (split : c.entries = before ++ .unsolved i :: after) (inside : parts ⊆ t.exOccurrences)
    (inner : Refines (parts.map .unsolved) new) (fits : Ordered before (new ++ [.solved i t])) :
    Widens c ⟨before ++ (new ++ .solved i t :: after), s⟩ := by
  rw [split] at ordered
  have old := ordered_append.1 ordered
  constructor
  · have together : before ++ (new ++ .solved i t :: after) =
        (before ++ (new ++ [.solved i t])) ++ after := by simp
    rw [together]
    refine ordered_append.2 ⟨ordered_append.2 ⟨old.1, fits⟩, old.2.2.weaken (by simp) ?_⟩
    simp only [List.nil_append, exIds_append, exIds_unsolved, exIds_solved, exIds_nil]
    grind
  · rw [split]
    exact .of_refines ((Refines.refl before).append (.solve inside inner (.refl after)))

theorem solve {s : Supply} (ordered : Ordered [] c.entries)
    (split : c.entries = before ++ .unsolved i :: after) (mono : t.isMono = true)
    (within : InScope before [] t) : Widens c ⟨before ++ .solved i t :: after, s⟩ := by
  have fits : Ordered before ([] ++ [.solved i t]) := ordered_singleton.2 ⟨mono, within⟩
  exact replace ordered split (List.nil_subset _) .nil fits

end Widens

section Steps

variable {c c' : Context} {i n : Nat} {a b t : Ty} {v : Ident}

/-- Splitting an existential gives two that are declared. -/
theorem exists_run_articulate (ordered : Ordered [] c.entries) (unsolved : .unsolved i ∈ c.entries) :
    ∃ dom cod c₁, (articulate i).run c = (.ok (dom, cod), c₁) ∧ Widens c c₁ ∧
      InScope c₁.entries [] (.ex dom) ∧ InScope c₁.entries [] (.ex cod) := by
  obtain ⟨before, after, split, last⟩ := Context.split_unsolved unsolved
  obtain ⟨cod, run₁⟩ : ∃ cod, fresh.run c = (.ok cod, { c with supply := c.supply.skip 1 }) := ⟨_, rfl⟩
  obtain ⟨dom, run₂⟩ : ∃ dom, fresh.run { c with supply := c.supply.skip 1 } =
    (.ok dom, { c with supply := c.supply.skip 2 }) := ⟨_, rfl⟩
  have run : (articulate i).run c = (.ok (dom, cod), ⟨before ++ ([Entry.unsolved cod, .unsolved dom] ++
      Entry.solved i (.arrow (.ex dom) (.ex cod)) :: after), c.supply.skip 2⟩) := by
    rw [articulate, run_bind_of_ok run₁, run_bind_of_ok run₂, run_bind_of_ok run_modify,
      Context.replace_split (c := { c with supply := c.supply.skip 2 }) split last, run_pure]
    simp
  have halves : Refines ([cod, dom].map .unsolved) [.unsolved cod, .unsolved dom] := .refl _
  refine ⟨dom, cod, _, run, .replace ordered split (by simp [Ty.exOccurrences]) halves ?_, ?_, ?_⟩
  · simp [Ordered, Entry.Fits, Ty.isMono]
  · simp
  · simp

/-- What is done under a quantifier that is opened with a rigid variable. -/
theorem widens_underRigid {k : Ty → Check Unit}
    (body : ∀ {w : Ident} {c₁ c₂ : Context}, c₁.entries = c.entries ++ [Entry.rigid w] →
      (k (b.substVar v.id (.var w))).run c₁ = (.ok (), c₂) → Widens c₁ c₂)
    (run : (do
      let (w, body) ← openRigid v b
      modify (·.push [.rigid w])
      k body
      modify (·.dropFrom .rigid w.id) : Check Unit).run c = (.ok (), c')) : Widens c c' := by
  obtain ⟨⟨w, opened⟩, c₁, first, rest⟩ := run_bind_ok.1 run
  cases first
  rw [run_bind_of_ok run_modify] at rest
  obtain ⟨c₂, inner, rfl⟩ := run_then_modify_ok.1 rest
  exact Widens.drop (c := c) (body rfl inner) rfl rfl (by simp)

/-- What is done under a quantifier that is opened with an existential. -/
theorem widens_underEx {k : Ty → Check Unit}
    (body : ∀ {mark j : Nat} {c₁ c₂ : Context}, c₁.entries = c.entries ++ [Entry.marker mark, .unsolved j] →
      (k (b.substVar v.id (.ex j))).run c₁ = (.ok (), c₂) → Widens c₁ c₂)
    (run : (do
      let mark ← fresh
      let (j, body) ← openEx v b
      modify (·.push [.marker mark, .unsolved j])
      k body
      modify (·.dropFrom .marker mark) : Check Unit).run c = (.ok (), c')) : Widens c c' := by
  obtain ⟨mark, c₁, first, rest⟩ := run_bind_ok.1 run
  cases first
  obtain ⟨⟨j, opened⟩, c₁, second, rest⟩ := run_bind_ok.1 rest
  cases second
  rw [run_bind_of_ok run_modify] at rest
  obtain ⟨c₂, inner, rfl⟩ := run_then_modify_ok.1 rest
  exact Widens.drop (c := c) (body rfl inner) rfl rfl (by simp [Entry.declares, Entry.kind])

theorem ordered_push_rigid {c₁ : Context} {w : Ident} (ordered : Ordered [] c.entries)
    (opened : c₁.entries = c.entries ++ [.rigid w]) : Ordered [] c₁.entries := by
  rw [opened]
  exact ordered_append.2 ⟨ordered, by simp [Ordered, Entry.Fits]⟩

theorem ordered_push_ex {c₁ : Context} {mark j : Nat} (ordered : Ordered [] c.entries)
    (opened : c₁.entries = c.entries ++ [.marker mark, .unsolved j]) : Ordered [] c₁.entries := by
  rw [opened]
  exact ordered_append.2 ⟨ordered, by simp [Ordered, Entry.Fits]⟩

theorem widens_instantiateOn {side : Side} (ordered : Ordered [] c.entries)
    (run : (instantiateOn side n i t).run c = (.ok (), c')) : Widens c c' := by
  induction n generalizing side c i t c' with
  | zero => cases side <;> cases run
  | succ n ih =>
    rw [instantiateOn_succ, run_bind_ok] at run
    obtain ⟨solved, c₁, direct, rest⟩ := run
    obtain ⟨before, after, split, last, result⟩ := run_solveDirectly_ok.1 direct
    rcases result with ⟨rfl, mono, within, rfl⟩ | ⟨rfl, out, j, mid, back, rfl, rfl, lastj, rfl⟩ |
      ⟨rfl, other, noEx, rfl⟩
    · cases rest
      exact .solve ordered split mono within
    · cases rest
      have split' : c.entries = (before ++ .unsolved i :: mid) ++ .unsolved j :: back := by simp [split]
      exact .solve ordered split' rfl (by simp)
    · rw [if_neg (by simp)] at rest
      cases t with
      | arrow a b =>
        obtain ⟨dom, cod, c₂, split₂, opened, -, -⟩ := exists_run_articulate (i := i) ordered (by simp [split])
        rw [run_bind_of_ok split₂, run_bind_ok] at rest
        obtain ⟨_, c₃, domRun, rest⟩ := rest
        obtain ⟨_, _, app, codRun⟩ := run_bind_ok.1 rest
        obtain ⟨rfl, rfl, -⟩ := run_applied_ok.1 app
        have first := opened.trans (ih opened.ordered domRun)
        exact first.trans (ih first.ordered codRun)
      | all v b =>
        cases side with
        | left => exact widens_underRigid (fun new inner => ih (ordered_push_rigid ordered new) inner) rest
        | right => exact widens_underEx (fun new inner => ih (ordered_push_ex ordered new) inner) rest
      | ex j => exact absurd rfl (noEx j)
      | _ => cases rest

theorem widens_instantiate (ordered : Ordered [] c.entries)
    (run : (instantiate n a b).run c = (.ok (), c')) : Widens c c' := by
  rw [instantiate, run_bind_of_ok run_get] at run
  split at run
  · exact @widens_instantiateOn _ _ _ _ _ .left ordered run
  · exact @widens_instantiateOn _ _ _ _ _ .right ordered run
  · cases run

theorem widens_subtype (ordered : Ordered [] c.entries)
    (run : (subtype n a b).run c = (.ok (), c')) : Widens c c' := by
  induction n generalizing c a b c' with
  | zero => cases run
  | succ n ih =>
    unfold subtype at run
    split at run
    · cases run
      exact .refl ordered
    · obtain ⟨_, c₁, dom, rest⟩ := run_bind_ok.1 run
      obtain ⟨_, _, app, rest⟩ := run_bind_ok.1 rest
      obtain ⟨rfl, rfl, -⟩ := run_applied_ok.1 app
      obtain ⟨_, _, app, cod⟩ := run_bind_ok.1 rest
      obtain ⟨rfl, rfl, -⟩ := run_applied_ok.1 app
      have first := ih ordered dom
      exact first.trans (ih first.ordered cod)
    · exact widens_underRigid (fun new inner => ih (ordered_push_rigid ordered new) inner) run
    · exact widens_underEx (k := fun a => subtype n a _)
        (fun new inner => ih (ordered_push_ex ordered new) inner) run
    · split at run
      · cases run
      · rw [run_bind_of_ok run_get] at run
        split at run <;> cases run
        exact .refl ordered
    · split at run
      · exact widens_instantiate ordered run
      · rw [run_bind_of_ok run_get] at run
        split at run <;> cases run
        exact .refl ordered
    · exact widens_instantiate ordered run

end Steps

section Scopes

variable {c c₀ c₁ c' : Context} {mark : Nat} {rest : List Entry} {s t : Ty}

/-- A scope that a marker opened, when its type is generalised: what is not quantified over was declared
before the marker. -/
theorem Widens.generalized (widens : Widens c₀ c₁)
    (opened : c₀.entries = c.entries ++ .marker mark :: rest) (unmarked : .marker mark ∉ rest)
    (flat : rigidIds rest = []) (within : InScope c₁.entries [] s)
    (ended : c₁.Ended s) (gen : (generalize mark (c₁.apply s)).run c₁ = (.ok t, c')) :
    ∃ front back, c₁.entries = front ++ .marker mark :: back ∧ c'.entries = c₁.entries ∧
      Extends rest back ∧ .marker mark ∉ back ∧ Refines c.entries front ∧ InScope front [] t := by
  have last : ∀ e' ∈ rest, e'.declares (Entry.marker mark).kind (Entry.marker mark).id = false := by
    intro e' mem
    rw [Bool.eq_false_iff, ne_eq]
    intro here
    exact unmarked (Entry.declares_marker.1 here ▸ mem)
  obtain ⟨front, back, split, after, absent, refines, -⟩ := widens.leave opened rfl last
  have lone : .marker mark ∉ back := fun mem => absurd (absent _ mem) (by simp [Entry.declares_iff])
  obtain ⟨pairs, -, locals, -, -, general⟩ := run_generalize_wrap (t := c₁.apply s) split lone
  rw [general] at gen
  cases gen
  refine ⟨front, back, split, rfl, after, lone, refines, ?_⟩
  have applied := widens.ordered.inScope_apply within
  refine Ty.inScope_closeOver applied ?_ fun i mem out => ?_
  · rw [split]
    simp [after.rigidIds_eq, flat]
  · have unsolved := ended.unsolved applied mem
    rw [locals] at out
    rw [split, List.mem_append, List.mem_cons] at unsolved
    rcases unsolved with here | eq | here
    · exact mem_exIds.2 (.inl here)
    · cases eq
    · exact absurd ⟨mem, here⟩ out

/-- A generalisation and the end of its scope. -/
theorem Widens.closed (widens : Widens c₀ c₁) (opened : c₀.entries = c.entries ++ .marker mark :: rest)
    (unmarked : .marker mark ∉ rest) (flat : rigidIds rest = []) (within : InScope c₁.entries [] s)
    (run : (do
      let t ← generalize mark (← applied s)
      modify (·.dropFrom .marker mark)
      return t : Check Ty).run c₁ = (.ok t, c')) : Widens c c' ∧ InScope c'.entries [] t := by
  obtain ⟨c₂, ended, gen, rfl⟩ := run_close_ok run
  obtain ⟨front, back, split, same, after, lone, refines, output⟩ :=
    widens.generalized opened unmarked flat within ended gen
  have ordered := widens.ordered
  rw [split] at ordered
  have absent : ∀ e ∈ back, e.declares .marker mark = false := by
    intro e mem
    rw [Bool.eq_false_iff, ne_eq, Entry.declares_marker]
    rintro rfl
    exact lone mem
  rw [Context.dropFrom_split (same.trans split) (Entry.declares_marker.2 rfl) absent]
  exact ⟨⟨(ordered_append.1 ordered).1, .of_refines refines⟩, output⟩

end Scopes

section Infers

theorem ordered_push_term {c : Context} {x : Ident} {t : Ty} (ordered : Ordered [] c.entries)
    (within : InScope c.entries [] t) : Ordered [] (c.push [.term x t]).entries :=
  ordered_append.2 ⟨ordered, ordered_singleton.2 within⟩

/-- Successful runs at the depth widen the context, and the type that they give is in scope afterwards. -/
structure WidensInfer (n : Nat) : Prop where
  checks {c c' : Context} {e : Expr} {t : Ty} (ordered : Ordered [] c.entries) (within : InScope c.entries [] t)
    (run : (check n e t).run c = (.ok (), c')) : Widens c c'
  synths {c c' : Context} {e : Expr} {t : Ty} (ordered : Ordered [] c.entries)
    (run : (synth n e).run c = (.ok t, c')) : Widens c c' ∧ InScope c'.entries [] t
  applies {c c' : Context} {f t : Ty} {e : Expr} (ordered : Ordered [] c.entries) (within : InScope c.entries [] f)
    (run : (synthApp n f e).run c = (.ok t, c')) : Widens c c' ∧ InScope c'.entries [] t
  binds {c c' : Context} {ann : Option Ty} {e : Expr} {t : Ty} (ordered : Ordered [] c.entries)
    (run : (bindingType n ann e).run c = (.ok t, c')) : Widens c c' ∧ InScope c'.entries [] t

namespace WidensInfer

variable {c c' : Context} {n : Nat} {e : Expr} {ann : Option Ty} {f t : Ty}

theorem zero : WidensInfer 0 where
  checks _ _ run := by cases run
  synths _ run := by cases run
  applies _ _ run := by cases run
  binds _ run := by cases run

theorem check_succ (ih : WidensInfer n) (ordered : Ordered [] c.entries) (within : InScope c.entries [] t)
    (run : (check (n + 1) e t).run c = (.ok (), c')) : Widens c c' := by
  unfold check at run
  split at run
  · refine widens_underRigid (fun {w c₁ c₂} new inner => ?_) run
    refine ih.checks (ordered_push_rigid ordered new) ?_ inner
    rw [new]
    exact (InScope.append_right (inScope_all.1 within)).substVar (by simp)
  · cases run
    exact .refl ordered
  · rw [run_bind_of_ok run_modify] at run
    obtain ⟨c₁, body, rfl⟩ := run_then_modify_ok.1 run
    have parts := inScope_arrow.1 within
    have inner := ih.checks (ordered_push_term ordered parts.1) parts.2.append_right body
    exact Widens.drop (c := c) inner rfl rfl (by simp)
  · obtain ⟨bound, c₁, binding, rest⟩ := run_bind_ok.1 run
    rw [run_bind_of_ok run_modify] at rest
    obtain ⟨c₂, body, rfl⟩ := run_then_modify_ok.1 rest
    obtain ⟨first, output⟩ := ih.binds ordered binding
    have here := first.ext.inScope within
    have inner := ih.checks (ordered_push_term first.ordered output) here.append_right body
    exact first.trans (inner.removeTerm (u := .unit)).1
  · obtain ⟨s, c₁, synthesised, rest⟩ := run_bind_ok.1 run
    obtain ⟨_, _, app, rest⟩ := run_bind_ok.1 rest
    obtain ⟨rfl, rfl, -⟩ := run_applied_ok.1 app
    obtain ⟨_, _, app, sub⟩ := run_bind_ok.1 rest
    obtain ⟨rfl, rfl, -⟩ := run_applied_ok.1 app
    have first := (ih.synths ordered synthesised).1
    exact first.trans (widens_subtype first.ordered sub)

theorem synth_succ (ih : WidensInfer n) (ordered : Ordered [] c.entries)
    (run : (synth (n + 1) e).run c = (.ok t, c')) : Widens c c' ∧ InScope c'.entries [] t := by
  unfold synth at run
  cases e with
  | var x =>
    simp only [run_bind_of_ok run_get] at run
    cases found : c.typeOf? x.id with
    | none =>
      rw [found] at run
      cases run
    | some t =>
      rw [found] at run
      cases run
      obtain ⟨before, y, after, split, -, -⟩ := Context.typeOf?_eq_some found
      exact ⟨.refl ordered, ordered.of_term (x := y) (by simp [split])⟩
  | unit =>
    cases run
    exact ⟨.refl ordered, inScope_unit⟩
  | ann e t =>
    obtain ⟨_, _, required, rest⟩ := run_bind_ok.1 run
    obtain ⟨rfl, within⟩ := run_requireWellFormed_ok.1 required
    obtain ⟨_, c₁, checked, rest⟩ := run_bind_ok.1 rest
    cases rest
    have widens := ih.checks ordered within checked
    exact ⟨widens, widens.ext.inScope within⟩
  | lam x body =>
    obtain ⟨mark, c₁, first, rest⟩ := run_bind_ok.1 run
    cases first
    obtain ⟨dom, c₁, second, rest⟩ := run_bind_ok.1 rest
    cases second
    obtain ⟨cod, c₁, third, rest⟩ := run_bind_ok.1 rest
    cases third
    rw [run_bind_of_ok run_modify] at rest
    obtain ⟨_, c₁, checked, rest⟩ := run_bind_ok.1 rest
    have inner := ih.checks (ordered_append.2 ⟨ordered, by simp [Ordered, Entry.Fits]⟩)
      (by simp [Context.push]) checked
    refine Widens.closed (c := c) inner rfl (by simp) (by simp) ?_ rest
    exact inner.ext.inScope (by simp [Context.push])
  | app fn arg =>
    obtain ⟨s, c₁, fnType, rest⟩ := run_bind_ok.1 run
    obtain ⟨_, _, app, rest⟩ := run_bind_ok.1 rest
    obtain ⟨rfl, rfl, -⟩ := run_applied_ok.1 app
    obtain ⟨first, within⟩ := ih.synths ordered fnType
    obtain ⟨second, output⟩ := ih.applies first.ordered (first.ordered.inScope_apply within) rest
    exact ⟨first.trans second, output⟩
  | letIn x ann value body =>
    obtain ⟨bound, c₁, binding, rest⟩ := run_bind_ok.1 run
    rw [run_bind_of_ok run_modify] at rest
    obtain ⟨s, c₂, synthesised, rest⟩ := run_bind_ok.1 rest
    rw [run_bind_of_ok run_modify, run_pure] at rest
    cases rest
    obtain ⟨first, output⟩ := ih.binds ordered binding
    obtain ⟨inner, result⟩ := ih.synths (ordered_push_term first.ordered output) synthesised
    obtain ⟨removed, kept⟩ := inner.removeTerm
    exact ⟨first.trans removed, kept result⟩

theorem apply_succ (ih : WidensInfer n) (ordered : Ordered [] c.entries) (within : InScope c.entries [] f)
    (run : (synthApp (n + 1) f e).run c = (.ok t, c')) : Widens c c' ∧ InScope c'.entries [] t := by
  unfold synthApp at run
  cases f with
  | all v b =>
    obtain ⟨⟨i, opened⟩, c₁, first, rest⟩ := run_bind_ok.1 run
    cases first
    rw [run_bind_of_ok run_modify] at rest
    have larger : Ordered [] (c.entries ++ [.unsolved c.next]) :=
      ordered_append.2 ⟨ordered, by simp [Ordered, Entry.Fits]⟩
    have wider : InScope (c.entries ++ [.unsolved c.next]) [v.id] b :=
      InScope.append_right (inScope_all.1 within)
    obtain ⟨inner, output⟩ := ih.applies larger (wider.substVar (by simp)) rest
    exact ⟨⟨inner.ordered, (Extends.push (by simp)).trans inner.ext⟩, output⟩
  | ex i =>
    simp only [run_bind_of_ok run_get] at run
    split at run
    · rename_i present
      obtain ⟨dom, cod, c₁, split, opened, domain, codomain⟩ :=
        exists_run_articulate ordered (Context.has_unsolved.1 present)
      rw [run_bind_of_ok split] at run
      obtain ⟨_, c₂, checked, rest⟩ := run_bind_ok.1 run
      cases rest
      have inner := ih.checks opened.ordered domain checked
      exact ⟨opened.trans inner, inner.ext.inScope codomain⟩
    · cases run
  | arrow dom cod =>
    obtain ⟨_, c₁, checked, rest⟩ := run_bind_ok.1 run
    cases rest
    have parts := inScope_arrow.1 within
    have inner := ih.checks ordered parts.1 checked
    exact ⟨inner, inner.ext.inScope parts.2⟩
  | _ => cases run

theorem bind_succ (ih : WidensInfer n) (ordered : Ordered [] c.entries)
    (run : (bindingType (n + 1) ann e).run c = (.ok t, c')) : Widens c c' ∧ InScope c'.entries [] t := by
  unfold bindingType at run
  cases ann with
  | some t =>
    obtain ⟨_, _, required, rest⟩ := run_bind_ok.1 run
    obtain ⟨rfl, within⟩ := run_requireWellFormed_ok.1 required
    obtain ⟨_, c₁, checked, rest⟩ := run_bind_ok.1 rest
    cases rest
    have widens := ih.checks ordered within checked
    exact ⟨widens, widens.ext.inScope within⟩
  | none =>
    obtain ⟨mark, c₁, first, rest⟩ := run_bind_ok.1 run
    cases first
    rw [run_bind_of_ok run_modify] at rest
    obtain ⟨s, c₁, synthesised, rest⟩ := run_bind_ok.1 rest
    obtain ⟨inner, within⟩ :=
      ih.synths (ordered_append.2 ⟨ordered, by simp [Ordered, Entry.Fits]⟩) synthesised
    exact Widens.closed (c := c) inner rfl (by simp) (by simp) within rest

end WidensInfer

/-- Successful runs widen the context, and the type that they give is in scope afterwards. -/
theorem widens_infers (n : Nat) : WidensInfer n := by
  induction n with
  | zero => exact .zero
  | succ n ih => exact ⟨ih.check_succ, ih.synth_succ, ih.apply_succ, ih.bind_succ⟩

end Infers

section Close

variable {c c' : Context} {mark : Nat} {back : List Entry}

theorem run_forM_applied_ok {ts : List Ty}
    (run : (ts.forM fun t => discard (applied t)).run c = (.ok (), c')) :
    c' = c ∧ ∀ t ∈ ts, c.Ended t := by
  induction ts with
  | nil =>
    cases run
    exact ⟨rfl, by simp⟩
  | cons t ts ih =>
    obtain ⟨_, c₁, first, rest⟩ := run_bind_ok.1 run
    obtain ⟨_, _, app, done⟩ := run_bind_ok.1 first
    obtain ⟨rfl, -, ended⟩ := run_applied_ok.1 app
    cases done
    obtain ⟨rfl, all⟩ := ih rest
    exact ⟨rfl, List.forall_mem_cons.2 ⟨ended, all⟩⟩

/-- Closing a context that has nothing before the marker keeps its solutions, in which no solved
existential is left. -/
theorem run_close_only (split : c.entries = .marker mark :: back) (lone : .marker mark ∉ back)
    (run : (close mark).run c = (.ok (), c')) :
    (∀ e ∈ c'.entries, e.kind = .solved) ∧
      ∀ i t, .solved i t ∈ c'.entries → ∀ j ∈ t.exOccurrences, ∀ s, .solved j s ∉ c'.entries := by
  have split : c.entries = [] ++ .marker mark :: back := split
  have place : c.index? .marker mark = some 0 := by
    refine Context.index?_split split (Entry.declares_marker.2 rfl) fun e mem => ?_
    rw [Bool.eq_false_iff, ne_eq, Entry.declares_marker]
    rintro rfl
    exact lone mem
  have found : c.after? mark = some back := Context.after?_split split lone
  rw [close, run_bind_of_ok run_get] at run
  obtain ⟨_, c₁, each, rest⟩ := run_bind_ok.1 run
  obtain ⟨rfl, ended⟩ := run_forM_applied_ok each
  rw [run_modify] at rest
  cases rest
  -- the entries kept are the solutions after the marker, applied
  have kept : ∀ e ∈ (c₁.close mark).entries,
      ∃ i t, .solved i t ∈ back ∧ e = .solved i (c₁.apply t) := by
    intro e mem
    simp only [Context.close, place, split, List.take_zero, List.nil_append, List.drop_succ_cons,
      List.drop_zero, List.mem_filterMap] at mem
    obtain ⟨e', mem, eq⟩ := mem
    cases e' <;> simp only [reduceCtorEq, Option.some.injEq] at eq
    exact ⟨_, _, mem, eq.symm⟩
  refine ⟨fun e mem => ?_, fun i t mem j occurs s solved => ?_⟩
  · obtain ⟨i, t, -, rfl⟩ := kept e mem
    rfl
  · obtain ⟨_, u, inside, eq⟩ := kept _ mem
    cases eq
    obtain ⟨_, w, here, eq⟩ := kept _ solved
    cases eq
    have done : c₁.Ended u := by
      refine ended u ?_
      simp only [Context.solutionsAfter, found, Option.getD_some, List.mem_filterMap]
      exact ⟨_, inside, rfl⟩
    have present : c₁.has .solved j = true :=
      Context.has_solved.2 ⟨w, by rw [split]; exact List.mem_cons_of_mem _ here⟩
    exact absurd present (by simpa using List.any_eq_false.1 done j occurs)

end Close

section Infer

variable {depth : Nat} {e : Expr} {ty : Ty} {c : Context}

theorem entries_reserveAbove (c : Context) (id : Nat) : (c.reserveAbove id).entries = c.entries := by
  rw [Context.reserveAbove, Context.reserve]
  split <;> rfl

/-- What a successful inference on the empty context is made of: nothing stands before its marker. -/
theorem run_infer_ok (run : (infer depth e).run {} = (.ok ty, c)) :
    ∃ c₁ mark back, c₁.entries = .marker mark :: back ∧ .marker mark ∉ back ∧ InScope [] [] ty ∧
      (close mark).run c₁ = (.ok (), c) := by
  rw [run_infer] at run
  obtain ⟨mark, c₀, first, rest⟩ := run_bind_ok.1 run
  cases first
  rw [inferAt, run_bind_of_ok run_modify] at rest
  obtain ⟨s, c₁, synthesised, rest⟩ := run_bind_ok.1 rest
  obtain ⟨_, _, app, rest⟩ := run_bind_ok.1 rest
  obtain ⟨rfl, rfl, ended⟩ := run_applied_ok.1 app
  obtain ⟨t, c₂, gen, rest⟩ := run_bind_ok.1 rest
  obtain ⟨_, c₃, closed, rest⟩ := run_bind_ok.1 rest
  cases rest
  have empty : (({} : Context).reserveAbove e.maxId).entries = [] := entries_reserveAbove _ _
  obtain ⟨widens, within⟩ := (widens_infers depth).synths
    (by simp [Context.push, empty, Ordered, Entry.Fits]) (run_tryCatch_ok.1 synthesised)
  have opened : ∀ i s, (Context.push ⟨(Context.reserveAbove {} e.maxId).entries, s⟩ [Entry.marker i]).entries =
      ({} : Context).entries ++ Entry.marker i :: [] := by
    simp [Context.push, empty]
  obtain ⟨front, back, split, same, -, lone, refines, output⟩ :=
    widens.generalized (opened _ _) (by simp) (by simp) within ended gen
  cases refines
  exact ⟨c₂, _, back, same.trans split, lone, output, closed⟩

/-- The last stage shows the type that the engine infers, with its context applied. -/
theorem inferStage_ok {σ ρ : Type} {parts : Pipeline.Collaborators σ ρ} {j j' : Pipeline.Journal σ}
    {found : Pipeline.Inference} {w : σ} (inferred : parts.engine.infer e j.world = ((some ty, c), w))
    (stage : (Pipeline.inferStage parts e).run j = (.ok found, j')) :
    found.type = some (c.apply ty) ∧ found.context = c := by
  simp only [Pipeline.inferStage, Pipeline.calling, StateT.run, inferred, bind,
    StateT.bind, pure] at stage
  rcases shown : Pipeline.rendering parts .inferred (.inferred (c.apply ty)) ⟨w, j.calls ++ [Pipeline.Call.infer]⟩ with
    ⟨_ | text, j₁⟩
  · rw [shown] at stage
    cases stage
  · rw [shown] at stage
    cases stage
    exact ⟨rfl, rfl⟩

/-- A successful inference leaves nothing open: its type has no existential and no free variable, the
context has solutions only, none of which mentions a solved existential, and applying the context
once more, as a run of all stages does before it shows the type, changes nothing. -/
theorem infer_closed (run : (infer depth e).run {} = (.ok ty, c)) :
    ty.exOccurrences = [] ∧ ty.freeRigids = [] ∧ (∀ entry ∈ c.entries, entry.kind = .solved) ∧
      (∀ i t, .solved i t ∈ c.entries → ∀ j ∈ t.exOccurrences, ∀ s, .solved j s ∉ c.entries) ∧
      c.apply ty = ty ∧
      ∀ {σ ρ : Type} (parts : Pipeline.Collaborators σ ρ) (j j' : Pipeline.Journal σ)
        (found : Pipeline.Inference), parts.engine = Pipeline.systemF depth →
        (Pipeline.inferStage parts e).run j = (.ok found, j') → found.type = some ty ∧ found.context = c := by
  obtain ⟨c₁, mark, back, split, lone, within, closed⟩ := run_infer_ok run
  obtain ⟨only, flat⟩ := run_close_only split lone closed
  have noEx : ty.exOccurrences = [] := by
    rw [List.eq_nil_iff_forall_not_mem]
    intro i mem
    simpa using within.mem_exIds mem
  have noRigid : ty.freeRigids = [] := by
    rw [List.eq_nil_iff_forall_not_mem]
    intro x free
    simpa using Ty.mem_of_mem_freeRigids within free
  have applied : c.apply ty = ty := by
    rw [Context.apply_eq_mapEx, Ty.mapEx_congr (g := .ex) fun i mem => by simp [noEx] at mem, Ty.mapEx_ex]
  refine ⟨noEx, noRigid, only, flat, applied, fun parts j j' found engine stage => ?_⟩
  have inferred : parts.engine.infer e j.world = ((some ty, c), j.world) := by
    simp only [engine, Pipeline.systemF, run]
  exact applied ▸ inferStage_ok inferred stage

/-- The identity, applied under a name that is bound to it: two solutions are kept. -/
theorem infer_closed_let :
    let x : Ident := ⟨"x", 0⟩
    let f : Ident := ⟨"f", 1⟩
    let e : Expr := .letIn f none (.lam x (.var x)) (.app (.var f) (.var f))
    ∃ ty c, (infer 9 e).run {} = (.ok ty, c) ∧ ty.exOccurrences = [] ∧ ty.freeRigids = [] ∧
      c.entries.length = 2 ∧ ∀ entry ∈ c.entries, entry.kind = .solved := by
  intro x f e
  rcases run : (infer 9 e).run {} with ⟨r, c⟩
  have ok : ((infer 9 e).run {}).1.isOk = true := by decide +kernel
  have two : ((infer 9 e).run {}).2.entries.length = 2 := by decide +kernel
  rw [run] at ok two
  cases r with
  | error err => cases ok
  | ok ty =>
    obtain ⟨noEx, noRigid, only, -⟩ := infer_closed run
    exact ⟨ty, c, rfl, noEx, noRigid, two, only⟩

end Infer

end TermBot.Typing
