import TermBot.Proofs.Scoped.Resolution
import TermBot.Proofs.Typing.Reached
import TermBot.Proofs.Typing.Termination

/-!
# Entries that stand before

What stands in a context before inference starts does not matter to it: a run does the same whether older
entries stand before those it works on or not, and it leaves them where they are (`Ignores`). The older
entries may declare any term. A variable of a scoped expression is looked up behind them, and all other
numbers that are looked up were given out later than theirs.
-/

namespace TermBot.Typing

open Scoped

theorem lastIdx?_append {α : Type} {p : α → Bool} (front back : List α) :
    lastIdx? p (front ++ back) = ((lastIdx? p back).map (front.length + ·)).or (lastIdx? p front) := by
  induction front with
  | nil => cases found : lastIdx? p back <;> simp [found, lastIdx?]
  | cons a front ih =>
    rw [List.cons_append, lastIdx?, ih, lastIdx?]
    cases lastIdx? p back with
    | none => rfl
    | some n =>
      simp only [Option.map_some, Option.some_or, List.length_cons, Option.some.injEq]
      omega

/-- The context with older entries before its own. -/
def Context.behind (pre : List Entry) (c : Context) : Context := { c with entries := pre ++ c.entries }

/-- All numbers that are declared, but for those of terms, were given out from `lo` on. -/
def Context.Since (lo : Nat) (c : Context) : Prop :=
  ∀ e ∈ c.entries, e.kind ≠ .term → lo ≤ e.id ∧ e.id < c.allocated

/-- All numbers that the entries declare, but for those of terms, are below `lo`. -/
def Older (lo : Nat) (pre : List Entry) : Prop := ∀ e ∈ pre, e.kind ≠ .term → e.id < lo

theorem Older.absent {lo i : Nat} {pre : List Entry} {k : EntryKind} (older : Older lo pre)
    (other : k ≠ .term) (le : lo ≤ i) : ∀ e ∈ pre, e.declares k i = false := by
  intro e mem
  rw [Bool.eq_false_iff, ne_eq, Entry.declares_iff]
  rintro ⟨rfl, rfl⟩
  exact Nat.not_le_of_lt (older e mem other) le

namespace Context

variable {pre : List Entry} {c c' : Context} {lo i : Nat} {k : EntryKind} {t : Ty} {es : List Entry}

/-- What the older entries declare is hidden by an entry behind them. -/
def Hides (c : Context) (pre : List Entry) (k : EntryKind) (i : Nat) : Prop :=
  c.has k i = true ∨ ∀ e ∈ pre, e.declares k i = false

theorem index?_behind (hides : c.Hides pre k i) :
    (c.behind pre).index? k i = (c.index? k i).map (pre.length + ·) := by
  rw [index?, behind, lastIdx?_append, index?]
  cases found : lastIdx? (Entry.declares k i) c.entries with
  | some n => rfl
  | none =>
    rcases hides with here | absent
    · simp [has, index?, found] at here
    · rw [lastIdx?_eq_none.2 absent]
      rfl

theorem has_behind (hides : c.Hides pre k i) : (c.behind pre).has k i = c.has k i := by
  rw [has, index?_behind hides, has, Option.isSome_map]

theorem push_behind (es : List Entry) : (c.behind pre).push es = (c.push es).behind pre := by
  simp [behind, push]

theorem withRigid_behind {v : Ident} : (c.behind pre).withRigid v = (c.withRigid v).behind pre :=
  @push_behind pre { c with supply := c.supply.skip 1 } _

theorem withEx_behind : (c.behind pre).withEx = c.withEx.behind pre :=
  @push_behind pre { c with supply := c.supply.skip 2 } _

theorem withMarker_behind : (c.behind pre).withMarker = c.withMarker.behind pre :=
  @push_behind pre { c with supply := c.supply.skip 1 } _

theorem withUnsolved_behind : (c.behind pre).withUnsolved = c.withUnsolved.behind pre :=
  @push_behind pre { c with supply := c.supply.skip 1 } _

theorem withLambda_behind {x : Ident} : (c.behind pre).withLambda x = (c.withLambda x).behind pre :=
  @push_behind pre { c with supply := c.supply.skip 3 } _

theorem dropFrom_behind (hides : c.Hides pre k i) :
    (c.behind pre).dropFrom k i = (c.dropFrom k i).behind pre := by
  rw [dropFrom, index?_behind hides, dropFrom]
  cases c.index? k i with
  | none => rfl
  | some n => simp [behind, List.take_length_add_append]

theorem remove_behind (hides : c.Hides pre k i) :
    (c.behind pre).remove k i = (c.remove k i).behind pre := by
  rw [remove, index?_behind hides, remove]
  cases c.index? k i with
  | none => rfl
  | some n => simp [behind, List.eraseIdx_append_of_length_le]

theorem replace_behind (hides : c.Hides pre .unsolved i) :
    (c.behind pre).replace i es = (c.replace i es).behind pre := by
  rw [replace, index?_behind hides, replace]
  cases c.index? .unsolved i with
  | none => rfl
  | some n => simp [behind, Nat.add_assoc, List.take_length_add_append, List.drop_length_add_append]

theorem typeOf?_behind (hides : c.Hides pre .term i) : (c.behind pre).typeOf? i = c.typeOf? i := by
  rw [typeOf?, index?_behind hides, typeOf?]
  cases c.index? .term i with
  | none => rfl
  | some n => simp [behind, List.getElem?_append_right]

theorem solution?_behind (hides : c.Hides pre .solved i) : (c.behind pre).solution? i = c.solution? i := by
  rw [solution?, index?_behind hides, solution?]
  cases c.index? .solved i with
  | none => rfl
  | some n => simp [behind, List.getElem?_append_right]

theorem after?_behind (hides : c.Hides pre .marker i) : (c.behind pre).after? i = c.after? i := by
  rw [after?, index?_behind hides, after?]
  cases c.index? .marker i with
  | none => rfl
  | some n => simp [behind, Nat.add_assoc, List.drop_length_add_append]

end Context

/-- The context stands on its own: it is valid, its supply has no last number, and its numbers were given out
from `lo` on. -/
structure Context.Stands (lo : Nat) (c : Context) : Prop where
  valid : c.Valid
  unlimited : c.supply.size = 0
  room : lo ≤ c.allocated
  since : c.Since lo

namespace Context.Stands

variable {pre es : List Entry} {c c' : Context} {lo i : Nat} {k : EntryKind} {bound : List Nat} {t : Ty}

theorem leads (stands : c.Stands lo) (leads : Leads c c') (since : c'.Since lo) : c'.Stands lo :=
  ⟨leads.valid, leads.size.trans stands.unlimited, Nat.le_trans stands.room leads.grows, since⟩

theorem le_of_ex (stands : c.Stands lo) (mem : i ∈ exIds c.entries) : lo ≤ i := by
  rcases mem_exIds.1 mem with mem | ⟨t, mem⟩
  · exact (stands.since _ mem (by simp [Entry.kind])).1
  · exact (stands.since _ mem (by simp [Entry.kind])).1

theorem le_of_rigid (stands : c.Stands lo) (mem : i ∈ rigidIds c.entries) : lo ≤ i := by
  obtain ⟨v, here, rfl⟩ := mem_rigidIds.1 mem
  exact (stands.since _ here (by simp [Entry.kind])).1

theorem le_of_inScope (stands : c.Stands lo) (within : InScope c.entries [] (.ex i)) : lo ≤ i :=
  stands.le_of_ex (inScope_ex.1 within)

theorem hides (older : Older lo pre) (other : k ≠ .term) (le : lo ≤ i) : c.Hides pre k i :=
  .inr (older.absent other le)

theorem applyTo_behind (stands : c.Stands lo) (older : Older lo pre) (levels : Nat)
    (declared : ∀ i ∈ t.exOccurrences, i ∈ exIds c.entries) :
    (c.behind pre).applyTo levels t = c.applyTo levels t := by
  induction levels generalizing t with
  | zero => rfl
  | succ n ih =>
    refine Ty.mapEx_congr fun i mem => ?_
    rw [solution?_behind (hides older (by simp) (stands.le_of_ex (declared i mem)))]
    cases found : c.solution? i with
    | none => rfl
    | some u =>
      have within := (stands.valid.ordered.of_solved (Context.mem_of_solution? found)).2
      exact ih fun j occurs => within.mem_exIds occurs

/-- More entries make for more levels, of which no solution has need. -/
theorem apply_behind (stands : c.Stands lo) (older : Older lo pre) (within : InScope c.entries bound t) :
    (c.behind pre).apply t = c.apply t := by
  have declared : ∀ i ∈ t.exOccurrences, i ∈ exIds c.entries := fun i mem => within.mem_exIds mem
  rw [apply, stands.applyTo_behind older _ declared, apply]
  refine stands.valid.applyTo_stable (List.append_nil _).symm declared ?_ (Nat.le_refl _)
  simp [behind]

theorem wellFormedIn_behind (stands : c.Stands lo) (older : Older lo pre)
    (within : InScope c.entries bound t) : wellFormedIn (pre ++ es) bound t = wellFormedIn es bound t := by
  have absent {k : EntryKind} {i : Nat} (other : k ≠ .term) (le : lo ≤ i) :
      pre.any (·.declares k i) = false := by
    simpa using older.absent other le
  induction t generalizing bound with
  | var v =>
    rw [wellFormedIn, List.any_append, wellFormedIn]
    rcases inScope_var.1 within with mem | mem
    · rw [List.contains_iff_mem.2 mem, Bool.true_or, Bool.true_or]
    · rw [absent (by simp) (stands.le_of_rigid mem), Bool.false_or]
  | ex i =>
    have le := stands.le_of_ex (inScope_ex.1 within)
    have none : pre.any (fun e => e.declares .unsolved i || e.declares .solved i) = false := by
      simp only [List.any_eq_false, Bool.or_eq_true, not_or, Bool.not_eq_true]
      exact fun e mem => ⟨older.absent (by simp) le e mem, older.absent (by simp) le e mem⟩
    rw [wellFormedIn, List.any_append, none, Bool.false_or, wellFormedIn]
  | arrow a b iha ihb =>
    rw [inScope_arrow] at within
    rw [wellFormedIn, iha within.1, ihb within.2, wellFormedIn]
  | all v b ih => exact ih (inScope_all.1 within)
  | _ => rfl

end Context.Stands

/-- On this context the computation does the same whether the older entries stand before it or not, and leaves
them there; and all numbers it leaves are from `lo` on. -/
structure Ignores {α : Type} (pre : List Entry) (lo : Nat) (m : Check α) (c : Context) : Prop where
  run : m.run (c.behind pre) = ((m.run c).1, (m.run c).2.behind pre)
  since : (m.run c).2.Since lo

namespace Context.Since

variable {c c' : Context} {lo i : Nat} {k : EntryKind} {es : List Entry} {t : Ty}

theorem of_subset (since : c.Since lo) (sub : c'.entries ⊆ c.entries) (le : c.allocated ≤ c'.allocated) :
    c'.Since lo := fun e mem other =>
  ⟨(since e (sub mem) other).1, Nat.lt_of_lt_of_le (since e (sub mem) other).2 le⟩

theorem skip (since : c.Since lo) (k : Nat) : Context.Since lo { c with supply := c.supply.skip k } :=
  since.of_subset (List.Subset.refl _) (Nat.le_add_right _ _)

theorem push (since : c.Since lo) (new : ∀ e ∈ es, e.kind ≠ .term → lo ≤ e.id ∧ e.id < c.allocated) :
    (c.push es).Since lo := fun e mem other =>
  (List.mem_append.1 mem).elim (fun mem => since e mem other) fun mem => new e mem other

theorem dropFrom (since : c.Since lo) : (c.dropFrom k i).Since lo := by
  rw [Context.dropFrom]
  split
  · exact since.of_subset (List.take_subset _ _) (Nat.le_refl _)
  · exact since

theorem remove (since : c.Since lo) : (c.remove k i).Since lo := by
  rw [Context.remove]
  split
  · exact since.of_subset (List.eraseIdx_subset) (Nat.le_refl _)
  · exact since

theorem replace (since : c.Since lo) (new : ∀ e ∈ es, e.kind ≠ .term → lo ≤ e.id ∧ e.id < c.allocated) :
    (c.replace i es).Since lo := by
  rw [Context.replace]
  split
  · intro e mem other
    simp only [List.mem_append] at mem
    rcases mem with (mem | mem) | mem
    · exact since e (List.take_subset _ _ mem) other
    · exact new e mem other
    · exact since e (List.drop_subset _ _ mem) other
  · exact since

end Context.Since

theorem run_solveDirectly {c : Context} {i : Nat} {t : Ty} : (solveDirectly i t).run c =
    match c.index? .unsolved i with
    | none => (.error (.notUnsolved i), c)
    | some n =>
      if t.isMono && c.wellFormed n t then (.ok true, c.solve i t)
      else match t with
        | .ex j =>
          if (c.index? .unsolved j).any (n < ·) then (.ok true, c.solve j (.ex i))
          else (.error (.cannotInstantiate i t), c)
        | _ => (.ok false, c) := by
  rw [solveDirectly, run_bind_of_ok run_get]
  cases c.index? .unsolved i with
  | none => rfl
  | some n =>
    dsimp only
    split
    · rfl
    · cases t with
      | ex j =>
        dsimp only
        split <;> rfl
      | _ => rfl

namespace Ignores

variable {α β : Type} {pre es before after : List Entry} {lo i : Nat} {m : Check α} {f : α → Check β}
  {c c₁ : Context} {a : α} {t b : Ty} {v : Ident} {k : EntryKind}

theorem done (since : c.Since lo) : Ignores pre lo (pure a) c := ⟨rfl, since⟩

theorem fail {err : TypeError} (since : c.Since lo) : Ignores pre lo (throw err : Check α) c := ⟨rfl, since⟩

theorem bind (first : Ignores pre lo m c)
    (rest : ∀ {a c₁}, m.run c = (.ok a, c₁) → c₁.Since lo → Ignores pre lo (f a) c₁) :
    Ignores pre lo (m >>= f) c := by
  have step := first.run
  have since := first.since
  rcases run : m.run c with ⟨err | a, c₁⟩ <;> rw [run] at step since
  · refine ⟨?_, ?_⟩
    · rw [run_bind_of_error step, run_bind_of_error run]
    · rwa [run_bind_of_error run]
  · have second := rest run since
    refine ⟨?_, ?_⟩
    · rw [run_bind_of_ok step, run_bind_of_ok run, second.run]
    · rw [run_bind_of_ok run]
      exact second.since

/-- Another computation that comes to the same. -/
theorem of_run_eq {m' : Check α} (same : m.run c = m'.run c₁)
    (behind : m.run (c.behind pre) = m'.run (c₁.behind pre)) (rest : Ignores pre lo m' c₁) :
    Ignores pre lo m c := by
  constructor
  · rw [behind, same, rest.run]
  · rw [same]
    exact rest.since

theorem read {f : Context → Check β} (same : (f (c.behind pre)).run (c.behind pre) = (f c).run (c.behind pre))
    (rest : Ignores pre lo (f c) c) : Ignores pre lo (get >>= f) c :=
  .of_run_eq (run_bind_of_ok run_get) ((run_bind_of_ok run_get).trans same) rest

theorem change {g : Context → Context} (same : g (c.behind pre) = (g c).behind pre)
    (since : (g c).Since lo) : Ignores pre lo (modify g : Check PUnit) c :=
  ⟨by rw [run_modify, run_modify, same], since⟩

theorem push (since : c.Since lo) (new : ∀ e ∈ es, e.kind ≠ .term → lo ≤ e.id ∧ e.id < c.allocated) :
    Ignores pre lo (modify (·.push es) : Check PUnit) c :=
  .change (Context.push_behind es) (since.push new)

theorem dropFrom (since : c.Since lo) (hides : c.Hides pre k i) :
    Ignores pre lo (modify (·.dropFrom k i) : Check PUnit) c :=
  .change (Context.dropFrom_behind hides) since.dropFrom

theorem remove (since : c.Since lo) (hides : c.Hides pre k i) :
    Ignores pre lo (modify (·.remove k i) : Check PUnit) c :=
  .change (Context.remove_behind hides) since.remove

theorem fresh (since : c.Since lo) : Ignores pre lo fresh c := ⟨rfl, since.skip 1⟩

theorem rename (since : c.Since lo) (ids : List Nat) (taken : List String) (t : Ty) :
    Ignores pre lo (rename ids taken t) c := by
  induction ids generalizing c taken t with
  | nil => exact .done since
  | cons i rest ih =>
    exact .bind (.bind (.fresh since) fun _ since => .done since) fun _ since =>
      .bind (ih since _ _) fun _ since => .done since

theorem generalize {mark : Nat} (older : Older lo pre) (le : lo ≤ mark) (since : c.Since lo) :
    Ignores pre lo (generalize mark t) c := by
  have hides : c.Hides pre .marker mark := .inr (older.absent (by simp) le)
  refine .read (by rw [Context.after?_behind hides]) ?_
  cases c.after? mark with
  | none => exact .done since
  | some scope => exact .bind (.rename since _ _ _) fun _ since => .done since

theorem applied (older : Older lo pre) (stands : c.Stands lo) (within : InScope c.entries [] t) :
    Ignores pre lo (applied t) c := by
  constructor
  · have inside := stands.valid.inScope_apply within
    have same : (c.apply t).exOccurrences.any ((c.behind pre).has .solved) =
        (c.apply t).exOccurrences.any (c.has .solved) := by
      rw [Bool.eq_iff_iff, List.any_eq_true, List.any_eq_true]
      refine exists_congr fun i => and_congr_right fun mem => ?_
      rw [Context.has_behind (.inr (older.absent (by simp) (stands.le_of_ex (inside.mem_exIds mem))))]
    rw [run_applied, run_applied, stands.apply_behind older within, same]
  · rw [run_applied]
    exact stands.since

theorem requireWellFormed (stands : c.Stands lo) (closed : InScope [] [] t) :
    Ignores pre lo (requireWellFormed t) c := by
  have here (c : Context) : (Typing.requireWellFormed t).run c = (.ok (), c) :=
    run_requireWellFormed_ok.2 ⟨rfl, closed.weaken (by simp) (by simp)⟩
  constructor
  · rw [here, here]
  · rw [here]
    exact stands.since

/-- Splitting an existential. -/
theorem articulate (stands : (c.withArrow before i after).Stands lo) (unlimited : c.supply.size = 0)
    (split : c.entries = before ++ .unsolved i :: after) (last : .unsolved i ∉ after) :
    Ignores pre lo (articulate i) c := by
  have behind : (c.behind pre).entries = (pre ++ before) ++ .unsolved i :: after := by
    rw [Context.behind, split, List.append_assoc]
  have run := run_articulate unlimited split last
  constructor
  · rw [run, @run_articulate (c.behind pre) _ _ _ unlimited behind last]
    simp [Context.withArrow, Context.behind, Context.allocated]
  · rw [run]
    exact stands.since

/-- The first step of instantiation. -/
theorem solveDirectly (older : Older lo pre) (stands : c.Stands lo) (declared : InScope c.entries [] (.ex i))
    (within : InScope c.entries [] t) : Ignores pre lo (solveDirectly i t) c := by
  have hides {j : Nat} (mem : j ∈ exIds c.entries) : c.Hides pre .unsolved j :=
    .inr (older.absent (by simp) (stands.le_of_ex mem))
  have behind {j : Nat} {u : Ty} (mem : j ∈ exIds c.entries) :
      (c.behind pre).solve j u = (c.solve j u).behind pre := Context.replace_behind (hides mem)
  have since {j : Nat} {u : Ty} (mem : j ∈ exIds c.entries) : (c.solve j u).Since lo := by
    refine stands.since.replace ?_
    simp only [List.mem_singleton, forall_eq, Entry.id]
    exact fun _ => ⟨stands.le_of_ex mem, stands.valid.ex_lt mem⟩
  have mem := inScope_ex.1 declared
  have same (n : Nat) : (c.behind pre).wellFormed (pre.length + n) t = c.wellFormed n t := by
    rw [Context.wellFormed, Context.behind, List.take_length_add_append,
      stands.wellFormedIn_behind older within, Context.wellFormed]
  constructor
  · rw [run_solveDirectly, run_solveDirectly, Context.index?_behind (hides mem)]
    cases c.index? .unsolved i with
    | none => rfl
    | some n =>
      simp only [Option.map_some, same, behind mem]
      split
      · rfl
      · cases t with
        | ex j =>
          simp only [Context.index?_behind (hides (inScope_ex.1 within)), Option.any_map,
            Nat.add_lt_add_iff_left, behind (inScope_ex.1 within)]
          split <;> rfl
        | _ => rfl
  · rw [run_solveDirectly]
    split
    · exact stands.since
    · split
      · exact since mem
      · split
        · split
          · exact since (inScope_ex.1 within)
          · exact stands.since
        · exact stands.since

end Ignores

namespace Context.Stands

variable {c : Context} {lo i : Nat} {v x : Ident} {t : Ty} {before after : List Entry}

/-- Adding entries whose numbers were just given out. -/
theorem push {es : List Entry} {count : Nat} (stands : c.Stands lo)
    (valid : (Context.push { c with supply := c.supply.skip count } es).Valid)
    (new : ∀ e ∈ es, e.kind ≠ .term → c.allocated ≤ e.id ∧ e.id < c.allocated + count) :
    (Context.push { c with supply := c.supply.skip count } es).Stands lo :=
  ⟨valid, stands.unlimited, Nat.le_trans stands.room (Nat.le_add_right _ _),
    (stands.since.skip count).push fun e mem other =>
      ⟨Nat.le_trans stands.room (new e mem other).1, (new e mem other).2⟩⟩

theorem withRigid (stands : c.Stands lo) : (c.withRigid v).Stands lo :=
  stands.push stands.valid.withRigid (by simp [Entry.id])

theorem withEx (stands : c.Stands lo) : c.withEx.Stands lo :=
  stands.push stands.valid.withEx (by simp [Entry.id])

theorem withUnsolved (stands : c.Stands lo) : c.withUnsolved.Stands lo :=
  stands.push (Leads.withUnsolved stands.valid).valid (by simp [Entry.id])

theorem withMarker (stands : c.Stands lo) : c.withMarker.Stands lo :=
  stands.push stands.valid.withMarker (by simp [Entry.id])

theorem withLambda (stands : c.Stands lo) : (c.withLambda x).Stands lo :=
  stands.push stands.valid.withLambda (by simp [Entry.id, Entry.kind])

theorem pushTerm (stands : c.Stands lo) (within : InScope c.entries [] t) :
    (c.push [.term x t]).Stands lo :=
  ⟨stands.valid.pushTerm within, stands.unlimited, stands.room, stands.since.push (by simp [Entry.kind])⟩

theorem withArrow (stands : c.Stands lo) (split : c.entries = before ++ .unsolved i :: after)
    (last : .unsolved i ∉ after) : (c.withArrow before i after).Stands lo := by
  refine stands.leads (Advances.withArrow stands.valid split).leads ?_
  have mem : .unsolved i ∈ c.entries := by simp [split]
  have old : lo ≤ i ∧ i < c.allocated := stands.since _ mem (by simp [Entry.kind])
  have room := stands.room
  rw [← replace_eq_withArrow split last]
  refine (stands.since.skip 2).replace ?_
  simp only [List.mem_cons, List.not_mem_nil, or_false, forall_eq_or_imp, forall_eq, Entry.id,
    Context.allocated, Supply.skip] at *
  omega

end Context.Stands

section Subtyping

variable {pre : List Entry} {c : Context} {lo n i : Nat} {a b t : Ty} {v : Ident} {side : Side}

/-- What is done under a quantifier that is opened with a rigid variable. -/
theorem Ignores.underRigid {k : Ty → Check Unit} (older : Older lo pre) (stands : c.Stands lo)
    (body : Ignores pre lo (k (c.rigidBody v b)) (c.withRigid v)) : Ignores pre lo (do
      let (w, body) ← openRigid v b
      modify (·.push [.rigid w])
      k body
      modify (·.dropFrom .rigid w.id)) c := by
  refine .of_run_eq (run_underRigid k stands.unlimited) ?_ (.bind body fun _ since =>
    .dropFrom since (.inr (older.absent (by simp) stands.room)))
  rw [← Context.withRigid_behind]
  exact @run_underRigid (c.behind pre) v b k stands.unlimited

/-- What is done under a quantifier that is opened with an existential. -/
theorem Ignores.underEx {k : Ty → Check Unit} (older : Older lo pre) (stands : c.Stands lo)
    (body : Ignores pre lo (k (c.exBody v b)) c.withEx) : Ignores pre lo (do
      let mark ← Typing.fresh
      let (j, body) ← openEx v b
      modify (·.push [.marker mark, .unsolved j])
      k body
      modify (·.dropFrom .marker mark)) c := by
  refine .of_run_eq (run_underEx k stands.unlimited) ?_ (.bind body fun _ since =>
    .dropFrom since (.inr (older.absent (by simp) stands.room)))
  rw [← Context.withEx_behind]
  exact @run_underEx (c.behind pre) v b k stands.unlimited

theorem ignores_instantiateOn (older : Older lo pre) (stands : c.Stands lo)
    (declared : InScope c.entries [] (.ex i)) (within : InScope c.entries [] t) :
    Ignores pre lo (instantiateOn side n i t) c := by
  induction n generalizing side c i t with
  | zero => cases side <;> exact .fail stands.since
  | succ n ih =>
    rw [instantiateOn_succ]
    refine .bind (.solveDirectly older stands declared within) fun {solved c₁} run since => ?_
    obtain ⟨before, after, split, last, result⟩ := run_solveDirectly_ok.1 run
    rcases result with ⟨rfl, -⟩ | ⟨rfl, -⟩ | ⟨rfl, -, noEx, same⟩
    · exact .done since
    · exact .done since
    · obtain rfl : c = c₁ := same.symm
      rw [if_neg (by simp)]
      cases t with
      | arrow a b =>
        have opened := stands.withArrow split last
        refine .bind (.articulate opened stands.unlimited split last) fun split' _ => ?_
        rw [run_articulate stands.unlimited split last] at split'
        cases split'
        have wider := inScope_arrow.1 ((Advances.withArrow stands.valid split).ext.inScope within)
        refine .bind (ih opened (by simp [Context.withArrow]) wider.1) fun {_ c₂} domain since => ?_
        have first := advances_instantiateOn opened.valid opened.unlimited domain
        have stands₂ := opened.leads first.leads since
        have inside := first.ext.inScope wider.2
        refine .bind (.applied older stands₂ inside) fun app since => ?_
        obtain ⟨rfl, rfl, -⟩ := run_applied_ok.1 app
        exact ih stands₂ (first.ext.inScope (by simp [Context.withArrow])) (first.valid.inScope_apply inside)
      | all v b =>
        cases side with
        | left =>
          exact .underRigid older stands
            (ih stands.withRigid declared.append_right (InScope.rigidBody within))
        | right =>
          exact .underEx older stands (ih stands.withEx declared.append_right (InScope.exBody within))
      | _ => exact .fail stands.since

theorem ignores_instantiate (older : Older lo pre) (stands : c.Stands lo)
    (withinA : InScope c.entries [] a) (withinB : InScope c.entries [] b) :
    Ignores pre lo (instantiate n a b) c := by
  have same {a b : Ty} (within : InScope c.entries [] a) : (c.behind pre).openEx? a b = c.openEx? a b := by
    cases a with
    | ex i =>
      rw [Context.openEx?, Context.has_behind (.inr (older.absent (by simp) (stands.le_of_inScope within))),
        Context.openEx?]
    | _ => rfl
  refine .read (by rw [same withinA, same withinB]) ?_
  cases left : c.openEx? a b with
  | some i =>
    obtain ⟨rfl, -⟩ := openEx?_eq_some.1 left
    exact @ignores_instantiateOn _ _ _ _ _ _ .left older stands withinA withinB
  | none =>
    cases right : c.openEx? b a with
    | some j =>
      obtain ⟨rfl, -⟩ := openEx?_eq_some.1 right
      exact @ignores_instantiateOn _ _ _ _ _ _ .right older stands withinB withinA
    | none => exact .fail stands.since

theorem ignores_subtype (older : Older lo pre) (stands : c.Stands lo) (withinA : InScope c.entries [] a)
    (withinB : InScope c.entries [] b) : Ignores pre lo (subtype n a b) c := by
  induction n generalizing c a b with
  | zero => exact .fail stands.since
  | succ n ih =>
    unfold subtype
    split
    · exact .done stands.since
    · rw [inScope_arrow] at withinA withinB
      refine .bind (ih stands withinB.1 withinA.1) fun {_ c₁} domain since => ?_
      have first := advances_subtype stands.valid stands.unlimited domain
      have stands₁ := stands.leads first.leads since
      have left := first.ext.inScope withinA.2
      have right := first.ext.inScope withinB.2
      refine .bind (.applied older stands₁ left) fun app _ => ?_
      obtain ⟨rfl, rfl, -⟩ := run_applied_ok.1 app
      refine .bind (.applied older stands₁ right) fun app _ => ?_
      obtain ⟨rfl, rfl, -⟩ := run_applied_ok.1 app
      exact ih stands₁ (first.valid.inScope_apply left) (first.valid.inScope_apply right)
    · exact .underRigid older stands
        (ih stands.withRigid withinA.append_right (InScope.rigidBody withinB))
    · exact @Ignores.underEx pre c lo _ _ (fun a => subtype n a _) older stands
        (ih stands.withEx (InScope.exBody withinA) withinB.append_right)
    · rename_i v w
      split
      · exact .fail stands.since
      · have le : lo ≤ v.id := stands.le_of_rigid (by simpa using withinA)
        refine .read (by rw [Context.has_behind (.inr (older.absent (by simp) le))]) ?_
        split
        · exact .done stands.since
        · exact .fail stands.since
    · rename_i i j
      split
      · exact ignores_instantiate older stands withinA withinB
      · have hides {k : EntryKind} (other : k ≠ .term) : c.Hides pre k i :=
          .inr (older.absent other (stands.le_of_inScope withinA))
        have same : ((c.behind pre).exIndex? i).isSome = (c.exIndex? i).isSome := by
          rw [Context.exIndex?, Context.index?_behind (hides (by simp)),
            Context.index?_behind (hides (by simp)), Context.exIndex?]
          simp
        refine .read (by rw [same]) ?_
        split
        · exact .done stands.since
        · exact .fail stands.since
    · exact ignores_instantiate older stands withinA withinB

end Subtyping

/-- The context has a type for every binder around an expression. -/
def Context.Binds (c : Context) (around : List Ident) : Prop := ∀ x ∈ around, c.has .term x.id = true

namespace Context.Binds

variable {c c' : Context} {around : List Ident} {x : Ident} {t : Ty}

theorem of_subset (binds : c.Binds around) (sub : c.entries ⊆ c'.entries) : c'.Binds around := by
  intro x mem
  obtain ⟨e, here, declares⟩ := has_iff.1 (binds x mem)
  exact has_iff.2 ⟨e, sub here, declares⟩

theorem push (binds : c.Binds around) (es : List Entry) : (c.push es).Binds around :=
  binds.of_subset (List.subset_append_left _ _)

theorem leads (binds : c.Binds around) (leads : Leads c c') : c'.Binds around := by
  intro x mem
  obtain ⟨e, here, declares⟩ := has_iff.1 (binds x mem)
  obtain ⟨y, t, rfl, same⟩ := Entry.declares_term.1 declares
  exact has_iff.2 ⟨_, leads.ext.mem here (by simp [Entry.kind]), declares⟩

theorem pushTerm (binds : c.Binds around) : (c.push [.term x t]).Binds (x :: around) :=
  have here : .term x t ∈ (c.push [.term x t]).entries := by simp [Context.push]
  List.forall_mem_cons.2 ⟨has_iff.2 ⟨_, here, Entry.declares_term.2 ⟨x, t, rfl, rfl⟩⟩, binds.push _⟩

end Context.Binds

theorem Ident.Innermost.mem {x : Ident} {around : List Ident} (innermost : x.Innermost around) :
    x ∈ around := by
  obtain ⟨inner, outer, rfl, -⟩ := innermost
  simp

/-- A linked type has no variables but those of the quantifiers around it. -/
theorem Ty.Linked.inScope {around : List Ident} {t : Ty} (linked : t.Linked around) :
    InScope [] (around.map (·.id)) t := by
  induction t generalizing around with
  | unit => exact inScope_unit
  | var v => exact inScope_var.2 (.inl (List.mem_map_of_mem (Ident.Innermost.mem linked)))
  | ex i => exact linked.elim
  | arrow a b iha ihb => exact inScope_arrow.2 ⟨iha linked.1, ihb linked.2⟩
  | all v b ih => exact inScope_all.2 (ih linked)

section Infers

variable {pre : List Entry} {lo mark : Nat}

/-- What is done after a marker. -/
theorem Ignores.withMarker {α : Type} {c : Context} {k : Nat → Check α} (stands : c.Stands lo)
    (rest : Ignores pre lo (k c.allocated) c.withMarker) : Ignores pre lo (do
      let mark ← Typing.fresh
      modify (·.push [.marker mark])
      k mark) c := by
  refine .of_run_eq (run_withMarker k stands.unlimited) ?_ rest
  rw [← Context.withMarker_behind]
  exact @run_withMarker (c.behind pre) _ k stands.unlimited

/-- What is done in the scope of an abstraction. -/
theorem Ignores.withLambda {α : Type} {c : Context} {x : Ident} {k : Nat → Nat → Nat → Check α}
    (stands : c.Stands lo)
    (rest : Ignores pre lo (k c.allocated (c.allocated + 1) (c.allocated + 2)) (c.withLambda x)) :
    Ignores pre lo (do
      let mark ← Typing.fresh
      let dom ← Typing.fresh
      let cod ← Typing.fresh
      modify (·.push [.marker mark, .unsolved dom, .unsolved cod, .term x (.ex dom)])
      k mark dom cod) c := by
  refine .of_run_eq (run_withLambda k stands.unlimited) ?_ rest
  rw [← Context.withLambda_behind]
  exact @run_withLambda (c.behind pre) x _ k stands.unlimited

/-- What is done with the body of a quantified function that is applied. -/
theorem Ignores.withUnsolved {α : Type} {c : Context} {v : Ident} {b : Ty} {k : Ty → Check α}
    (stands : c.Stands lo)
    (rest : Ignores pre lo (k (b.substVar v.id (.ex c.allocated))) c.withUnsolved) : Ignores pre lo (do
      let (i, body) ← openEx v b
      modify (·.push [.unsolved i])
      k body) c := by
  refine .of_run_eq (run_withUnsolved k stands.unlimited) ?_ rest
  rw [← Context.withUnsolved_behind]
  exact @run_withUnsolved (c.behind pre) v b _ k stands.unlimited

/-- The end of a scope that a marker opened, with a generalisation. -/
theorem Ignores.close {c : Context} {u : Ty} (older : Older lo pre) (stands : c.Stands lo)
    (within : InScope c.entries [] u) (le : lo ≤ mark) : Ignores pre lo (do
      let t ← Typing.generalize mark (← Typing.applied u)
      modify (·.dropFrom .marker mark)
      return t) c :=
  .bind (.applied older stands within) fun app since => .bind (.generalize older le since) fun _ since =>
    .bind (.dropFrom since (.inr (older.absent (by simp) le))) fun _ since => .done since

theorem Ignores.pushTerm {c : Context} {x : Ident} {t : Ty} (since : c.Since lo) :
    Ignores pre lo (modify (·.push [.term x t]) : Check PUnit) c :=
  .push since (by simp [Entry.kind])

theorem leads_of_synth {c c' : Context} {n : Nat} {e : Expr} {t : Ty} (valid : c.Valid)
    (unlimited : c.supply.size = 0) (run : (synth n e).run c = (.ok t, c')) :
    Leads c c' ∧ InScope c'.entries [] t :=
  ((Infers.of_runs n).synths unlimited run).leads valid unlimited trivial

theorem leads_of_bindingType {c c' : Context} {n : Nat} {ann : Option Ty} {e : Expr} {t : Ty}
    (valid : c.Valid) (unlimited : c.supply.size = 0) (run : (bindingType n ann e).run c = (.ok t, c')) :
    Leads c c' ∧ InScope c'.entries [] t :=
  ((Infers.of_runs n).binds unlimited run).leads valid unlimited trivial

/-- At the depth, inference on a context that has a type for every binder around the expression ignores what
stands before it. -/
structure IgnoresInfer (pre : List Entry) (lo n : Nat) : Prop where
  checks {c : Context} {e : Expr} {t : Ty} {around : List Ident} (stands : c.Stands lo)
    (within : InScope c.entries [] t) (linked : e.Linked around) (binds : c.Binds around) :
    Ignores pre lo (check n e t) c
  synths {c : Context} {e : Expr} {around : List Ident} (stands : c.Stands lo) (linked : e.Linked around)
    (binds : c.Binds around) : Ignores pre lo (synth n e) c
  applies {c : Context} {f : Ty} {e : Expr} {around : List Ident} (stands : c.Stands lo)
    (within : InScope c.entries [] f) (linked : e.Linked around) (binds : c.Binds around) :
    Ignores pre lo (synthApp n f e) c
  bindings {c : Context} {ann : Option Ty} {e : Expr} {around : List Ident} (stands : c.Stands lo)
    (given : ∀ t ∈ ann, t.Linked []) (linked : e.Linked around) (binds : c.Binds around) :
    Ignores pre lo (bindingType n ann e) c

namespace IgnoresInfer

variable {c : Context} {n : Nat} {e : Expr} {ann : Option Ty} {f t : Ty} {around : List Ident}

theorem zero : IgnoresInfer pre lo 0 where
  checks stands _ _ _ := .fail stands.since
  synths stands _ _ := .fail stands.since
  applies stands _ _ _ := .fail stands.since
  bindings stands _ _ _ := .fail stands.since

theorem check_succ (ih : IgnoresInfer pre lo n) (older : Older lo pre) (stands : c.Stands lo)
    (within : InScope c.entries [] t) (linked : e.Linked around) (binds : c.Binds around) :
    Ignores pre lo (check (n + 1) e t) c := by
  unfold check
  split
  · exact .underRigid older stands
      (ih.checks stands.withRigid (InScope.rigidBody within) linked (binds.push _))
  · exact .done stands.since
  · rename_i x body dom cod
    rw [inScope_arrow] at within
    have inside : (c.push [.term x dom]).Stands lo := stands.pushTerm within.1
    refine .bind (.pushTerm stands.since) fun opened _ => ?_
    cases opened
    refine .bind (ih.checks inside within.2.append_right linked binds.pushTerm) fun run since => ?_
    have leads := leads_check inside.valid inside.unlimited within.2.append_right run
    -- the parameter is still there and hides an older term of its number
    exact .dropFrom since (.inl (binds.pushTerm.leads leads _ List.mem_cons_self))
  · rename_i x ann value body _
    obtain ⟨given, inValue, inBody⟩ := linked
    refine .bind (ih.bindings stands given inValue binds) fun {bound c₁} run since => ?_
    obtain ⟨first, output⟩ := leads_of_bindingType stands.valid stands.unlimited run
    have stands₁ := stands.leads first since
    have inside : (c₁.push [.term x bound]).Stands lo := stands₁.pushTerm output
    have here : InScope (c₁.push [.term x bound]).entries [] t := (first.ext.inScope within).append_right
    refine .bind (.pushTerm since) fun opened _ => ?_
    cases opened
    have binds₁ : (c₁.push [.term x bound]).Binds (x :: around) := (binds.leads first).pushTerm
    refine .bind (ih.checks inside here inBody binds₁) fun run since => ?_
    have leads := leads_check inside.valid inside.unlimited here run
    exact .remove since (.inl (binds₁.leads leads _ List.mem_cons_self))
  · refine .bind (ih.synths stands linked binds) fun {s c₁} run since => ?_
    obtain ⟨first, output⟩ := leads_of_synth stands.valid stands.unlimited run
    have stands₁ := stands.leads first since
    have here := first.ext.inScope within
    refine .bind (.applied older stands₁ output) fun app _ => ?_
    obtain ⟨rfl, rfl, -⟩ := run_applied_ok.1 app
    refine .bind (.applied older stands₁ here) fun app _ => ?_
    obtain ⟨rfl, rfl, -⟩ := run_applied_ok.1 app
    exact ignores_subtype older stands₁ (first.valid.inScope_apply output)
      (first.valid.inScope_apply here)

theorem synth_succ (ih : IgnoresInfer pre lo n) (older : Older lo pre) (stands : c.Stands lo)
    (linked : e.Linked around) (binds : c.Binds around) : Ignores pre lo (synth (n + 1) e) c := by
  unfold synth
  cases e with
  | var x =>
    -- the term is found behind the older entries, which may declare one of the same number
    have here := binds x (Ident.Innermost.mem linked)
    refine .read (by rw [Context.typeOf?_behind (.inl here)]) ?_
    cases c.typeOf? x.id with
    | none => exact .fail stands.since
    | some t => exact .done stands.since
  | unit => exact .done stands.since
  | ann e t =>
    have closed : InScope [] [] t := Ty.Linked.inScope linked.2
    refine .bind (.requireWellFormed stands closed) fun required _ => ?_
    obtain ⟨rfl, within⟩ := run_requireWellFormed_ok.1 required
    exact .bind (ih.checks stands within linked.1 binds) fun _ since => .done since
  | lam x body =>
    have inside := @Context.Stands.withLambda c lo x stands
    have binds₁ : (c.withLambda x).Binds (x :: around) :=
      List.forall_mem_cons.2 ⟨Context.has_iff.2 ⟨.term x (.ex (c.allocated + 1)),
        by simp [Context.withLambda], Entry.declares_term.2 ⟨_, _, rfl, rfl⟩⟩,
        binds.of_subset (List.subset_append_left _ _)⟩
    have within : InScope (c.withLambda x).entries [] (.ex (c.allocated + 2)) := by
      simp [Context.withLambda]
    refine .withLambda stands (.bind (ih.checks inside within linked binds₁) fun {_ c₁} run since => ?_)
    have leads := leads_check inside.valid inside.unlimited within run
    exact .close older (inside.leads leads since)
      (leads.ext.inScope (by simp [Context.withLambda])) stands.room
  | app fn arg =>
    refine .bind (ih.synths stands linked.1 binds) fun {s c₁} run since => ?_
    obtain ⟨first, output⟩ := leads_of_synth stands.valid stands.unlimited run
    have stands₁ := stands.leads first since
    refine .bind (.applied older stands₁ output) fun app _ => ?_
    obtain ⟨rfl, rfl, -⟩ := run_applied_ok.1 app
    exact ih.applies stands₁ (first.valid.inScope_apply output) linked.2 (binds.leads first)
  | letIn x ann value body =>
    obtain ⟨given, inValue, inBody⟩ := linked
    refine .bind (ih.bindings stands given inValue binds) fun {bound c₁} run since => ?_
    obtain ⟨first, output⟩ := leads_of_bindingType stands.valid stands.unlimited run
    have inside : (c₁.push [.term x bound]).Stands lo := (stands.leads first since).pushTerm output
    refine .bind (.pushTerm since) fun opened _ => ?_
    cases opened
    have binds₁ : (c₁.push [.term x bound]).Binds (x :: around) := (binds.leads first).pushTerm
    refine .bind (ih.synths inside inBody binds₁) fun run since => ?_
    have leads := (leads_of_synth inside.valid inside.unlimited run).1
    exact .bind (.remove since (.inl (binds₁.leads leads _ List.mem_cons_self)))
      fun _ since => .done since

theorem apply_succ (ih : IgnoresInfer pre lo n) (older : Older lo pre) (stands : c.Stands lo)
    (within : InScope c.entries [] f) (linked : e.Linked around) (binds : c.Binds around) :
    Ignores pre lo (synthApp (n + 1) f e) c := by
  unfold synthApp
  cases f with
  | all v b =>
    have wider : InScope c.withUnsolved.entries [v.id] b := (inScope_all.1 within).append_right
    refine @Ignores.withUnsolved pre lo _ c v b (synthApp n · e) stands ?_
    exact ih.applies stands.withUnsolved (wider.substVar (by simp [Context.withUnsolved])) linked
      (binds.of_subset (List.subset_append_left _ _))
  | ex i =>
    refine .read (by
      rw [Context.has_behind (.inr (older.absent (by simp) (stands.le_of_inScope within)))]) ?_
    split
    · rename_i present
      obtain ⟨before, after, split, last⟩ := Context.split_unsolved (Context.has_unsolved.1 present)
      have opened := stands.withArrow split last
      refine .bind (.articulate opened stands.unlimited split last) fun split' _ => ?_
      rw [run_articulate stands.unlimited split last] at split'
      cases split'
      have binds₁ := binds.leads (Advances.withArrow stands.valid split).leads
      exact .bind (ih.checks opened (by simp [Context.withArrow]) linked binds₁) fun _ since => .done since
    · exact .fail stands.since
  | arrow dom cod =>
    exact .bind (ih.checks stands (inScope_arrow.1 within).1 linked binds) fun _ since => .done since
  | _ => exact .fail stands.since

theorem bind_succ (ih : IgnoresInfer pre lo n) (older : Older lo pre) (stands : c.Stands lo)
    (given : ∀ t ∈ ann, t.Linked []) (linked : e.Linked around) (binds : c.Binds around) :
    Ignores pre lo (bindingType (n + 1) ann e) c := by
  unfold bindingType
  cases ann with
  | some t =>
    have closed : InScope [] [] t := Ty.Linked.inScope (given t rfl)
    refine .bind (.requireWellFormed stands closed) fun required _ => ?_
    obtain ⟨rfl, within⟩ := run_requireWellFormed_ok.1 required
    exact .bind (ih.checks stands within linked binds) fun _ since => .done since
  | none =>
    have inside := stands.withMarker
    refine .withMarker stands (.bind (ih.synths inside linked
      (binds.of_subset (List.subset_append_left _ _))) fun {s c₁} run since => ?_)
    obtain ⟨leads, output⟩ := leads_of_synth inside.valid inside.unlimited run
    exact .close older (inside.leads leads since) output stands.room

end IgnoresInfer

/-- Inference on a context that has a type for every binder around the expression ignores what stands before it. -/
theorem ignores_infers (older : Older lo pre) (n : Nat) : IgnoresInfer pre lo n := by
  induction n with
  | zero => exact .zero
  | succ n ih =>
    exact ⟨ih.check_succ older, ih.synth_succ older, ih.apply_succ older, ih.bind_succ older⟩

end Infers

section Close

variable {pre : List Entry} {c : Context} {lo mark : Nat}

theorem Context.Since.close (since : c.Since lo) : (c.close mark).Since lo := by
  rw [Context.close]
  split
  · exact since
  · intro e mem other
    rcases List.mem_append.1 mem with mem | mem
    · exact since e (List.take_subset _ _ mem) other
    · obtain ⟨e', here, eq⟩ := List.mem_filterMap.1 mem
      have old := since e' (List.mem_of_mem_drop here)
      cases e' <;> cases eq
      exact old (by simp [Entry.kind])

theorem Context.Stands.close_behind (stands : c.Stands lo) (older : Older lo pre) (le : lo ≤ mark) :
    (c.behind pre).close mark = (c.close mark).behind pre := by
  rw [Context.close, Context.index?_behind (hides older (by simp) le), Context.close]
  cases c.index? .marker mark with
  | none => rfl
  | some n =>
    have entries : (c.behind pre).entries = pre ++ c.entries := rfl
    simp only [Option.map_some, entries, Nat.add_assoc, List.take_length_add_append,
      List.drop_length_add_append, List.append_assoc]
    refine congrArg (fun kept => (⟨pre ++ (c.entries.take n ++ kept), c.supply⟩ : Context))
      (List.filterMap_congr fun e mem => ?_)
    cases e with
    | solved i t =>
      have within := (stands.valid.ordered.of_solved (List.mem_of_mem_drop mem)).2
      exact congrArg (fun t => some (Entry.solved i t)) (stands.apply_behind older within)
    | _ => rfl

theorem Ignores.closeContext (older : Older lo pre) (stands : c.Stands lo) (le : lo ≤ mark) :
    Ignores pre lo (Typing.close mark) c := by
  have hides : c.Hides pre .marker mark := Context.Stands.hides older (by simp) le
  have same : (c.behind pre).solutionsAfter mark = c.solutionsAfter mark := by
    rw [Context.solutionsAfter, Context.after?_behind hides, Context.solutionsAfter]
  constructor
  · rw [run_close stands.valid, Typing.close, run_bind_of_ok run_get, same,
      run_bind_of_ok (run_forM_of_ok fun t mem => ?_), run_modify, stands.close_behind older le]
    obtain ⟨i, here⟩ := mem_solutionsAfter mem
    have within := (stands.valid.ordered.of_solved here).2
    have ended := run_applied_ok.2 ⟨rfl, rfl, stands.valid.ended fun _ => within.mem_exIds⟩
    have behind := (Ignores.applied older stands within).run
    rw [ended] at behind
    exact run_bind_of_ok behind
  · rw [run_close stands.valid]
    exact stands.since.close

theorem Ignores.onError {α : Type} {m : Check α} {k : EntryKind} {i : Nat} (first : Ignores pre lo m c)
    (hides : ∀ c : Context, c.Hides pre k i) :
    Ignores pre lo (tryCatch m fun err => do modify (·.remove k i); throw err) c := by
  have step := first.run
  have since := first.since
  rcases run : m.run c with ⟨err | a, c₁⟩ <;> rw [run] at step since
  · have handled : Ignores pre lo (do modify (·.remove k i); throw err : Check α) c₁ :=
      .bind (.remove since (hides c₁)) fun _ since => .fail since
    refine ⟨?_, ?_⟩
    · rw [run_tryCatch_of_error step, run_tryCatch_of_error run, handled.run]
    · rw [run_tryCatch_of_error run]
      exact handled.since
  · refine ⟨?_, ?_⟩
    · rw [run_tryCatch_of_ok step, run_tryCatch_of_ok run]
    · rwa [run_tryCatch_of_ok run]

/-- Inference of a closed expression. -/
theorem ignores_inferAt {e : Expr} (older : Older lo pre) (stands : c.Stands lo) (n : Nat)
    (linked : e.Linked []) : Ignores pre lo (fresh >>= inferAt n e) c := by
  have inside := stands.withMarker
  refine .withMarker stands (.bind
    (.onError ((ignores_infers older n).synths inside linked (by simp [Context.Binds]))
      fun c => .inr (older.absent (by simp) stands.room)) fun {s c₁} run since => ?_)
  obtain ⟨leads, output⟩ := leads_of_synth inside.valid inside.unlimited (run_tryCatch_ok.1 run)
  have stands₁ := inside.leads leads since
  refine .bind (.applied older stands₁ output) fun {u c₂} app _ => ?_
  obtain ⟨rfl, rfl, -⟩ := run_applied_ok.1 app
  refine .bind (.generalize older stands.room since) fun gen since => ?_
  obtain ⟨u, k, general⟩ := @run_generalize_skip c₂ c.allocated (c₂.apply s)
  rw [general] at gen
  cases gen
  have stands₂ := stands₁.leads (.skip stands₁.valid k) since
  exact .bind (.closeContext older stands₂ stands.room) fun _ since => .done since

end Close

end TermBot.Typing
