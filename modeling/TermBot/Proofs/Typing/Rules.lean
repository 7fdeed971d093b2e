import TermBot.Proofs.Typing.Extension
import TermBot.Proofs.Typing.Runs

/-!
# The rules of subtyping

`Inst` and `Subtyping` are the successful runs of instantiation and subtyping as derivations, one rule
for each way to succeed: `Inst.of_run` and `Inst.exists_run`, `Subtyping.of_run` and
`Subtyping.exists_run`. They are about a supply without a last number, on which the next number is
how many were given out.
-/

namespace TermBot.Typing

open Scoped

namespace Context

/-- Every solution has an end when the context is applied to the type. -/
def Ended (c : Context) (t : Ty) : Prop := (c.apply t).exOccurrences.any (c.has .solved) = false

/-- The context in which a quantifier is opened with a rigid variable. -/
def withRigid (c : Context) (v : Ident) : Context where
  entries := c.entries ++ [.rigid ⟨v.name, c.allocated⟩]
  supply := c.supply.skip 1

/-- The body of a quantifier that is opened with a rigid variable. -/
def rigidBody (c : Context) (v : Ident) (b : Ty) : Ty := b.substVar v.id (.var ⟨v.name, c.allocated⟩)

/-- The context in which a quantifier is opened with an existential. -/
def withEx (c : Context) : Context where
  entries := c.entries ++ [.marker c.allocated, .unsolved (c.allocated + 1)]
  supply := c.supply.skip 2

/-- The body of a quantifier that is opened with an existential. -/
def exBody (c : Context) (v : Ident) (b : Ty) : Ty := b.substVar v.id (.ex (c.allocated + 1))

/-- The context in which an existential between `before` and `after` is split into an arrow. -/
def withArrow (c : Context) (before : List Entry) (i : Nat) (after : List Entry) : Context where
  entries := before ++ .unsolved c.allocated :: .unsolved (c.allocated + 1) ::
    .solved i (.arrow (.ex (c.allocated + 1)) (.ex c.allocated)) :: after
  supply := c.supply.skip 2

end Context

section Steps

variable {c c' : Context} {t : Ty} {i : Nat} {before after : List Entry}

theorem next_of_unlimited (unlimited : c.supply.size = 0) : c.next = c.allocated := by
  rw [Context.next, Supply.next, Supply.wrap, unlimited, Nat.mod_zero]
  rfl

/-- The number that is given out after `k` others. -/
theorem run_fresh_skip (unlimited : c.supply.size = 0) (k : Nat) :
    fresh.run { c with supply := c.supply.skip k } =
      (.ok (c.allocated + k), { c with supply := c.supply.skip (k + 1) }) := by
  have number : ({ c with supply := c.supply.skip k } : Context).next = c.allocated + k :=
    next_of_unlimited unlimited
  rw [run_fresh, number]
  rfl

theorem run_fresh_first (unlimited : c.supply.size = 0) :
    fresh.run c = (.ok c.allocated, { c with supply := c.supply.skip 1 }) :=
  run_fresh_skip unlimited 0

theorem run_applied_ok {s : Ty} :
    (applied t).run c = (.ok s, c') ↔ c' = c ∧ s = c.apply t ∧ c.Ended t := by
  rw [run_applied, Context.Ended]
  cases (c.apply t).exOccurrences.any (c.has .solved) with
  | true =>
    constructor
    · intro h
      cases h
    · rintro ⟨-, -, h⟩
      cases h
  | false =>
    constructor
    · intro h
      cases h
      exact ⟨rfl, rfl, rfl⟩
    · rintro ⟨rfl, rfl, -⟩
      rfl

theorem run_then_modify_ok {m : Check Unit} {g : Context → Context} :
    (do m; modify g : Check Unit).run c = (.ok (), c') ↔ ∃ c₁, m.run c = (.ok (), c₁) ∧ c' = g c₁ := by
  rw [run_bind_ok]
  constructor
  · rintro ⟨_, c₁, run, last⟩
    rw [run_modify] at last
    cases last
    exact ⟨c₁, run, rfl⟩
  · rintro ⟨c₁, run, rfl⟩
    exact ⟨(), c₁, run, rfl⟩

theorem run_openRigid {v : Ident} {b : Ty} (unlimited : c.supply.size = 0) : (openRigid v b).run c =
    (.ok (⟨v.name, c.allocated⟩, c.rigidBody v b), { c with supply := c.supply.skip 1 }) := by
  rw [Context.rigidBody, ← next_of_unlimited unlimited]
  rfl

theorem run_openEx_skip {v : Ident} {b : Ty} (unlimited : c.supply.size = 0) (k : Nat) :
    (openEx v b).run { c with supply := c.supply.skip k } =
      (.ok (c.allocated + k, b.substVar v.id (.ex (c.allocated + k))),
        { c with supply := c.supply.skip (k + 1) }) := by
  rw [openEx, run_bind_of_ok (run_fresh_skip unlimited k)]
  rfl

/-- A computation under a quantifier that is opened with a rigid variable. -/
theorem run_underRigid {v : Ident} {b : Ty} (k : Ty → Check Unit) (unlimited : c.supply.size = 0) :
    (do
      let (w, body) ← openRigid v b
      modify (·.push [.rigid w])
      k body
      modify (·.dropFrom .rigid w.id) : Check Unit).run c =
    (do k (c.rigidBody v b); modify (·.dropFrom .rigid c.allocated) : Check Unit).run
      (c.withRigid v) := by
  rw [run_bind_of_ok (run_openRigid unlimited), run_bind_of_ok run_modify]
  rfl

/-- A computation under a quantifier that is opened with an existential. -/
theorem run_underEx {v : Ident} {b : Ty} (k : Ty → Check Unit) (unlimited : c.supply.size = 0) :
    (do
      let mark ← fresh
      let (j, body) ← openEx v b
      modify (·.push [.marker mark, .unsolved j])
      k body
      modify (·.dropFrom .marker mark) : Check Unit).run c =
    (do k (c.exBody v b); modify (·.dropFrom .marker c.allocated) : Check Unit).run c.withEx := by
  rw [run_bind_of_ok (run_fresh_first unlimited), run_bind_of_ok (run_openEx_skip unlimited 1),
    run_bind_of_ok run_modify]
  rfl

theorem replace_eq_withArrow (split : c.entries = before ++ .unsolved i :: after)
    (last : .unsolved i ∉ after) : ({ c with supply := c.supply.skip 2 } : Context).replace i
      [.unsolved c.allocated, .unsolved (c.allocated + 1),
        .solved i (.arrow (.ex (c.allocated + 1)) (.ex c.allocated))] = c.withArrow before i after := by
  rw [Context.replace_split (c := { c with supply := c.supply.skip 2 }) split last, Context.withArrow]
  simp

theorem run_articulate (unlimited : c.supply.size = 0)
    (split : c.entries = before ++ .unsolved i :: after) (last : .unsolved i ∉ after) :
    (articulate i).run c = (.ok (c.allocated + 1, c.allocated), c.withArrow before i after) := by
  rw [articulate, run_bind_of_ok (run_fresh_first unlimited),
    run_bind_of_ok (run_fresh_skip unlimited 1), run_bind_of_ok run_modify, run_pure, Nat.add_zero,
    replace_eq_withArrow split last]

end Steps

section SolveDirectly

variable {c c' : Context} {i : Nat} {t : Ty} {before after : List Entry}

theorem later_iff {j : Nat} (split : c.entries = before ++ .unsolved i :: after) :
    (c.index? .unsolved j).any (before.length < ·) = true ↔
      ∃ mid back : List Entry, after = mid ++ .unsolved j :: back ∧ .unsolved j ∉ back := by
  rw [Option.any_eq_true]
  constructor
  · rintro ⟨m, place, lt⟩
    obtain ⟨front, e, back, split', rfl, here, last⟩ := Context.index?_eq_some place
    obtain rfl := Entry.declares_unsolved.1 here
    rw [split] at split'
    have lt : before.length < front.length := by simpa using lt
    rcases List.append_eq_append_iff.1 split' with ⟨mid, rfl, tail⟩ | ⟨mid, rfl, tail⟩
    · cases mid with
      | nil => simp at lt
      | cons e mid =>
        simp only [List.cons_append, List.cons.injEq] at tail
        refine ⟨mid, back, tail.2, fun mem => ?_⟩
        exact absurd (last _ mem) (by simp [Entry.declares_unsolved])
    · rw [List.length_append] at lt
      omega
  · rintro ⟨mid, back, rfl, last⟩
    have split' : c.entries = (before ++ .unsolved i :: mid) ++ .unsolved j :: back := by simp [split]
    refine ⟨_, Context.index?_split split' (Entry.declares_unsolved.2 rfl) ?_, by simp⟩
    intro e mem
    rw [Bool.eq_false_iff, ne_eq, Entry.declares_unsolved]
    rintro rfl
    exact last mem

theorem solveDirectly_split (split : c.entries = before ++ .unsolved i :: after)
    (last : .unsolved i ∉ after) : (solveDirectly i t).run c =
      if t.isMono && Context.wellFormedIn before [] t then
        (.ok true, { c with entries := before ++ .solved i t :: after })
      else match t with
        | .ex j =>
          if (c.index? .unsolved j).any (before.length < ·) then (.ok true, c.solve j (.ex i))
          else (.error (.cannotInstantiate i t), c)
        | _ => (.ok false, c) := by
  have place : c.index? .unsolved i = some before.length := by
    refine Context.index?_split split (Entry.declares_unsolved.2 rfl) ?_
    intro e mem
    rw [Bool.eq_false_iff, ne_eq, Entry.declares_unsolved]
    rintro rfl
    exact last mem
  have front : c.entries.take before.length = before := by simp [split]
  rw [solveDirectly, run_bind_of_ok run_get]
  simp only [place, Context.wellFormed, front]
  by_cases direct : (t.isMono && Context.wellFormedIn before [] t) = true
  · simp only [direct, if_true]
    rw [run_bind_of_ok run_set, run_pure, Context.solve, Context.replace_split split last]
    simp
  · simp only [direct]
    cases t with
    | ex j =>
      by_cases later : (c.index? .unsolved j).any (before.length < ·) = true
      · simp only [later, if_true]
        rfl
      · simp only [later]
        rfl
    | _ => rfl

/-- What the first step of instantiation does: it solves the existential, or solves the type if that
is a later existential, or leaves the rest to do. -/
theorem run_solveDirectly_ok {solved : Bool} :
    (solveDirectly i t).run c = (.ok solved, c') ↔
      ∃ before after, c.entries = before ++ .unsolved i :: after ∧ .unsolved i ∉ after ∧
        ((solved = true ∧ t.isMono = true ∧ InScope before [] t ∧
            c' = { c with entries := before ++ .solved i t :: after }) ∨
          (solved = true ∧ ¬ InScope before [] t ∧ ∃ j mid back, t = .ex j ∧
            after = mid ++ .unsolved j :: back ∧ .unsolved j ∉ back ∧
            c' = { c with entries := before ++ .unsolved i :: mid ++ .solved j (.ex i) :: back }) ∨
          (solved = false ∧ ¬ (t.isMono = true ∧ InScope before [] t) ∧ (∀ j, t ≠ .ex j) ∧
            c' = c)) := by
  have solves {before mid back : List Entry} {j : Nat}
      (split : c.entries = before ++ .unsolved i :: (mid ++ .unsolved j :: back))
      (last : .unsolved j ∉ back) : c.solve j (.ex i) =
        { c with entries := before ++ .unsolved i :: mid ++ .solved j (.ex i) :: back } := by
    have split' : c.entries = (before ++ .unsolved i :: mid) ++ .unsolved j :: back := by simp [split]
    rw [Context.solve, Context.replace_split split' last]
    simp
  constructor
  · intro run
    cases place : c.index? .unsolved i with
    | none =>
      rw [solveDirectly, run_bind_of_ok run_get, place] at run
      cases run
    | some n =>
      obtain ⟨before, e, after, split, -, here, absent⟩ := Context.index?_eq_some place
      obtain rfl := Entry.declares_unsolved.1 here
      have last : .unsolved i ∉ after := fun mem =>
        absurd (absent _ mem) (by simp [Entry.declares_unsolved])
      refine ⟨before, after, split, last, ?_⟩
      rw [solveDirectly_split split last] at run
      split at run
      · rename_i direct
        cases run
        rw [Bool.and_eq_true] at direct
        exact .inl ⟨rfl, direct.1, direct.2, rfl⟩
      · rename_i other
        rw [Bool.and_eq_true] at other
        cases t with
        | ex j =>
          simp only at run
          split at run
          · rename_i later
            obtain ⟨mid, back, rfl, lastj⟩ := (later_iff split).1 later
            cases run
            refine .inr (.inl ⟨rfl, ?_, j, mid, back, rfl, rfl, lastj, solves split lastj⟩)
            exact fun within => other ⟨rfl, within⟩
          · cases run
        | _ =>
          cases run
          exact .inr (.inr ⟨rfl, other, by simp, rfl⟩)
  · rintro ⟨before, after, split, last, cases⟩
    rw [solveDirectly_split split last]
    rcases cases with ⟨rfl, mono, within, rfl⟩ | ⟨rfl, out, j, mid, back, rfl, rfl, lastj, rfl⟩ |
      ⟨rfl, other, noEx, rfl⟩
    · rw [if_pos (by rw [mono, within]; rfl)]
    · have later := (later_iff split).2 ⟨mid, back, rfl, lastj⟩
      rw [if_neg (by rw [Bool.and_eq_true]; exact fun h => out h.2)]
      simp only [later, if_true, solves split lastj]
    · rw [if_neg (by rw [Bool.and_eq_true]; exact other)]
      cases t with
      | ex j => exact absurd rfl (noEx j)
      | _ => rfl

/-- A failure leaves the context as it was. -/
theorem run_solveDirectly_error {err : TypeError} (run : (solveDirectly i t).run c = (.error err, c')) :
    c' = c := by
  cases place : c.index? .unsolved i with
  | none =>
    rw [solveDirectly, run_bind_of_ok run_get, place] at run
    cases run
    rfl
  | some n =>
    obtain ⟨before, after, split, last⟩ :=
      Context.split_unsolved (Context.has_unsolved.1 (Option.isSome_iff_exists.2 ⟨n, place⟩))
    rw [solveDirectly_split split last] at run
    split at run
    · cases run
    · cases t with
      | ex j =>
        simp only at run
        split at run <;> cases run
        rfl
      | _ => cases run

theorem run_solveDirectly_all {v : Ident} {b : Ty} (unsolved : .unsolved i ∈ c.entries) :
    (solveDirectly i (.all v b)).run c = (.ok false, c) := by
  obtain ⟨before, after, split, last⟩ := Context.split_unsolved unsolved
  exact run_solveDirectly_ok.2
    ⟨before, after, split, last, .inr (.inr ⟨rfl, by simp [Ty.isMono], by simp, rfl⟩)⟩

end SolveDirectly

/-- Instantiation of an existential: `Inst side c i t c'` says that on `c` the existential `i` becomes a
subtype of `t` (`left`) or a supertype of it (`right`), which leaves `c'`. -/
inductive Inst : Side → Context → Nat → Ty → Context → Prop where
  | solve {side : Side} {c : Context} {i : Nat} {t : Ty} {before after : List Entry}
      (split : c.entries = before ++ .unsolved i :: after) (last : .unsolved i ∉ after)
      (mono : t.isMono = true) (within : InScope before [] t) :
      Inst side c i t { c with entries := before ++ .solved i t :: after }
  | reach {side : Side} {c : Context} {i j : Nat} {before mid after : List Entry}
      (split : c.entries = before ++ .unsolved i :: (mid ++ .unsolved j :: after))
      (first : .unsolved i ∉ mid ++ .unsolved j :: after) (last : .unsolved j ∉ after)
      (out : ¬ InScope before [] (.ex j)) :
      Inst side c i (.ex j)
        { c with entries := before ++ .unsolved i :: mid ++ .solved j (.ex i) :: after }
  | arrow {side : Side} {c c₁ c₂ : Context} {i : Nat} {a b : Ty} {before after : List Entry}
      (split : c.entries = before ++ .unsolved i :: after) (last : .unsolved i ∉ after)
      (other : ¬ ((Ty.arrow a b).isMono = true ∧ InScope before [] (.arrow a b)))
      (dom : Inst side.flip (c.withArrow before i after) (c.allocated + 1) a c₁)
      (ended : c₁.Ended b) (cod : Inst side c₁ c.allocated (c₁.apply b) c₂) :
      Inst side c i (.arrow a b) c₂
  | rigid {c c' : Context} {i : Nat} {v : Ident} {b : Ty} (unsolved : .unsolved i ∈ c.entries)
      (body : Inst .left (c.withRigid v) i (c.rigidBody v b) c') :
      Inst .left c i (.all v b) (c'.dropFrom .rigid c.allocated)
  | existential {c c' : Context} {i : Nat} {v : Ident} {b : Ty} (unsolved : .unsolved i ∈ c.entries)
      (body : Inst .right c.withEx i (c.exBody v b) c') :
      Inst .right c i (.all v b) (c'.dropFrom .marker c.allocated)

/-- Subtyping: `Subtyping c a b c'` says that on `c` the type `a` becomes a subtype of `b`, which leaves
`c'`. -/
inductive Subtyping : Context → Ty → Ty → Context → Prop where
  | unit {c : Context} : Subtyping c .unit .unit c
  | var {c : Context} {v w : Ident} (same : v.id = w.id) (declared : v.id ∈ rigidIds c.entries) :
      Subtyping c (.var v) (.var w) c
  | same {c : Context} {i : Nat} (declared : i ∈ exIds c.entries) : Subtyping c (.ex i) (.ex i) c
  | arrow {c c₁ c₂ : Context} {a₁ a₂ b₁ b₂ : Ty} (dom : Subtyping c b₁ a₁ c₁) (left : c₁.Ended a₂)
      (right : c₁.Ended b₂) (cod : Subtyping c₁ (c₁.apply a₂) (c₁.apply b₂) c₂) :
      Subtyping c (.arrow a₁ a₂) (.arrow b₁ b₂) c₂
  | rigid {c c' : Context} {a b : Ty} {v : Ident}
      (body : Subtyping (c.withRigid v) a (c.rigidBody v b) c') :
      Subtyping c a (.all v b) (c'.dropFrom .rigid c.allocated)
  | existential {c c' : Context} {a b : Ty} {v : Ident} (other : ∀ w b', b ≠ .all w b')
      (body : Subtyping c.withEx (c.exBody v a) b c') :
      Subtyping c (.all v a) b (c'.dropFrom .marker c.allocated)
  | left {c c' : Context} {i : Nat} {b : Ty} (other : ∀ w b', b ≠ .all w b')
      (unsolved : .unsolved i ∈ c.entries) (absent : i ∉ b.exOccurrences)
      (inst : Inst .left c i b c') : Subtyping c (.ex i) b c'
  | right {c c' : Context} {j : Nat} {a : Ty} (other : ∀ w a', a ≠ .all w a')
      (notLeft : c.openEx? a (.ex j) = none) (unsolved : .unsolved j ∈ c.entries)
      (absent : j ∉ a.exOccurrences) (inst : Inst .right c j a c') : Subtyping c a (.ex j) c'

section Adequacy

variable {c c' : Context} {i : Nat} {t : Ty} {side : Side}

theorem size_run {α : Type} {m m' : Check α} {r : Except TypeError α} (follows : Follows m m')
    (run : m.run c = (r, c')) : c'.supply.size = c.supply.size := by
  have grows := (follows.grows c).2
  rwa [run] at grows

/-- A successful run of instantiation is a derivation. -/
theorem Inst.of_run {n : Nat} (unlimited : c.supply.size = 0)
    (run : (instantiateOn side n i t).run c = (.ok (), c')) : Inst side c i t c' := by
  induction n generalizing side c i t c' with
  | zero => cases side <;> cases run
  | succ n ih =>
    rw [instantiateOn_succ, run_bind_ok] at run
    obtain ⟨solved, c₁, direct, rest⟩ := run
    obtain ⟨before, after, split, last, result⟩ := run_solveDirectly_ok.1 direct
    have present : .unsolved i ∈ c.entries := by simp [split]
    rcases result with ⟨rfl, mono, within, rfl⟩ | ⟨rfl, out, j, mid, back, rfl, rfl, lastj, rfl⟩ |
      ⟨rfl, other, noEx, rfl⟩
    · cases rest
      exact .solve split last mono within
    · cases rest
      exact .reach split last lastj out
    · rw [if_neg (by simp)] at rest
      cases t with
      | arrow a b =>
        rw [run_bind_of_ok (run_articulate unlimited split last), run_bind_ok] at rest
        obtain ⟨_, c₂, dom, rest⟩ := rest
        obtain ⟨_, _, app, cod⟩ := run_bind_ok.1 rest
        obtain ⟨rfl, rfl, ended⟩ := run_applied_ok.1 app
        have unlimited₂ := (size_run (follows_instantiateOn (Nat.le_refl _) _ _ _) dom).trans unlimited
        exact .arrow split last other (ih unlimited dom) ended (ih unlimited₂ cod)
      | all v b =>
        cases side with
        | left =>
          obtain ⟨c₂, body, rfl⟩ := run_then_modify_ok.1
            ((run_underRigid (instantiateOn .left n i) unlimited).symm.trans rest)
          exact .rigid present (ih unlimited body)
        | right =>
          obtain ⟨c₂, body, rfl⟩ := run_then_modify_ok.1
            ((run_underEx (instantiateOn .right n i) unlimited).symm.trans rest)
          exact .existential present (ih unlimited body)
      | ex j => exact absurd rfl (noEx j)
      | _ => cases rest

/-- A derivation is a successful run, from some depth on. -/
theorem Inst.exists_run (inst : Inst side c i t c') (unlimited : c.supply.size = 0) :
    ∃ d, ∀ n ≥ d, (instantiateOn side n i t).run c = (.ok (), c') := by
  induction inst with
  | solve split last mono within =>
    refine ⟨1, fun n deep => ?_⟩
    obtain ⟨k, rfl⟩ : ∃ k, n = k + 1 := ⟨n - 1, by omega⟩
    rw [instantiateOn_succ, run_bind_of_ok (run_solveDirectly_ok.2
      ⟨_, _, split, last, .inl ⟨rfl, mono, within, rfl⟩⟩)]
    rfl
  | reach split first last out =>
    refine ⟨1, fun n deep => ?_⟩
    obtain ⟨k, rfl⟩ : ∃ k, n = k + 1 := ⟨n - 1, by omega⟩
    rw [instantiateOn_succ, run_bind_of_ok (run_solveDirectly_ok.2
      ⟨_, _, split, first, .inr (.inl ⟨rfl, out, _, _, _, rfl, rfl, last, rfl⟩)⟩)]
    rfl
  | arrow split last other _ ended _ dom cod =>
    obtain ⟨d₁, dom⟩ := dom unlimited
    have unlimited₁ :=
      (size_run (follows_instantiateOn (Nat.le_refl _) _ _ _) (dom d₁ (Nat.le_refl _))).trans unlimited
    obtain ⟨d₂, cod⟩ := cod unlimited₁
    refine ⟨max d₁ d₂ + 1, fun n deep => ?_⟩
    obtain ⟨k, rfl⟩ : ∃ k, n = k + 1 := ⟨n - 1, by omega⟩
    rw [instantiateOn_succ, run_bind_of_ok (run_solveDirectly_ok.2
      ⟨_, _, split, last, .inr (.inr ⟨rfl, other, by simp, rfl⟩)⟩), if_neg (by simp),
      run_bind_of_ok (run_articulate unlimited split last), run_bind_of_ok (dom k (by omega)),
      run_bind_of_ok (run_applied_ok.2 ⟨rfl, rfl, ended⟩), cod k (by omega)]
  | rigid unsolved _ body =>
    obtain ⟨d, body⟩ := body unlimited
    refine ⟨d + 1, fun n deep => ?_⟩
    obtain ⟨k, rfl⟩ : ∃ k, n = k + 1 := ⟨n - 1, by omega⟩
    rw [instantiateOn_succ, run_bind_of_ok (run_solveDirectly_all unsolved), if_neg (by simp)]
    exact (run_underRigid (instantiateOn .left k _) unlimited).trans
      (run_then_modify_ok.2 ⟨_, body k (by omega), rfl⟩)
  | existential unsolved _ body =>
    obtain ⟨d, body⟩ := body unlimited
    refine ⟨d + 1, fun n deep => ?_⟩
    obtain ⟨k, rfl⟩ : ∃ k, n = k + 1 := ⟨n - 1, by omega⟩
    rw [instantiateOn_succ, run_bind_of_ok (run_solveDirectly_all unsolved), if_neg (by simp)]
    exact (run_underEx (instantiateOn .right k _) unlimited).trans
      (run_then_modify_ok.2 ⟨_, body k (by omega), rfl⟩)

theorem openEx?_eq_some {a b : Ty} :
    c.openEx? a b = some i ↔ a = .ex i ∧ .unsolved i ∈ c.entries ∧ i ∉ b.exOccurrences := by
  cases a with
  | ex j =>
    simp only [Context.openEx?, Option.ite_none_right_eq_some, Bool.and_eq_true, Option.some.injEq,
      Context.has_unsolved, Bool.not_eq_true', Bool.eq_false_iff, ne_eq, Ty.occurs_iff, Ty.ex.injEq]
    constructor
    · rintro ⟨h, rfl⟩
      exact ⟨rfl, h⟩
    · rintro ⟨rfl, h⟩
      exact ⟨h, rfl⟩
  | _ => simp [Context.openEx?]

/-- Where neither type is a quantifier and they are not alike, one of them is instantiated. -/
theorem Subtyping.of_instantiate {n : Nat} {a b : Ty} (unlimited : c.supply.size = 0)
    (otherA : ∀ w a', a ≠ .all w a') (otherB : ∀ w b', b ≠ .all w b')
    (run : (instantiate n a b).run c = (.ok (), c')) : Subtyping c a b c' := by
  rw [instantiate, run_bind_of_ok run_get] at run
  cases left : c.openEx? a b with
  | some i =>
    obtain ⟨rfl, unsolved, absent⟩ := openEx?_eq_some.1 left
    rw [left] at run
    have inst : (instantiateOn .left n i b).run c = (.ok (), c') := run
    exact .left otherB unsolved absent (.of_run unlimited inst)
  | none =>
    rw [left] at run
    cases right : c.openEx? b a with
    | some j =>
      obtain ⟨rfl, unsolved, absent⟩ := openEx?_eq_some.1 right
      rw [right] at run
      have inst : (instantiateOn .right n j a).run c = (.ok (), c') := run
      exact .right otherA left unsolved absent (.of_run unlimited inst)
    | none =>
      rw [right] at run
      cases run

/-- A successful run of subtyping is a derivation. -/
theorem Subtyping.of_run {n : Nat} {a b : Ty} (unlimited : c.supply.size = 0)
    (run : (subtype n a b).run c = (.ok (), c')) : Subtyping c a b c' := by
  induction n generalizing c a b c' with
  | zero => cases run
  | succ n ih =>
    unfold subtype at run
    split at run
    · cases run
      exact .unit
    · obtain ⟨_, c₁, dom, rest⟩ := run_bind_ok.1 run
      obtain ⟨_, _, app, rest⟩ := run_bind_ok.1 rest
      obtain ⟨rfl, rfl, left⟩ := run_applied_ok.1 app
      obtain ⟨_, _, app, cod⟩ := run_bind_ok.1 rest
      obtain ⟨rfl, rfl, right⟩ := run_applied_ok.1 app
      have unlimited₁ := (size_run (follows_subtype (Nat.le_refl _) _ _) dom).trans unlimited
      exact .arrow (ih unlimited dom) left right (ih unlimited₁ cod)
    · obtain ⟨c₂, body, rfl⟩ := run_then_modify_ok.1
        ((run_underRigid (subtype n _) unlimited).symm.trans run)
      exact .rigid (ih unlimited body)
    · rename_i other
      obtain ⟨c₂, body, rfl⟩ := run_then_modify_ok.1
        ((run_underEx (fun a => subtype n a _) unlimited).symm.trans run)
      exact .existential other (ih unlimited body)
    · split at run
      · cases run
      · rename_i same
        rw [run_bind_of_ok run_get] at run
        split at run
        · rename_i declared
          cases run
          exact .var (by simpa using same) (Context.has_rigid.1 declared)
        · cases run
    · split at run
      · exact .of_instantiate unlimited (by simp) (by simp) run
      · rename_i same
        rw [run_bind_of_ok run_get] at run
        split at run
        · rename_i declared
          cases run
          obtain rfl : _ = _ := by simpa using same
          exact .same (Context.exIndex?_isSome.1 declared)
        · cases run
    · rename_i otherA otherB _ _ _ _
      exact .of_instantiate unlimited otherA otherB run

theorem subtype_left {n : Nat} {b : Ty} (other : ∀ w b', b ≠ .all w b')
    (absent : i ∉ b.exOccurrences) : subtype (n + 1) (.ex i) b = instantiate n (.ex i) b := by
  cases b with
  | all w b' => exact absurd rfl (other w b')
  | ex j =>
    have ne : i ≠ j := by simpa [Ty.exOccurrences] using absent
    simp only [subtype, ne_eq, ne, not_false_eq_true, if_true]
  | _ => rfl

theorem subtype_right {n j : Nat} {a : Ty} (other : ∀ w a', a ≠ .all w a')
    (absent : j ∉ a.exOccurrences) : subtype (n + 1) a (.ex j) = instantiate n a (.ex j) := by
  cases a with
  | all w a' => exact absurd rfl (other w a')
  | ex i =>
    have ne : ¬ i = j := by simpa [Ty.exOccurrences, eq_comm] using absent
    simp only [subtype, ne_eq, ne, not_false_eq_true, if_true]
  | _ => rfl

/-- A derivation is a successful run, from some depth on. -/
theorem Subtyping.exists_run {a b : Ty} (derivation : Subtyping c a b c') (unlimited : c.supply.size = 0) :
    ∃ d, ∀ n ≥ d, (subtype n a b).run c = (.ok (), c') := by
  induction derivation with
  | unit =>
    refine ⟨1, fun n deep => ?_⟩
    obtain ⟨k, rfl⟩ : ∃ k, n = k + 1 := ⟨n - 1, by omega⟩
    rfl
  | var same declared =>
    refine ⟨1, fun n deep => ?_⟩
    obtain ⟨k, rfl⟩ : ∃ k, n = k + 1 := ⟨n - 1, by omega⟩
    simp only [subtype, same, ne_eq, not_true_eq_false, if_false]
    rw [run_bind_of_ok run_get, if_pos (Context.has_rigid.2 (same ▸ declared)), run_pure]
  | same declared =>
    refine ⟨1, fun n deep => ?_⟩
    obtain ⟨k, rfl⟩ : ∃ k, n = k + 1 := ⟨n - 1, by omega⟩
    simp only [subtype, ne_eq, not_true_eq_false, if_false]
    rw [run_bind_of_ok run_get, if_pos (Context.exIndex?_isSome.2 declared), run_pure]
  | arrow _ left right _ dom cod =>
    obtain ⟨d₁, dom⟩ := dom unlimited
    have unlimited₁ :=
      (size_run (follows_subtype (Nat.le_refl _) _ _) (dom d₁ (Nat.le_refl _))).trans unlimited
    obtain ⟨d₂, cod⟩ := cod unlimited₁
    refine ⟨max d₁ d₂ + 1, fun n deep => ?_⟩
    obtain ⟨k, rfl⟩ : ∃ k, n = k + 1 := ⟨n - 1, by omega⟩
    rw [subtype, run_bind_of_ok (dom k (by omega)), run_bind_of_ok (run_applied_ok.2 ⟨rfl, rfl, left⟩),
      run_bind_of_ok (run_applied_ok.2 ⟨rfl, rfl, right⟩), cod k (by omega)]
  | rigid _ body =>
    obtain ⟨d, body⟩ := body unlimited
    refine ⟨d + 1, fun n deep => ?_⟩
    obtain ⟨k, rfl⟩ : ∃ k, n = k + 1 := ⟨n - 1, by omega⟩
    rw [subtype]
    exact (run_underRigid (subtype k _) unlimited).trans
      (run_then_modify_ok.2 ⟨_, body k (by omega), rfl⟩)
  | existential other _ body =>
    obtain ⟨d, body⟩ := body unlimited
    refine ⟨d + 1, fun n deep => ?_⟩
    obtain ⟨k, rfl⟩ : ∃ k, n = k + 1 := ⟨n - 1, by omega⟩
    rw [subtype]
    · exact (run_underEx (fun a => subtype k a _) unlimited).trans
        (run_then_modify_ok.2 ⟨_, body k (by omega), rfl⟩)
    · exact other
  | left other unsolved absent inst =>
    obtain ⟨d, inst⟩ := inst.exists_run unlimited
    refine ⟨d + 1, fun n deep => ?_⟩
    obtain ⟨k, rfl⟩ : ∃ k, n = k + 1 := ⟨n - 1, by omega⟩
    rw [subtype_left other absent, instantiate, run_bind_of_ok run_get,
      openEx?_eq_some.2 ⟨rfl, unsolved, absent⟩]
    exact inst k (by omega)
  | right other notLeft unsolved absent inst =>
    obtain ⟨d, inst⟩ := inst.exists_run unlimited
    refine ⟨d + 1, fun n deep => ?_⟩
    obtain ⟨k, rfl⟩ : ∃ k, n = k + 1 := ⟨n - 1, by omega⟩
    rw [subtype_right other absent, instantiate, run_bind_of_ok run_get, notLeft,
      openEx?_eq_some.2 ⟨rfl, unsolved, absent⟩]
    exact inst k (by omega)

end Adequacy

end TermBot.Typing
