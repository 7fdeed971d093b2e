import TermBot.Proofs.Typing.Behind
import TermBot.Proofs.Typing.Closing
import TermBot.Proofs.Typing.ShiftedRuns

/-!
# Inference in a shared context

Expressions may be inferred one after the other in one context. The numbers of each of them start again at
0, and inferences that fail leave entries behind. Still each one does what it does alone in a new context,
but for the numbers that are given out (`run_infer_shared`): the run that starts behind older entries is the
run that starts without them (`ignores_inferAt`), whose supply starts elsewhere (`shifts_inferAt`).
-/

namespace TermBot.Typing

open Scoped

section Infer

variable {c : Context} {e : Expr} {depth : Nat}

/-- Where the supply starts does not matter to inference. -/
theorem shifts_fresh_inferAt (depth : Nat) {s : Shift} (lt : e.maxId < s.floor) :
    Shifts s (Ty.renumber s.num) (fresh >>= inferAt depth e) (fresh >>= inferAt depth e) := by
  refine .bind .fresh fun mark => ?_
  have shifts := @shifts_inferAt s depth e mark
  rwa [Expr.renumber_of_lt lt] at shifts

/-- How many numbers there are does not matter, as long as there are enough. -/
theorem run_sized {es : List Entry} {used size : Nat} (size' : Nat) (lt : e.maxId < used)
    (fits : ((fresh >>= inferAt depth e).run ⟨es, ⟨used, size⟩⟩).2.Fits)
    (fits' : size' = 0 ∨ ((fresh >>= inferAt depth e).run ⟨es, ⟨used, size⟩⟩).2.allocated ≤ size') :
    (fresh >>= inferAt depth e).run ⟨es, ⟨used, size'⟩⟩ =
      (((fresh >>= inferAt depth e).run ⟨es, ⟨used, size⟩⟩).1,
        ((fresh >>= inferAt depth e).run ⟨es, ⟨used, size⟩⟩).2.resize size') := by
  have agrees := (@shifts_fresh_inferAt e depth ⟨used, 0⟩ lt).agrees ⟨es, ⟨used, size⟩⟩ size' (Nat.le_refl _)
    fits (by rwa [Context.shift_zero])
  rwa [Context.shift_zero, Context.shift_zero, shiftResult_zero] at agrees

theorem allocated_le_reserveAbove (c : Context) (i : Nat) : c.allocated ≤ (c.reserveAbove i).allocated := by
  rw [Context.reserveAbove, Context.reserve]
  split
  · exact Nat.le_add_right _ _
  · exact Nat.le_refl _

theorem follows_fresh_inferAt (depth : Nat) (e : Expr) :
    Follows (fresh >>= inferAt depth e) (fresh >>= inferAt depth e) :=
  .bind .fresh fun _ => follows_inferAt (Nat.le_refl depth)

theorem infer_grows (c : Context) : c.allocated ≤ ((infer depth e).run c).2.allocated := by
  rw [run_infer]
  exact Nat.le_trans (allocated_le_reserveAbove c _) ((follows_fresh_inferAt depth e).grows _).1

/-- Behind older entries, and with later numbers, inference does what it does on the empty context with the
numbers right after those of the expression. -/
theorem run_behind {es : List Entry} {lo : Nat} (older : Older lo es) (linked : e.Linked [])
    (lt : e.maxId < lo) :
    let s : Shift := ⟨e.maxId + 1, lo - (e.maxId + 1)⟩
    let alone := (fresh >>= inferAt depth e).run ⟨[], ⟨e.maxId + 1, 0⟩⟩
    (fresh >>= inferAt depth e).run ⟨es, ⟨lo, 0⟩⟩ =
        (shiftResult s (Ty.renumber s.num) alone.1, (alone.2.shift s 0).behind es) ∧
      (alone.2.shift s 0).Since lo := by
  intro s alone
  have stands : (⟨[], ⟨lo, 0⟩⟩ : Context).Stands lo :=
    ⟨⟨trivial, by simp, by simp⟩, rfl, Nat.le_refl _, by simp [Context.Since]⟩
  obtain ⟨behind, since⟩ := ignores_inferAt older stands depth linked
  have start : (⟨[], ⟨e.maxId + 1, 0⟩⟩ : Context).shift s 0 = ⟨[], ⟨lo, 0⟩⟩ := by
    simp only [Context.shift, Context.allocated, List.map_nil, s, Nat.add_sub_cancel' lt]
  have shifted := (shifts_fresh_inferAt depth (Nat.lt_succ_self _)).agrees ⟨[], ⟨e.maxId + 1, 0⟩⟩ 0
    (Nat.le_refl (s.floor)) (.inl ((follows_fresh_inferAt depth e).grows _).2) (.inl rfl)
  rw [start] at shifted
  rw [shifted] at behind since
  rw [Context.behind, List.append_nil] at behind
  exact ⟨behind, since⟩

theorem Older.behind {es : List Entry} {lo : Nat} (older : Older lo es) (since : c.Since lo)
    (le : lo ≤ c.allocated) : Older c.allocated (c.behind es).entries := fun e mem other =>
  (List.mem_append.1 mem).elim (fun mem => Nat.lt_of_lt_of_le (older e mem other) le)
    fun mem => (since e mem other).2

/-- Inference behind older entries gives what inference in a new context gives, with other numbers, and adds
to the older entries what it leaves there. -/
theorem run_infer_shared (size : c.supply.size = 2 ^ 32) (older : Older c.allocated c.entries)
    (linked : e.Linked []) (reserved : e.maxId + 1 < 2 ^ 32)
    (few : ((infer depth e).run c).2.allocated < 2 ^ 32) : ∃ s : Shift,
    ((infer depth e).run c).1 = shiftResult s (Ty.renumber s.num) ((infer depth e).run {}).1 ∧
    ((infer depth e).run c).2.entries =
      c.entries ++ ((infer depth e).run {}).2.entries.map (Entry.renumber s.num) ∧
    ((infer depth e).run c).2.supply.size = 2 ^ 32 ∧
    Older ((infer depth e).run c).2.allocated ((infer depth e).run c).2.entries := by
  have room : c.allocated < 2 ^ 32 := Nat.lt_of_le_of_lt (infer_grows c) few
  have start : c.reserveAbove e.maxId = ⟨c.entries, ⟨max c.allocated (e.maxId + 1), 2 ^ 32⟩⟩ := by
    rw [reserveAbove_of_lt (.inr (by rw [size]; omega)), ← size]
  rw [run_infer, start] at few
  rw [run_infer, start, run_infer, reserveAbove_empty reserved]
  obtain ⟨lo, top⟩ : ∃ lo, lo = max c.allocated (e.maxId + 1) := ⟨_, rfl⟩
  rw [← top] at few ⊢
  have grows := (follows_fresh_inferAt depth e).grows ⟨c.entries, ⟨lo, 2 ^ 32⟩⟩
  -- from the shared context to one whose numbers do not run out, from there to the empty one, and back to
  -- the numbers that there are, of which the run without older entries needs no more
  have wider := @run_sized e depth c.entries lo (2 ^ 32) 0 (by omega)
  have old : Older lo c.entries := fun e mem other => Nat.lt_of_lt_of_le (older e mem other) (by omega)
  obtain ⟨behind, since⟩ := @run_behind e depth _ _ old linked (by omega)
  have alone := @run_sized e depth [] (e.maxId + 1) 0 (2 ^ 32) (Nat.lt_succ_self _)
    (.inl ((follows_fresh_inferAt depth e).grows _).2)
  rcases here : (fresh >>= inferAt depth e).run ⟨c.entries, ⟨lo, 2 ^ 32⟩⟩ with ⟨r, c₁⟩
  rcases there : (fresh >>= inferAt depth e).run ⟨[], ⟨e.maxId + 1, 0⟩⟩ with ⟨r', c₂⟩
  rw [here] at few grows wider
  rw [there] at behind since alone
  obtain ⟨le, size'⟩ := grows
  obtain ⟨result, after⟩ := Prod.mk.inj ((wider (.inr (by rw [size']; exact Nat.le_of_lt few))
    (.inl rfl)).symm.trans behind)
  have entries := (Context.mk.inj after).1
  have used : c₁.allocated = (c₂.shift ⟨e.maxId + 1, lo - (e.maxId + 1)⟩ 0).allocated :=
    (congrArg Context.allocated after :)
  have enough : c₂.allocated ≤ 2 ^ 32 :=
    Nat.le_trans (Nat.le_add_right _ _) (Nat.le_trans (Nat.le_of_eq used.symm) (Nat.le_of_lt few))
  rw [alone (.inr enough)]
  refine ⟨⟨e.maxId + 1, lo - (e.maxId + 1)⟩, result, entries, size', ?_⟩
  have later := old.behind since (Nat.le_trans le (Nat.le_of_eq used))
  rwa [← used, Context.behind, ← entries] at later

/-- The context after the expressions were inferred in it one after the other, with any result. -/
def shared (depth : Nat) (es : List Expr) : Context :=
  es.foldl (fun c e => ((infer depth e).run c).2) {}

theorem shared_concat (es : List Expr) (e : Expr) :
    shared depth (es ++ [e]) = ((infer depth e).run (shared depth es)).2 := by
  rw [shared, List.foldl_append, List.foldl_cons, List.foldl_nil, ← shared]

theorem shared_grows (es fs : List Expr) :
    (shared depth es).allocated ≤ (shared depth (es ++ fs)).allocated := by
  induction fs using List.reverseRecOn with
  | nil => rw [List.append_nil]
  | append_singleton fs e ih =>
    rw [← List.append_assoc, shared_concat]
    exact Nat.le_trans ih (infer_grows _)

/-- What the inferences leave is older than what the next one adds. -/
theorem older_shared {es : List Expr} (linked : ∀ e ∈ es, e.Linked [] ∧ e.maxId + 1 < 2 ^ 32)
    (few : (shared depth es).allocated < 2 ^ 32) :
    (shared depth es).supply.size = 2 ^ 32 ∧ Older (shared depth es).allocated (shared depth es).entries := by
  induction es using List.reverseRecOn with
  | nil => exact ⟨rfl, by simp [shared, Older]⟩
  | append_singleton es e ih =>
    rw [shared_concat] at few ⊢
    obtain ⟨size, older⟩ := ih (fun e mem => linked e (List.mem_append_left _ mem))
      (Nat.lt_of_le_of_lt (infer_grows _) few)
    obtain ⟨closed, reserved⟩ := linked e (by simp)
    obtain ⟨-, -, -, size, older⟩ := run_infer_shared size older closed reserved few
    exact ⟨size, older⟩

/-- Scoping links every variable and numbers no more binders than there are. -/
theorem linked_of_resolve {t : Surface.Term} (resolved : resolve t = some e) (few : t.binders < 2 ^ 32) :
    e.Linked [] ∧ e.maxId + 1 < 2 ^ 32 := by
  obtain ⟨⟨_, s⟩, run, rfl⟩ := Option.map_eq_some_iff.1 resolved
  have numbers := numbers_resolveTerm run
  have used : s.used = t.binders := numbers.used.trans (Nat.zero_add _)
  have fits : s.Fits := .inr (by rw [numbers.leads.2, used]; exact Nat.le_of_lt few)
  have lt := maxId_lt_of_resolveTerm run fits (by simp [Scope.Below])
  exact ⟨(written_resolveTerm run).2, Nat.lt_of_le_of_lt lt (by omega)⟩

/-- An inference in a shared context succeeds just if it does in a new one, whatever was inferred in the
context before and however it ended, as long as neither scoping nor inference runs out of numbers. The two
types are equal but for their numbers and print alike, and the entries that were there stay at the front. -/
theorem infer_shared {before after : List Expr}
    (resolved : ∀ e' ∈ before ++ e :: after, ∃ t, resolve t = some e' ∧ t.binders < 2 ^ 32)
    (few : (shared depth (before ++ e :: after)).allocated < 2 ^ 32) :
    ((infer depth e).run (shared depth before)).1.isOk = ((infer depth e).run {}).1.isOk ∧
    (∀ ty ty', ((infer depth e).run (shared depth before)).1 = .ok ty → ((infer depth e).run {}).1 = .ok ty' →
      (∃ f : Nat → Nat, Function.Injective f ∧ ty = ty'.renumber f) ∧ ty.names = ty'.names ∧
        ty.doc = ty'.doc) ∧
    (shared depth before).entries <+: ((infer depth e).run (shared depth before)).2.entries := by
  have linked : ∀ e' ∈ before ++ e :: after, e'.Linked [] ∧ e'.maxId + 1 < 2 ^ 32 := by
    intro e' mem
    obtain ⟨t, scope, enough⟩ := resolved e' mem
    exact linked_of_resolve scope enough
  have upTo : ((infer depth e).run (shared depth before)).2.allocated < 2 ^ 32 := by
    refine Nat.lt_of_le_of_lt ?_ few
    rw [← shared_concat, List.append_cons before e after]
    exact shared_grows _ _
  obtain ⟨size, older⟩ := older_shared (fun e' mem => linked e' (List.mem_append_left _ mem))
    (Nat.lt_of_le_of_lt (infer_grows _) upTo)
  obtain ⟨closed, reserved⟩ := linked e (by simp)
  obtain ⟨s, result, entries, -⟩ := run_infer_shared size older closed reserved upTo
  refine ⟨?_, fun ty ty' here there => ?_, ⟨_, entries.symm⟩⟩
  · rw [result]
    cases ((infer depth e).run {}).1 <;> rfl
  · rw [here, there, shiftResult, Except.ok.injEq] at result
    subst result
    obtain ⟨-, -, -, -, -, within, -⟩ := run_infer_ok (Prod.ext there rfl)
    have noEx : ty'.exOccurrences = [] := by
      rw [List.eq_nil_iff_forall_not_mem]
      intro i mem
      simpa using within.mem_exIds mem
    exact ⟨⟨s.num, s.num_injective, rfl⟩, Ty.names_renumber, Ty.docIn_renumber noEx⟩

/-- A function that is applied to itself is not typed and leaves entries behind. The identity, which is
inferred after it in the same context and whose parameter has the number of that function's, gets its type,
with other numbers. -/
theorem infer_shared_after_failure :
    let x : Ident := ⟨"x", 0⟩
    let bad : Expr := .lam x (.app (.var x) (.var x))
    let identity (i : Nat) : Ty := .all ⟨"a", i⟩ (.arrow (.var ⟨"a", i⟩) (.var ⟨"a", i⟩))
    ((infer 9 bad).run {}).1.isOk = false ∧ (shared 9 [bad]).entries.length = 6 ∧
      ((infer 9 (.lam x (.var x))).run (shared 9 [bad])).1 = .ok (identity 11) ∧
      ((infer 9 (.lam x (.var x))).run {}).1 = .ok (identity 5) ∧
      (identity 11).doc = (identity 5).doc ∧
      ∃ f, Function.Injective f ∧ identity 11 = (identity 5).renumber f := by
  intro x bad identity
  have fails : ((infer 9 bad).run {}).1.isOk = false := by decide +kernel
  have left : (shared 9 [bad]).entries.length = 6 := by decide +kernel
  have here : ((infer 9 (.lam x (.var x))).run (shared 9 [bad])).1 = .ok (identity 11) := by decide +kernel
  have alone : ((infer 9 (.lam x (.var x))).run {}).1 = .ok (identity 5) := by decide +kernel
  have resolved : ∀ e' ∈ [bad] ++ (.lam x (.var x)) :: [], ∃ t, resolve t = some e' ∧ t.binders < 2 ^ 32 := by
    intro e' mem
    simp only [List.cons_append, List.nil_append, List.mem_cons, List.not_mem_nil, or_false] at mem
    rcases mem with rfl | rfl
    · exact ⟨.lam "x" (.app (.var "x" default) (.var "x" default)) default, rfl, by decide⟩
    · exact ⟨.lam "x" (.var "x" default) default, rfl, by decide⟩
  obtain ⟨-, types, -⟩ := @infer_shared _ 9 [bad] [] resolved (by decide +kernel)
  obtain ⟨renumbered, -, printed⟩ := types _ _ here alone
  exact ⟨fails, left, here, alone, printed, renumbered⟩

end Infer

end TermBot.Typing
