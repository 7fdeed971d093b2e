import TermBot.Proofs.Typing.Frame

/-!
# Subtyping comes to an end

Neither recursion is structural: the types are applied again to a context that has just changed. The
number of quantifiers and the size of the type bound instantiation, since what it solves in the rest of
the type it solves with single existentials. For subtyping the number of unsolved existentials stands
between the two: between types without quantifiers, subtyping solves an existential or does nothing
(`Subtyping.openCount_lt`).
-/

namespace TermBot.Typing

open Scoped

/-- The run does not end for want of depth. -/
def Ends {α : Type} (m : Check α) (c : Context) : Prop := (m.run c).1 ≠ .error .tooDeep

/-- The run comes to an end at some depth. -/
def Halts {α : Type} (m : Nat → Check α) (c : Context) : Prop := ∃ d, Ends (m d) c

section Halts

variable {α β : Type} {m : Nat → Check α} {f : Nat → α → Check β} {c c₁ : Context} {a : α}

theorem Follows.run_eq {m m' : Check α} (follows : Follows m m') (unlimited : c.supply.size = 0)
    (ends : Ends m c) : m'.run c = m.run c := by
  have size : (m.run c).2.supply.size = 0 := (follows.grows c).2.trans unlimited
  have same : ∀ {c : Context}, c.supply.size = 0 → c.resize 0 = c := by
    intro c unlimited
    rw [Context.resize, ← unlimited]
  have agrees := follows.agrees c 0 ends (.inl size) (.inl rfl)
  rwa [same unlimited, same size] at agrees

theorem ends_pure : Ends (pure a : Check α) c := by
  rw [Ends, run_pure]
  simp

theorem ends_throw {err : TypeError} (ne : err ≠ .tooDeep) : Ends (throw err : Check α) c := by
  rw [Ends, run_throw]
  simpa using ne

theorem ends_modify {g : Context → Context} : Ends (modify g : Check PUnit) c := by
  rw [Ends, run_modify]
  simp

theorem Halts.of_succ (halts : Halts (fun n => m (n + 1)) c) : Halts m c := by
  obtain ⟨d, ends⟩ := halts
  exact ⟨d + 1, ends⟩

theorem Halts.of_ends {m : Check α} (ends : Ends m c) : Halts (fun _ => m) c := ⟨0, ends⟩

theorem Halts.congr {m' : Nat → Check α} (same : ∀ n, (m n).run c = (m' n).run c₁) (halts : Halts m' c₁) :
    Halts m c := by
  obtain ⟨d, ends⟩ := halts
  refine ⟨d, ?_⟩
  rwa [Ends, same]

/-- A first step that does not need depth. -/
theorem Halts.step {m : Check α} (ends : Ends m c)
    (rest : ∀ a c₁, m.run c = (.ok a, c₁) → Halts (fun n => f n a) c₁) :
    Halts (fun n => m >>= f n) c := by
  rcases run : m.run c with ⟨err | a, c₁⟩
  · refine ⟨0, ?_⟩
    rw [Ends, run] at ends
    rw [Ends, run_bind_of_error run]
    simpa using ends
  · exact .congr (fun n => run_bind_of_ok run) (rest a c₁ run)

/-- Two computations in sequence. -/
theorem Halts.seq (followsM : ∀ {n n'}, n ≤ n' → Follows (m n) (m n'))
    (followsF : ∀ {n n'} a, n ≤ n' → Follows (f n a) (f n' a)) (unlimited : c.supply.size = 0)
    (first : Halts m c) (rest : ∀ n a c₁, (m n).run c = (.ok a, c₁) → Halts (fun n => f n a) c₁) :
    Halts (fun n => m n >>= f n) c := by
  obtain ⟨d, ends⟩ := first
  rcases run : (m d).run c with ⟨err | a, c₁⟩
  · refine ⟨d, ?_⟩
    rw [Ends, run] at ends
    rw [Ends, run_bind_of_error run]
    simpa using ends
  · obtain ⟨d', ends'⟩ := rest d a c₁ run
    have unlimited₁ := (size_run (followsM (Nat.le_refl d)) run).trans unlimited
    have run' := (followsM (Nat.le_max_left d d')).run_eq unlimited ends
    refine ⟨max d d', ?_⟩
    rw [Ends, run_bind_of_ok (run'.trans run),
      (followsF a (Nat.le_max_right d d')).run_eq unlimited₁ ends']
    exact ends'

theorem Context.Valid.ended {t : Ty} (valid : c.Valid)
    (declared : ∀ i ∈ t.exOccurrences, i ∈ exIds c.entries) : c.Ended t := by
  rw [Context.Ended, List.any_eq_false]
  intro i mem solved
  obtain ⟨s, here⟩ := Context.has_solved.1 solved
  exact valid.not_solved (valid.settled_apply declared i mem) here

end Halts

/-- From some depth on the computation gives this result and leaves this context, other than for want
of depth: on a supply without a last number, and on its own supply if that has the numbers. -/
structure Concludes {α : Type} (m : Nat → Check α) (c : Context) (r : Except TypeError α)
    (c' : Context) : Prop where
  depth : r ≠ .error .tooDeep
  unlimited : ∃ d, ∀ n ≥ d, (m n).run (c.resize 0) = (r, c'.resize 0)
  limited : c'.allocated ≤ c.supply.size → ∃ d, ∀ n ≥ d, (m n).run c = (r, c')

/-- From some depth on the computation returns this value and leaves this context. -/
def Yields {α : Type} (m : Nat → Check α) (c : Context) (a : α) (c' : Context) : Prop :=
  ∃ d, ∀ n ≥ d, (m n).run c = (.ok a, c')

namespace Yields

variable {α β : Type} {m m' : Nat → Check α} {f : Nat → α → Check β} {c c₁ c' : Context} {a a' : α} {b : β}

theorem of_run {m : Check α} (run : m.run c = (.ok a, c')) : Yields (fun _ => m) c a c' := ⟨0, fun _ _ => run⟩

theorem of_succ (yields : Yields (fun n => m (n + 1)) c a c') : Yields m c a c' := by
  obtain ⟨d, runs⟩ := yields
  refine ⟨d + 1, fun n deep => ?_⟩
  obtain ⟨k, rfl⟩ : ∃ k, n = k + 1 := ⟨n - 1, by omega⟩
  exact runs k (by omega)

theorem congr (same : ∀ n, (m n).run c = (m' n).run c₁) (yields : Yields m' c₁ a c') : Yields m c a c' := by
  obtain ⟨d, runs⟩ := yields
  exact ⟨d, fun n deep => (same n).trans (runs n deep)⟩

theorem seq (first : Yields m c a c₁) (rest : Yields (fun n => f n a) c₁ b c') :
    Yields (fun n => m n >>= f n) c b c' := by
  obtain ⟨d, runs⟩ := first
  obtain ⟨d', runs'⟩ := rest
  refine ⟨max d d', fun n deep => ?_⟩
  rw [run_bind_of_ok (runs n (by omega)), runs' n (by omega)]

/-- A first step that does not need depth. -/
theorem step {m : Check α} (run : m.run c = (.ok a, c₁)) (rest : Yields (fun n => f n a) c₁ b c') :
    Yields (fun n => m >>= f n) c b c' := seq (of_run run) rest

theorem unique {c'' : Context} (yields : Yields m c a c') (yields' : Yields m c a' c'') :
    a = a' ∧ c' = c'' := by
  obtain ⟨d, runs⟩ := yields
  obtain ⟨d', runs'⟩ := yields'
  have same := (runs (max d d') (Nat.le_max_left _ _)).symm.trans (runs' _ (Nat.le_max_right _ _))
  cases same
  exact ⟨rfl, rfl⟩

end Yields

/-- The computation comes to an end. -/
def Terminates {α : Type} (m : Nat → Check α) (c : Context) : Prop := ∃ r c', Concludes m c r c'

/-- A computation that halts on a supply without a last number comes to an end. It may start with a
change of the context that depends on the supply as long as the numbers do not fit. -/
theorem Halts.terminates_from {α : Type} {m k : Nat → Check α} {c : Context} (start : Context → Context)
    (follows : ∀ {n n'}, n ≤ n' → Follows (k n) (k n')) (run : ∀ n c, (m n).run c = (k n).run (start c))
    (unlimited : (start (c.resize 0)).supply.size = 0)
    (same : ∀ n, ((k n).run (start (c.resize 0))).2.allocated ≤ c.supply.size →
      (start (c.resize 0)).resize c.supply.size = start c)
    (halts : Halts k (start (c.resize 0))) : Terminates m c := by
  obtain ⟨d, ends⟩ := halts
  rcases result : (k d).run (start (c.resize 0)) with ⟨r, c₁⟩
  rw [Ends, result] at ends
  have size : c₁.supply.size = 0 := (size_run (follows (Nat.le_refl d)) result).trans unlimited
  refine ⟨r, c₁.resize c.supply.size, ends, ⟨d, fun n deep => ?_⟩, fun fits => ⟨d, fun n deep => ?_⟩⟩
  · have resized : (c₁.resize c.supply.size).resize 0 = c₁ := by
      rw [Context.resize, Context.resize, ← size]
    have more := (follows deep).run_eq unlimited (by rwa [Ends, result])
    rw [run, more, result, resized]
  · have agrees := (follows deep).agrees (start (c.resize 0)) c.supply.size
    rw [same d (by rwa [result]), result] at agrees
    rw [run]
    exact agrees ends (.inl size) (.inr fits)

theorem Halts.terminates {α : Type} {m : Nat → Check α} {c : Context}
    (follows : ∀ {n n'}, n ≤ n' → Follows (m n) (m n')) (halts : Halts m (c.resize 0)) :
    Terminates m c :=
  Halts.terminates_from id follows (fun _ _ => rfl) rfl (fun _ _ => rfl) halts

section Scope

variable {c : Context} {v : Ident} {b : Ty} {k : Nat → Ty → Check Unit}

/-- A computation under a quantifier that is opened with a rigid variable. -/
theorem Halts.underRigid (follows : ∀ {n n'} t, n ≤ n' → Follows (k n t) (k n' t))
    (unlimited : c.supply.size = 0) (body : Halts (fun n => k n (c.rigidBody v b)) (c.withRigid v)) :
    Halts (fun n => do
      let (w, body) ← openRigid v b
      modify (·.push [.rigid w])
      k n body
      modify (·.dropFrom .rigid w.id)) c := by
  refine .congr (fun n => run_underRigid (k n) unlimited) ?_
  exact .seq (follows _) (fun _ _ => follows_dropFrom _) unlimited body fun _ _ _ _ =>
    .of_ends ends_modify

/-- A computation under a quantifier that is opened with an existential. -/
theorem Halts.underEx (follows : ∀ {n n'} t, n ≤ n' → Follows (k n t) (k n' t))
    (unlimited : c.supply.size = 0) (body : Halts (fun n => k n (c.exBody v b)) c.withEx) :
    Halts (fun n => do
      let mark ← fresh
      let (j, body) ← openEx v b
      modify (·.push [.marker mark, .unsolved j])
      k n body
      modify (·.dropFrom .marker mark)) c := by
  refine .congr (fun n => run_underEx (k n) unlimited) ?_
  exact .seq (follows _) (fun _ _ => follows_dropFrom _) unlimited body fun _ _ _ _ =>
    .of_ends ends_modify

theorem ends_solveDirectly {c : Context} {i : Nat} {t : Ty} : Ends (solveDirectly i t) c := by
  rw [Ends, solveDirectly, run_bind_of_ok run_get]
  cases c.index? .unsolved i with
  | none => exact ends_throw (by simp)
  | some n =>
    simp only
    split
    · rw [run_bind_of_ok run_set]
      exact ends_pure
    · split
      · split
        · rw [run_bind_of_ok run_set]
          exact ends_pure
        · exact ends_throw (by simp)
      · exact ends_pure

end Scope

/-- Instantiation comes to an end. -/
theorem instantiateOn_halts {side : Side} {c : Context} {i : Nat} {t : Ty} (valid : c.Valid)
    (unlimited : c.supply.size = 0) (settled : c.Settled t) (absent : i ∉ t.exOccurrences) :
    Halts (fun n => instantiateOn side n i t) c := by
  refine .of_succ ?_
  simp only [instantiateOn_succ]
  refine .step ends_solveDirectly fun solved c₁ direct => ?_
  obtain ⟨before, after, split, last, result⟩ := run_solveDirectly_ok.1 direct
  have present : .unsolved i ∈ c.entries := by simp [split]
  rcases result with ⟨rfl, -⟩ | ⟨rfl, -⟩ | ⟨rfl, other, noEx, same⟩ <;>
    simp only [if_true, Bool.false_eq_true, if_false]
  · exact .of_ends ends_pure
  · exact .of_ends ends_pure
  rw [same]
  -- the equation of the type is what the measure is compared with
  cases shape : t with
  | arrow a b =>
    rw [shape] at settled absent
    have both := Context.settled_arrow.1 settled
    have apart : i ∉ a.exOccurrences ∧ i ∉ b.exOccurrences := by simpa [Ty.exOccurrences] using absent
    have opened := Advances.withArrow valid split
    have domSettled := both.1.withArrow split apart.1
    have domAbsent : c.allocated + 1 ∉ a.exOccurrences := fun mem =>
      absurd (valid.unsolved_lt (both.1 _ mem)) (by omega)
    refine .congr (fun n => run_bind_of_ok (run_articulate unlimited split last)) ?_
    refine .seq (fun le => follows_instantiateOn le _ _ _)
      (fun _ le => .bind follows_applied fun _ => follows_instantiateOn le _ _ _) unlimited
      (instantiateOn_halts opened.valid unlimited domSettled domAbsent) fun n _ c₂ run => ?_
    have domUnlimited : (c.withArrow before i after).supply.size = 0 := unlimited
    have dom := Inst.of_run domUnlimited run
    have first := dom.advances opened.valid
    have framed := dom.framed opened.valid domSettled domAbsent
    obtain ⟨-, fresh, -⟩ := Framed.cod valid split settled absent framed
    have codSettled := both.2.withArrow split apart.2
    have declared : ∀ k ∈ b.exOccurrences, k ∈ exIds c₂.entries := fun k mem =>
      first.refines.exIds_subset (mem_exIds.2 (.inl (codSettled k mem)))
    have size : (c₂.apply b).size = b.size := framed.size_apply codSettled fun mem =>
      absurd (valid.unsolved_lt (both.2 _ mem)) (by omega)
    have unlimited₂ := (size_run (follows_instantiateOn (Nat.le_refl _) _ _ _) run).trans domUnlimited
    refine .congr (fun n => run_bind_of_ok
      (run_applied_ok.2 ⟨rfl, rfl, first.valid.ended declared⟩)) ?_
    exact instantiateOn_halts first.valid unlimited₂ (first.valid.settled_apply declared) fresh
  | all v b =>
    rw [shape] at settled absent
    have small := valid.unsolved_lt present
    cases side with
    | left =>
      refine .underRigid (fun t le => follows_instantiateOn le .left i t) unlimited ?_
      exact instantiateOn_halts valid.withRigid unlimited settled.rigidBody fun mem =>
        absent (Context.mem_exOccurrences_rigidBody mem)
    | right =>
      refine .underEx (fun t le => follows_instantiateOn le .right i t) unlimited ?_
      refine instantiateOn_halts valid.withEx unlimited settled.exBody fun mem => ?_
      rcases Context.mem_exOccurrences_exBody mem with mem | eq
      · exact absent mem
      · omega
  | ex j => exact absurd shape (noEx j)
  | _ => exact .of_ends (ends_throw (by simp))
termination_by (t.quantifiers, t.size)
decreasing_by
  all_goals simp only [shape, Ty.quantifiers, Ty.size, Prod.lex_def]
  · omega
  · rw [first.valid.quantifiers_apply, size]
    omega
  · rw [Context.rigidBody, Ty.quantifiers_substVar rfl]
    omega
  · rw [Context.exBody, Ty.quantifiers_substVar rfl]
    omega

/-- The number of unsolved existentials. -/
def openCount (es : List Entry) : Nat := es.countP (·.kind = .unsolved)

/-- Instantiation with a type without quantifiers solves one existential more than it adds. -/
theorem Inst.openCount_succ {side : Side} {c c' : Context} {i : Nat} {t : Ty} (inst : Inst side c i t c')
    (valid : c.Valid) (mono : t.isMono = true) :
    openCount c'.entries + 1 = openCount c.entries := by
  induction inst with
  | solve split _ _ _ =>
    rw [split]
    simp [openCount, Entry.kind, Nat.add_assoc]
  | reach split _ _ _ =>
    rw [split]
    simp [openCount, Entry.kind]
    omega
  | @arrow _ c c₁ c₂ i a b before after split _ _ domInst _ _ dom cod =>
    simp only [Ty.isMono, Bool.and_eq_true] at mono
    have opened := Advances.withArrow valid split
    have first := domInst.advances opened.valid
    have split' : openCount (c.withArrow before i after).entries = openCount c.entries + 1 := by
      rw [split]
      simp [openCount, Context.withArrow, Entry.kind]
      omega
    have one := dom opened.valid mono.1
    have two := cod first.valid (first.valid.isMono_apply.trans mono.2)
    omega
  | rigid | existential => simp [Ty.isMono] at mono

/-- Subtyping between types without quantifiers solves an existential or changes nothing. -/
theorem Subtyping.openCount_lt {c c' : Context} {a b : Ty} (derivation : Subtyping c a b c')
    (valid : c.Valid) (left : a.isMono = true) (right : b.isMono = true) :
    c' = c ∨ openCount c'.entries < openCount c.entries := by
  induction derivation with
  | unit | var | same => exact .inl rfl
  | arrow domSub _ _ _ dom cod =>
    simp only [Ty.isMono, Bool.and_eq_true] at left right
    have first := domSub.advances valid
    have one := dom valid right.1 left.1
    have two := cod first.valid (first.valid.isMono_apply.trans left.2)
      (first.valid.isMono_apply.trans right.2)
    rcases one with rfl | one
    · exact two
    · rcases two with rfl | two
      · exact .inr one
      · exact .inr (by omega)
  | rigid => simp [Ty.isMono] at right
  | existential => simp [Ty.isMono] at left
  | left _ _ _ inst =>
    have := inst.openCount_succ valid right
    exact .inr (by omega)
  | right _ _ _ _ inst =>
    have := inst.openCount_succ valid left
    exact .inr (by omega)

theorem instantiate_halts {c : Context} {a b : Ty} (valid : c.Valid) (unlimited : c.supply.size = 0)
    (left : c.Settled a) (right : c.Settled b) : Halts (fun n => instantiate n a b) c := by
  refine .congr (fun n => run_bind_of_ok run_get) ?_
  cases openA : c.openEx? a b with
  | some i =>
    obtain ⟨-, -, absent⟩ := openEx?_eq_some.1 openA
    have halts : Halts (fun n => instantiateOn .left n i b) c :=
      instantiateOn_halts valid unlimited right absent
    exact halts
  | none =>
    cases openB : c.openEx? b a with
    | some j =>
      obtain ⟨-, -, absent⟩ := openEx?_eq_some.1 openB
      have halts : Halts (fun n => instantiateOn .right n j a) c :=
        instantiateOn_halts valid unlimited left absent
      exact halts
    | none => exact .of_ends (ends_throw (by simp))

/-- Subtyping comes to an end. -/
theorem subtype_halts {c : Context} {a b : Ty} (valid : c.Valid) (unlimited : c.supply.size = 0)
    (left : c.Settled a) (right : c.Settled b) : Halts (fun n => subtype n a b) c := by
  refine .of_succ ?_
  -- the equations of the types are what the measure is compared with
  obtain ⟨a', b', shapeA, shapeB⟩ : ∃ a' b', a = a' ∧ b = b' := ⟨a, b, rfl, rfl⟩
  rw [shapeA, shapeB]
  unfold subtype
  split
  · exact .of_ends ends_pure
  · rename_i a₁ a₂ b₁ b₂
    rw [shapeA, Context.settled_arrow] at left
    rw [shapeB, Context.settled_arrow] at right
    refine .seq (fun le => follows_subtype le _ _)
      (fun _ le => .bind follows_applied fun _ => .bind follows_applied fun _ => follows_subtype le _ _)
      unlimited (subtype_halts valid unlimited right.1 left.1) fun n _ c₁ run => ?_
    have dom := Subtyping.of_run unlimited run
    have first := dom.advances valid
    have unlimited₁ := (size_run (follows_subtype (Nat.le_refl _) _ _) run).trans unlimited
    have declared {t : Ty} (settled : c.Settled t) : ∀ k ∈ t.exOccurrences, k ∈ exIds c₁.entries :=
      fun k mem => first.refines.exIds_subset (mem_exIds.2 (.inl (settled k mem)))
    have smaller : 0 < a₁.quantifiers + b₁.quantifiers ∨ openCount c₁.entries < openCount c.entries ∨
        (c₁ = c ∧ c₁.apply a₂ = a₂ ∧ c₁.apply b₂ = b₂) := by
      by_cases quantified : 0 < a₁.quantifiers + b₁.quantifiers
      · exact .inl quantified
      · rcases dom.openCount_lt valid (Ty.isMono_iff.2 (by omega)) (Ty.isMono_iff.2 (by omega))
          with rfl | less
        · exact .inr (.inr ⟨rfl, valid.apply_of_settled left.2, valid.apply_of_settled right.2⟩)
        · exact .inr (.inl less)
    refine .congr (fun n => run_bind_of_ok
      (run_applied_ok.2 ⟨rfl, rfl, first.valid.ended (declared left.2)⟩)) ?_
    refine .congr (fun n => run_bind_of_ok
      (run_applied_ok.2 ⟨rfl, rfl, first.valid.ended (declared right.2)⟩)) ?_
    exact subtype_halts first.valid unlimited₁ (first.valid.settled_apply (declared left.2))
      (first.valid.settled_apply (declared right.2))
  · rename_i v body
    rw [shapeB] at right
    have leftStays : (c.withRigid v).Settled a' := fun k mem =>
      List.mem_append_left _ (left k (shapeA ▸ mem))
    refine .underRigid (fun t le => follows_subtype le _ t) unlimited ?_
    exact subtype_halts valid.withRigid unlimited leftStays right.rigidBody
  · rename_i v body _
    rw [shapeA] at left
    have rightStays : c.withEx.Settled b' := fun k mem =>
      List.mem_append_left _ (right k (shapeB ▸ mem))
    refine .underEx (k := fun n t => subtype n t b') (fun t le => follows_subtype le t _) unlimited ?_
    exact subtype_halts valid.withEx unlimited left.exBody rightStays
  · split
    · exact .of_ends (ends_throw (by simp))
    · refine .congr (fun n => run_bind_of_ok run_get) ?_
      split
      · exact .of_ends ends_pure
      · exact .of_ends (ends_throw (by simp))
  · split
    · exact instantiate_halts valid unlimited (shapeA ▸ left) (shapeB ▸ right)
    · refine .congr (fun n => run_bind_of_ok run_get) ?_
      split
      · exact .of_ends ends_pure
      · exact .of_ends (ends_throw (by simp))
  · exact instantiate_halts valid unlimited (shapeA ▸ left) (shapeB ▸ right)
termination_by (a.quantifiers + b.quantifiers, openCount c.entries, a.size + b.size)
decreasing_by
  all_goals simp only [shapeA, shapeB, Ty.quantifiers, Ty.size, Prod.lex_def, true_and]
  · omega
  · rw [first.valid.quantifiers_apply, first.valid.quantifiers_apply]
    rcases smaller with quantified | less | ⟨rfl, left, right⟩
    · omega
    · omega
    · rw [left, right]
      omega
  · rw [Context.rigidBody, Ty.quantifiers_substVar rfl]
    omega
  · rw [Context.exBody, Ty.quantifiers_substVar rfl]
    omega

end TermBot.Typing
