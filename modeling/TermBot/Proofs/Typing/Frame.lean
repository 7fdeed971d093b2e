import TermBot.Proofs.Typing.Advance

/-!
# What instantiation leaves alone

Instantiation of `i` with a type `t` solves `i`, existentials of `t` and new ones. The other unsolved
existentials stay so, and an existential of `t` that is solved is solved with a single existential
(`Inst.framed`). So applying the context afterwards keeps the size of a type that does not mention
`i` (`Framed.size_apply`), and the codomain of a split existential does not come to stand in the type
it is instantiated with.
-/

namespace TermBot.Typing

open Scoped

/-- The effect of instantiating `i` with `t` on the other unsolved existentials. -/
structure Framed (c : Context) (i : Nat) (t : Ty) (c' : Context) : Prop where
  kept : ∀ k, .unsolved k ∈ c.entries → k ≠ i → k ∉ t.exOccurrences → .unsolved k ∈ c'.entries
  single : ∀ k, .unsolved k ∈ c.entries → k ≠ i → ∃ k', c'.apply (.ex k) = .ex k' ∧
    .unsolved k' ∈ c'.entries ∧
    (k' = k ∨ k' = i ∨ k' ∈ t.exOccurrences ∨ c.allocated ≤ k')

section Settled

variable {c : Context} {v : Ident} {b : Ty} {i : Nat} {before after : List Entry}

theorem Context.mem_exOccurrences_rigidBody (mem : i ∈ (c.rigidBody v b).exOccurrences) :
    i ∈ (Ty.all v b).exOccurrences := by
  rcases Ty.mem_exOccurrences_substVar mem with mem | mem
  · exact mem
  · simp [Ty.exOccurrences] at mem

theorem Context.mem_exOccurrences_exBody (mem : i ∈ (c.exBody v b).exOccurrences) :
    i ∈ (Ty.all v b).exOccurrences ∨ i = c.allocated + 1 := by
  rcases Ty.mem_exOccurrences_substVar mem with mem | mem
  · exact .inl mem
  · exact .inr (by simpa [Ty.exOccurrences] using mem)

theorem Context.Settled.rigidBody (settled : c.Settled (.all v b)) :
    (c.withRigid v).Settled (c.rigidBody v b) := fun i mem =>
  List.mem_append_left _ (settled i (Context.mem_exOccurrences_rigidBody mem))

theorem Context.Settled.exBody (settled : c.Settled (.all v b)) : c.withEx.Settled (c.exBody v b) := by
  intro i mem
  rcases Context.mem_exOccurrences_exBody mem with mem | rfl
  · exact List.mem_append_left _ (settled i mem)
  · simp [Context.withEx]

/-- Splitting an existential leaves the others as they are. -/
theorem unsolved_withArrow {k : Nat} (split : c.entries = before ++ .unsolved i :: after)
    (unsolved : .unsolved k ∈ c.entries) (ne : k ≠ i) :
    .unsolved k ∈ (c.withArrow before i after).entries := by
  simp only [Context.withArrow, split, List.mem_append, List.mem_cons, Entry.unsolved.injEq] at unsolved ⊢
  tauto

theorem Context.Settled.withArrow {t : Ty} (settled : c.Settled t)
    (split : c.entries = before ++ .unsolved i :: after) (absent : i ∉ t.exOccurrences) :
    (c.withArrow before i after).Settled t :=
  fun k mem => unsolved_withArrow split (settled k mem) fun eq => absent (eq ▸ mem)

theorem Context.Valid.unsolved_lt {k : Nat} (valid : c.Valid) (unsolved : .unsolved k ∈ c.entries) :
    k < c.allocated := valid.ex_lt (mem_exIds.2 (.inl unsolved))

end Settled

namespace Framed

variable {c c' : Context} {i : Nat} {t s : Ty}

theorem size_apply (framed : Framed c i t c') (settled : c.Settled s) (absent : i ∉ s.exOccurrences) :
    (c'.apply s).size = s.size := by
  rw [Context.apply_eq_mapEx]
  refine Ty.size_mapEx fun k mem => ?_
  obtain ⟨k', eq, -⟩ := framed.single k (settled k mem) fun eq => absent (eq ▸ mem)
  rw [eq]
  rfl

/-- The existentials of a type after instantiation. -/
theorem mem_apply (framed : Framed c i t c') (settled : c.Settled s) (absent : i ∉ s.exOccurrences)
    {k : Nat} (mem : k ∈ (c'.apply s).exOccurrences) :
    k ∈ s.exOccurrences ∨ k = i ∨ k ∈ t.exOccurrences ∨ c.allocated ≤ k := by
  obtain ⟨j, inside, here⟩ := Context.mem_exOccurrences_apply.1 mem
  obtain ⟨j', eq, -, image⟩ := framed.single j (settled j inside) fun eq => absent (eq ▸ inside)
  simp only [eq, Ty.exOccurrences, List.mem_singleton] at here
  obtain rfl := here
  rcases image with rfl | image
  · exact .inl inside
  · exact .inr image

/-- Leaving a scope in which the existential was instantiated: what is left are the entries `front`,
which declare all existentials of `c`. -/
theorem leave {d : Context} {front rest back : List Entry} (framed : Framed d i s c')
    (advances : Advances c { c' with entries := front }) (valid' : c'.Valid)
    (opened : d.entries = c.entries ++ rest) (later : c.allocated ≤ d.allocated)
    (split : c'.entries = front ++ back)
    (body : ∀ k ∈ s.exOccurrences, k ∈ t.exOccurrences ∨ c.allocated ≤ k) (valid : c.Valid) :
    Framed c i t { c' with entries := front } := by
  have outside : ∀ k, .unsolved k ∈ c'.entries → k ∈ exIds front → .unsolved k ∈ front := by
    intro k unsolved declared
    rcases mem_exIds.1 declared with mem | ⟨u, mem⟩
    · exact mem
    · exact absurd (by simp [split, mem]) (valid'.not_solved (t := u) unsolved)
  have declared : ∀ k, .unsolved k ∈ c.entries → k ∈ exIds front := fun k mem =>
    advances.refines.exIds_subset (mem_exIds.2 (.inl mem))
  constructor
  · intro k unsolved ne absent
    have small := valid.unsolved_lt unsolved
    refine outside k (framed.kept k (by simp [opened, unsolved]) ne fun mem => ?_) (declared k unsolved)
    rcases body k mem with mem | le
    · exact absent mem
    · omega
  · intro k unsolved ne
    obtain ⟨k', eq, open', image⟩ := framed.single k (by simp [opened, unsolved]) ne
    have within : InScope front [] (.ex k) := inScope_ex.2 (declared k unsolved)
    have stays : InScope front [] (c'.apply (.ex k)) := valid'.inScope_apply_left split within
    rw [eq, inScope_ex] at stays
    refine ⟨k', ?_, outside k' open' stays, ?_⟩
    · rw [← eq]
      exact (valid'.apply_left advances.valid split within).symm
    · rcases image with rfl | rfl | mem | le
      · exact .inl rfl
      · exact .inr (.inl rfl)
      · exact .inr (.inr ((body k' mem)))
      · exact .inr (.inr (.inr (Nat.le_trans later le)))

end Framed

/-- The codomain of an existential that was split stays unsolved while the domain is instantiated, and
does not occur in the type that is left for it. -/
theorem Framed.cod {c c₁ : Context} {i : Nat} {a b : Ty} {before after : List Entry} (valid : c.Valid)
    (split : c.entries = before ++ .unsolved i :: after) (settled : c.Settled (.arrow a b))
    (absent : i ∉ (Ty.arrow a b).exOccurrences)
    (framed : Framed (c.withArrow before i after) (c.allocated + 1) a c₁) :
    .unsolved c.allocated ∈ c₁.entries ∧ c.allocated ∉ (c₁.apply b).exOccurrences ∧
      ∀ k ∈ (c₁.apply b).exOccurrences, k ∈ (Ty.arrow a b).exOccurrences ∨ c.allocated < k := by
  simp only [Ty.exOccurrences, List.mem_append, not_or] at absent ⊢
  rw [Context.settled_arrow] at settled
  have smallA : ∀ k ∈ a.exOccurrences, k < c.allocated := fun k mem =>
    valid.unsolved_lt (settled.1 k mem)
  have smallB : ∀ k ∈ b.exOccurrences, k < c.allocated := fun k mem =>
    valid.unsolved_lt (settled.2 k mem)
  have range : ∀ k ∈ (c₁.apply b).exOccurrences,
      (k ∈ a.exOccurrences ∨ k ∈ b.exOccurrences) ∨ c.allocated < k := by
    intro k mem
    have large : (c.withArrow before i after).allocated = c.allocated + 2 := rfl
    rcases framed.mem_apply (settled.2.withArrow split absent.2)
      (fun mem => absurd (smallB _ mem) (by omega)) mem with mem | rfl | mem | le
    · exact .inl (.inr mem)
    · exact .inr (by omega)
    · exact .inl (.inl mem)
    · exact .inr (by omega)
  refine ⟨?_, fun mem => ?_, range⟩
  · refine framed.kept _ (by simp [Context.withArrow]) (by omega) fun mem => ?_
    exact absurd (smallA _ mem) (by omega)
  · rcases range _ mem with (mem | mem) | lt
    · exact absurd (smallA _ mem) (by omega)
    · exact absurd (smallB _ mem) (by omega)
    · omega

/-- Instantiation with an arrow, from the instantiation of its two parts. -/
theorem Framed.arrow {c c₁ c₂ : Context} {i : Nat} {a b : Ty} {before after : List Entry}
    (valid : c.Valid) (split : c.entries = before ++ .unsolved i :: after)
    (settled : c.Settled (.arrow a b)) (absent : i ∉ (Ty.arrow a b).exOccurrences)
    (first : Advances (c.withArrow before i after) c₁) (second : Advances c₁ c₂)
    (dom : Framed (c.withArrow before i after) (c.allocated + 1) a c₁)
    (cod : Framed c₁ c.allocated (c₁.apply b) c₂) : Framed c i (.arrow a b) c₂ := by
  obtain ⟨-, -, range⟩ := Framed.cod valid split settled absent dom
  have large : (c.withArrow before i after).allocated = c.allocated + 2 := rfl
  have later : c.allocated + 2 ≤ c₁.allocated := large ▸ first.grows
  have inArrow : ∀ j ∈ a.exOccurrences, j ∈ (Ty.arrow a b).exOccurrences :=
    fun _ mem => List.mem_append_left _ mem
  constructor
  · intro k mem ne out
    have small := valid.unsolved_lt mem
    refine cod.kept k (dom.kept k (unsolved_withArrow split mem ne) (by omega)
      fun inside => out (inArrow k inside)) (by omega) fun inside => ?_
    rcases range k inside with inside | lt
    · exact out inside
    · omega
  · intro k mem ne
    have small := valid.unsolved_lt mem
    obtain ⟨k₁, eq₁, open₁, image₁⟩ := dom.single k (unsolved_withArrow split mem ne) (by omega)
    have notCod : k₁ ≠ c.allocated := by
      rcases image₁ with rfl | rfl | inside | le
      · omega
      · omega
      · have := valid.unsolved_lt (settled k₁ (inArrow k₁ inside))
        omega
      · omega
    obtain ⟨k₂, eq₂, open₂, image₂⟩ := cod.single k₁ open₁ notCod
    refine ⟨k₂, ?_, open₂, ?_⟩
    · have declared : ∀ j ∈ (Ty.ex k).exOccurrences, j ∈ exIds c₁.entries := by
        simp only [Ty.exOccurrences, List.mem_singleton, forall_eq]
        exact first.refines.exIds_subset (mem_exIds.2 (.inl (unsolved_withArrow split mem ne)))
      rw [← first.valid.apply_apply second.valid (fun _ _ => second.ext.solved_mem) declared, eq₁, eq₂]
    · rcases image₂ with rfl | rfl | inside | le
      · rcases image₁ with rfl | rfl | inside | le
        · exact .inl rfl
        · exact .inr (.inr (.inr (by omega)))
        · exact .inr (.inr (.inl (inArrow _ inside)))
        · exact .inr (.inr (.inr (by omega)))
      · exact .inr (.inr (.inr (Nat.le_refl _)))
      · exact .inr (.inr ((range k₂ inside).imp id Nat.le_of_lt))
      · exact .inr (.inr (.inr (by omega)))

/-- Instantiation solves only the existential, those of the type and new ones, and it solves
existentials of the type with existentials. -/
theorem Inst.framed {side : Side} {c c' : Context} {i : Nat} {t : Ty} (inst : Inst side c i t c')
    (valid : c.Valid) (settled : c.Settled t) (absent : i ∉ t.exOccurrences) : Framed c i t c' := by
  induction inst with
  | @solve side c i t before after split last mono within =>
    have valid' := (.solve split last mono within : Inst side c i t _).advances valid |>.valid
    have stays : ∀ k, .unsolved k ∈ c.entries → k ≠ i →
        .unsolved k ∈ before ++ .solved i t :: after := by
      intro k mem ne
      simp only [split, List.mem_append, List.mem_cons, Entry.unsolved.injEq, reduceCtorEq] at mem ⊢
      tauto
    exact ⟨fun k mem ne _ => stays k mem ne, fun k mem ne =>
      ⟨k, valid'.apply_unsolved (stays k mem ne), stays k mem ne, .inl rfl⟩⟩
  | @reach side c i j before mid after split first last out =>
    have valid' := (.reach split first last out : Inst side c i (.ex j) _).advances valid |>.valid
    have stays : ∀ k, .unsolved k ∈ c.entries → k ≠ j →
        .unsolved k ∈ before ++ .unsolved i :: mid ++ .solved j (.ex i) :: after := by
      intro k mem ne
      simp only [split, List.mem_append, List.mem_cons, Entry.unsolved.injEq, reduceCtorEq] at mem ⊢
      tauto
    have here : .unsolved i ∈ c.entries := by simp [split]
    have ne : i ≠ j := by simpa [Ty.exOccurrences] using absent
    refine ⟨fun k mem _ other => stays k mem (by simpa [Ty.exOccurrences] using other), fun k mem _ => ?_⟩
    by_cases eq : k = j
    · subst eq
      refine ⟨i, ?_, stays i here ne, .inr (.inl rfl)⟩
      rw [valid'.apply_solved (t := .ex i) (by simp), valid'.apply_unsolved (stays i here ne)]
    · exact ⟨k, valid'.apply_unsolved (stays k mem eq), stays k mem eq, .inl rfl⟩
  | @arrow side c c₁ c₂ i a b before after split last other domInst ended codInst dom cod =>
    have both := Context.settled_arrow.1 settled
    have apart : i ∉ a.exOccurrences ∧ i ∉ b.exOccurrences := by
      simpa [Ty.exOccurrences] using absent
    have opened := Advances.withArrow valid split
    have first := domInst.advances opened.valid
    have framed := dom opened.valid (both.1.withArrow split apart.1)
      fun mem => absurd (valid.unsolved_lt (both.1 _ mem)) (by omega)
    have declared : ∀ k ∈ b.exOccurrences, k ∈ exIds c₁.entries := fun k mem =>
      first.refines.exIds_subset (mem_exIds.2 (.inl ((both.2.withArrow split apart.2) k mem)))
    exact .arrow valid split settled absent first (codInst.advances first.valid) framed
      (cod first.valid (first.valid.settled_apply declared)
        (Framed.cod valid split settled absent framed).2.1)
  | @rigid c c' i v b unsolved inst body =>
    have advances := inst.advances valid.withRigid
    obtain ⟨front, back, split, -, dropped, left⟩ := advances.leaveRigid
    have framed := body valid.withRigid settled.rigidBody fun mem =>
      absent (Context.mem_exOccurrences_rigidBody mem)
    rw [dropped]
    exact framed.leave left advances.valid rfl
      (by simp [Context.withRigid, Context.allocated, Supply.skip]) split
      (fun k mem => .inl (Context.mem_exOccurrences_rigidBody mem)) valid
  | @existential c c' i v b unsolved inst body =>
    have advances := inst.advances valid.withEx
    obtain ⟨front, back, split, -, dropped, left⟩ := advances.leaveEx
    have inBody : ∀ k ∈ (c.exBody v b).exOccurrences, k ∈ b.exOccurrences ∨ c.allocated ≤ k :=
      fun k mem => (Context.mem_exOccurrences_exBody mem).imp_right (by omega)
    rw [dropped]
    refine (body valid.withEx settled.exBody fun mem => ?_).leave left advances.valid rfl
      (by simp [Context.withEx, Context.allocated, Supply.skip]) split inBody valid
    have small := valid.unsolved_lt unsolved
    rcases inBody i mem with mem | le
    · exact absent mem
    · omega

end TermBot.Typing
