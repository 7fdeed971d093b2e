import TermBot.Proofs.Typing.Closing
import TermBot.Proofs.Typing.Legible

/-!
# Comparing types

`Ty.equiv` follows the quantifiers of the left type to those of the right one, and not back. So it finds two
types equal that are equal up to their quantifiers (`Ty.Alpha`), and also some that are not: a variable of the
right type may be bound further in than the one of the left type that it is compared with, or bound where the
other is free (`equiv_captured`). Asked both ways it decides equality up to quantifiers, and asked one way it does
so where no quantifier of the right type stands under another one of its number or has the number of a free
variable of the left type (`equiv_iff_alpha`).
-/

namespace TermBot.Scoped

open Typing

/-- What the variables with the numbers `x` and `y` refer to, when `env` pairs the quantifiers around them,
innermost first: the same pair of quantifiers, or no quantifier at all and then both are the same variable. -/
inductive Ty.Paired : List (Nat × Nat) → Nat → Nat → Prop where
  | here {env : List (Nat × Nat)} {x y : Nat} : Paired ((x, y) :: env) x y
  | further {env : List (Nat × Nat)} {x y v w : Nat} (left : x ≠ v) (right : y ≠ w)
      (rest : Paired env x y) : Paired ((v, w) :: env) x y
  | free {x : Nat} : Paired [] x x

/-- The types differ in the names and numbers of their quantifiers and of the variables bound by them only, when
`env` pairs the quantifiers around them. Free variables and existentials have the same numbers. -/
inductive Ty.Alpha : List (Nat × Nat) → Ty → Ty → Prop where
  | unit {env : List (Nat × Nat)} : Alpha env .unit .unit
  | var {env : List (Nat × Nat)} {v w : Ident} (same : Paired env v.id w.id) : Alpha env (.var v) (.var w)
  | ex {env : List (Nat × Nat)} (i : Nat) : Alpha env (.ex i) (.ex i)
  | arrow {env : List (Nat × Nat)} {a b c d : Ty} (dom : Alpha env a b) (cod : Alpha env c d) :
      Alpha env (.arrow a c) (.arrow b d)
  | all {env : List (Nat × Nat)} {v w : Ident} {a b : Ty} (body : Alpha ((v.id, w.id) :: env) a b) :
      Alpha env (.all v a) (.all w b)

/-- No quantifier has one of the numbers `taken` or the number of a quantifier around it. -/
def Ty.Unshadowed (taken : List Nat) : Ty → Prop
  | .unit | .var _ | .ex _ => True
  | .arrow a b => a.Unshadowed taken ∧ b.Unshadowed taken
  | .all v b => v.id ∉ taken ∧ b.Unshadowed (v.id :: taken)

namespace Ty

variable {env : List (Nat × Nat)} {x y : Nat} {a b c : Ty}

/-! ### Variables -/

/-- The number of the right quantifier that a variable of the left type is compared with. -/
def partner (env : List (Nat × Nat)) (x : Nat) : Nat := (env.lookup x).getD x

theorem partner_cons (v w x : Nat) (env : List (Nat × Nat)) :
    partner ((v, w) :: env) x = if x = v then w else partner env x := by
  rw [partner, List.lookup_cons]
  by_cases same : x = v
  · rw [if_pos same, beq_iff_eq.2 same]
    rfl
  · rw [if_neg same, beq_eq_false_iff_ne.2 same]
    rfl

theorem paired_nil : Paired [] x y ↔ x = y := by
  constructor
  · rintro ⟨⟩
    rfl
  · rintro rfl
    exact .free

theorem paired_cons {v w : Nat} :
    Paired ((v, w) :: env) x y ↔ x = v ∧ y = w ∨ x ≠ v ∧ y ≠ w ∧ Paired env x y := by
  constructor
  · rintro (_ | ⟨left, right, rest⟩)
    · exact .inl ⟨rfl, rfl⟩
    · exact .inr ⟨left, right, rest⟩
  · rintro (⟨rfl, rfl⟩ | ⟨left, right, rest⟩)
    · exact .here
    · exact .further left right rest

/-- Two variables are paired when each is the partner of the other. -/
theorem paired_iff : Paired env x y ↔ partner env x = y ∧ partner (env.map Prod.swap) y = x := by
  induction env with
  | nil => exact paired_nil.trans ⟨fun same => ⟨same, same.symm⟩, And.left⟩
  | cons pair env ih =>
    obtain ⟨v, w⟩ := pair
    rw [paired_cons, ih, List.map_cons, Prod.swap_prod_mk, partner_cons, partner_cons]
    by_cases left : x = v <;> by_cases right : y = w
    · simp [left, right]
    · simp [left, right, Ne.symm right]
    · simp [left, right, Ne.symm left]
    · simp [left, right]

theorem partner_mem_or_eq (env : List (Nat × Nat)) (x : Nat) :
    partner env x ∈ env.map Prod.snd ∨ x ∉ env.map Prod.fst ∧ partner env x = x := by
  induction env with
  | nil => exact .inr ⟨List.not_mem_nil, rfl⟩
  | cons pair env ih =>
    obtain ⟨v, w⟩ := pair
    rw [partner_cons]
    by_cases same : x = v
    · rw [if_pos same]
      exact .inl List.mem_cons_self
    · rw [if_neg same]
      exact ih.imp (List.mem_cons_of_mem _) fun h => ⟨List.not_mem_cons_of_ne_of_not_mem same h.1, h.2⟩

/-- When the right quantifiers have different numbers, and none the number of a variable that is free on the left,
every variable is paired with its partner. -/
theorem paired_partner (distinct : (env.map Prod.snd).Nodup)
    (apart : x ∉ env.map Prod.fst → x ∉ env.map Prod.snd) : Paired env x (partner env x) := by
  induction env with
  | nil => exact .free
  | cons pair env ih =>
    obtain ⟨v, w⟩ := pair
    rw [List.map_cons, List.nodup_cons] at distinct
    rw [partner_cons]
    by_cases same : x = v
    · rw [if_pos same, same]
      exact .here
    · rw [if_neg same]
      have clear (free : x ∉ env.map Prod.fst) : x ∉ w :: env.map Prod.snd :=
        apart (List.not_mem_cons_of_ne_of_not_mem same free)
      refine .further same ?_ (ih distinct.2 fun free => List.not_mem_of_not_mem_cons (clear free))
      rintro other
      -- the partner is a quantifier further out, or the free variable itself
      rcases partner_mem_or_eq env x with mem | ⟨free, eq⟩
      · exact distinct.1 (other ▸ mem)
      · exact List.ne_of_not_mem_cons (clear free) (eq ▸ other)

/-! ### Types -/

theorem equivIn_all {v w : Ident} :
    equivIn env (.all v a) (.all w b) = equivIn ((v.id, w.id) :: env) a b := rfl

theorem equivIn_var {v w : Ident} : equivIn env (.var v) (.var w) = true ↔ partner env v.id = w.id :=
  beq_iff_eq

theorem equivIn_arrow {d : Ty} :
    equivIn env (.arrow a c) (.arrow b d) = true ↔ equivIn env a b = true ∧ equivIn env c d = true :=
  Bool.and_eq_true_iff

/-- Types are equal up to their quantifiers when they are compared both ways. -/
theorem alpha_iff_equivIn :
    Alpha env a b ↔ equivIn env a b = true ∧ equivIn (env.map Prod.swap) b a = true := by
  induction a generalizing env b with
  | unit =>
    cases b with
    | unit => exact ⟨fun _ => ⟨rfl, rfl⟩, fun _ => .unit⟩
    | _ => exact ⟨nofun, nofun⟩
  | var v =>
    cases b with
    | var w =>
      rw [equivIn_var, equivIn_var, ← paired_iff]
      exact ⟨fun | .var same => same, .var⟩
    | _ => exact ⟨nofun, nofun⟩
  | ex i =>
    cases b with
    | ex j =>
      refine ⟨?_, fun h => beq_iff_eq.1 h.1 ▸ .ex i⟩
      rintro ⟨⟩
      exact ⟨beq_self_eq_true i, beq_self_eq_true i⟩
    | _ => exact ⟨nofun, nofun⟩
  | arrow a c iha ihc =>
    cases b with
    | arrow b d =>
      rw [equivIn_arrow, equivIn_arrow, and_and_and_comm, ← iha, ← ihc]
      exact ⟨fun | .arrow dom cod => ⟨dom, cod⟩, fun h => .arrow h.1 h.2⟩
    | _ => exact ⟨nofun, nofun⟩
  | all v a ih =>
    cases b with
    | all w b =>
      rw [equivIn_all, equivIn_all]
      exact Iff.trans ⟨fun | .all body => body, .all⟩ ih
    | _ => exact ⟨nofun, nofun⟩

/-- Paired variables are read as the same index, or as the same free variable. -/
theorem paired_iff_read {v w : Ident} (σ : Nat → Poly) : Paired env v.id w.id ↔
    read σ (env.map Prod.fst) (.var v) = read σ (env.map Prod.snd) (.var w) := by
  rw [read, read]
  generalize v.id = x
  generalize w.id = y
  induction env with
  | nil =>
    rw [paired_nil, List.map_nil, List.map_nil, if_neg List.not_mem_nil, if_neg List.not_mem_nil, Poly.fvar.injEq]
  | cons pair env ih =>
    obtain ⟨v, w⟩ := pair
    rw [List.map_cons, List.map_cons, paired_cons]
    by_cases left : x = v <;> by_cases right : y = w
    · simp [left, right]
    · subst left
      rw [if_pos List.mem_cons_self, List.idxOf_cons_self, List.idxOf_cons_ne _ (Ne.symm right)]
      simp only [List.mem_cons, right, false_or]
      split <;> simp [right]
    · subst right
      rw [if_pos List.mem_cons_self, List.idxOf_cons_self, List.idxOf_cons_ne _ (Ne.symm left)]
      simp only [List.mem_cons, left, false_or]
      split <;> simp [left]
    · rw [ih, List.idxOf_cons_ne _ (Ne.symm left), List.idxOf_cons_ne _ (Ne.symm right)]
      simp only [List.mem_cons, left, right, false_or]
      split <;> split <;> simp [left, right]

/-- Types that are equal up to their quantifiers are read as the same declarative type, whatever the existentials
stand for. -/
theorem Alpha.read_eq (alpha : Alpha env a b) (σ : Nat → Poly) :
    a.read σ (env.map Prod.fst) = b.read σ (env.map Prod.snd) := by
  induction alpha with
  | unit => rfl
  | var same => exact (paired_iff_read σ).1 same
  | ex i => rfl
  | arrow _ _ dom cod => rw [read, read, dom, cod]
  | all _ ih => exact congrArg Poly.all ih

/-- Types that are read as the same declarative type, whatever the existentials stand for, are equal up to their
quantifiers. -/
theorem alpha_of_read (same : ∀ σ, a.read σ (env.map Prod.fst) = b.read σ (env.map Prod.snd)) : Alpha env a b := by
  -- an existential is told from a variable by two readings
  have free := same Poly.fvar
  have unit := same fun _ => Poly.unit
  induction a generalizing env b with
  | unit =>
    cases b with
    | unit => exact .unit
    | _ => grind [read]
  | var v =>
    cases b with
    | var w => exact .var ((paired_iff_read .fvar).2 free)
    | _ => grind [read]
  | ex i =>
    cases b with
    | ex j => exact Poly.fvar.inj free ▸ .ex i
    | _ => grind [read]
  | arrow a c iha ihc =>
    cases b with
    | arrow b d =>
      simp only [read, Poly.arrow.injEq] at same free unit
      exact .arrow (iha (fun σ => (same σ).1) free.1 unit.1) (ihc (fun σ => (same σ).2) free.2 unit.2)
    | _ => grind [read]
  | all v a ih =>
    cases b with
    | all w b =>
      simp only [read, Poly.all.injEq] at same free unit
      exact .all (ih same free unit)
    | _ => grind [read]

/-- Being equal up to quantifiers is what `AlphaEquiv` says of how types are read. -/
theorem alpha_iff_alphaEquiv : Alpha [] a b ↔ a.AlphaEquiv b :=
  ⟨Alpha.read_eq, fun same => alpha_of_read same⟩

/-- Types that are found equal are equal up to their quantifiers where no variable of the right type can be
bound by another quantifier than the one it is compared with. -/
theorem alpha_of_equivIn (equal : equivIn env a b = true) (distinct : (env.map Prod.snd).Nodup)
    {taken : List Nat} (outer : env.map Prod.snd ⊆ taken)
    (free : ∀ x ∈ a.freeRigids, x ∉ env.map Prod.fst → x ∈ taken ∧ x ∉ env.map Prod.snd)
    (clear : b.Unshadowed taken) : Alpha env a b := by
  induction a generalizing env b taken with
  | unit =>
    cases b with
    | unit => exact .unit
    | _ => cases equal
  | var v =>
    cases b with
    | var w =>
      rw [equivIn_var] at equal
      exact .var (equal ▸ paired_partner distinct fun out => (free v.id (List.mem_singleton_self _) out).2)
    | _ => cases equal
  | ex i =>
    cases b with
    | ex j => exact beq_iff_eq.1 equal ▸ .ex i
    | _ => cases equal
  | arrow a c iha ihc =>
    cases b with
    | arrow b d =>
      obtain ⟨dom, cod⟩ := equivIn_arrow.1 equal
      exact .arrow (iha dom distinct outer (fun x mem => free x (List.mem_append_left _ mem)) clear.1)
        (ihc cod distinct outer (fun x mem => free x (List.mem_append_right _ mem)) clear.2)
    | _ => cases equal
  | all v a ih =>
    cases b with
    | all w b =>
      obtain ⟨isNew, below⟩ := clear
      refine .all (ih equal ?_ ?_ (fun x mem out => ?_) below)
      · exact List.nodup_cons.2 ⟨fun mem => isNew (outer mem), distinct⟩
      · exact List.cons_subset_cons _ outer
      · have other : x ≠ v.id := List.ne_of_not_mem_cons out
        obtain ⟨inTaken, notBound⟩ :=
          free x (List.mem_filter.2 ⟨mem, decide_eq_true other⟩) (List.not_mem_of_not_mem_cons out)
        have apart : x ≠ w.id := fun eq => isNew (eq ▸ inTaken)
        exact ⟨List.mem_cons_of_mem _ inTaken, List.not_mem_cons_of_ne_of_not_mem apart notBound⟩
    | _ => cases equal

/-- Two types are equal up to their quantifiers just if they are found equal from the left and from the right.
Where the quantifiers of the right type are apart from each other and from the free variables of the left type,
asking once decides, and therefore it does not matter from which side, nor by way of which type in between. -/
theorem equiv_iff_alpha (a b : Ty) :
    (Alpha [] a b ↔ a.equiv b = true ∧ b.equiv a = true) ∧
      (b.Unshadowed a.freeRigids →
        (a.equiv b = true ↔ Alpha [] a b) ∧
        (a.equiv b = true → b.equiv a = true) ∧
        ∀ c : Ty, c.Unshadowed b.freeRigids → a.equiv b = true → b.equiv c = true → a.equiv c = true) := by
  have ways (a b : Ty) : Alpha [] a b ↔ a.equiv b = true ∧ b.equiv a = true := alpha_iff_equivIn
  have once {a b : Ty} (clear : b.Unshadowed a.freeRigids) (equal : a.equiv b = true) : Alpha [] a b :=
    alpha_of_equivIn equal List.nodup_nil (List.nil_subset _) (fun _ mem _ => ⟨mem, List.not_mem_nil⟩) clear
  refine ⟨ways a b, fun clear => ⟨⟨once clear, fun alpha => ((ways a b).1 alpha).1⟩, fun equal => ?_, ?_⟩⟩
  · exact ((ways a b).1 (once clear equal)).2
  · intro c clear' first second
    have left : a.AlphaEquiv b := alpha_iff_alphaEquiv.1 (once clear first)
    have right : b.AlphaEquiv c := alpha_iff_alphaEquiv.1 (once clear' second)
    have alpha : Alpha [] a c := alpha_iff_alphaEquiv.2 fun σ => (left σ).trans (right σ)
    exact ((ways a c).1 alpha).1

/-- Three names for one quantifier, around a variable that is free. -/
theorem equiv_iff_alpha_fresh :
    let type (i : Nat) : Ty := .all ⟨"x", i⟩ (.arrow (.var ⟨"x", i⟩) (.var ⟨"y", 1⟩))
    (type 2).Unshadowed (type 0).freeRigids ∧ (type 3).Unshadowed (type 2).freeRigids ∧
      Alpha [] (type 0) (type 2) ∧ (type 0).equiv (type 3) = true := by
  intro type
  have clear : (type 2).Unshadowed (type 0).freeRigids := ⟨by decide, trivial, trivial⟩
  have clear' : (type 3).Unshadowed (type 2).freeRigids := ⟨by decide, trivial, trivial⟩
  obtain ⟨decides, -, trans⟩ := (equiv_iff_alpha (type 0) (type 2)).2 clear
  exact ⟨clear, clear', decides.1 (by decide), trans (type 3) clear' (by decide) (by decide)⟩

/-- A free variable and a quantifier of its number are found equal, but not from the other side. Two quantifiers
are taken for one that stands under another of its number, and so what is found equal step by step need not be
found equal. -/
theorem equiv_captured :
    let free : Ty := .all ⟨"x", 0⟩ (.var ⟨"y", 1⟩)
    let bound : Ty := .all ⟨"y", 1⟩ (.var ⟨"y", 1⟩)
    let under (v w x y : Nat) : Ty := .all ⟨"a", v⟩ (.all ⟨"b", w⟩ (.arrow (.var ⟨"c", x⟩) (.var ⟨"d", y⟩)))
    (free.equiv bound = true ∧ ¬ Alpha [] free bound ∧ bound.equiv free = false) ∧
      ((under 0 1 0 1).equiv (under 2 2 2 2) = true ∧ (under 2 2 2 2).equiv (under 3 4 4 4) = true ∧
        (under 0 1 0 1).equiv (under 3 4 4 4) = false) := by
  refine ⟨⟨by decide, fun alpha => ?_, by decide⟩, by decide⟩
  exact absurd (alpha_iff_equivIn.1 alpha).2 (by decide)

end Ty

end TermBot.Scoped
