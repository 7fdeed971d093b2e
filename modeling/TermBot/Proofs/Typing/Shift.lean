import Mathlib.Data.List.InsertIdx
import TermBot.Proofs.Typing.Inference
import TermBot.Scoped.Printer

/-!
# Types and contexts with other numbers

A shift keeps the numbers below a floor and moves up those from the floor on. No two numbers become one, so
everything that is done with the numbers of types and of contexts gives the same after a shift. Names and
texts stay as they are.
-/

namespace TermBot.Scoped

/-- A renumbering: what is below the floor stays, and the rest moves up. -/
structure Shift where
  floor : Nat
  offset : Nat

namespace Shift

variable {s : Shift} {i j : Nat}

/-- The new number. -/
def num (s : Shift) (i : Nat) : Nat := if i < s.floor then i else i + s.offset

theorem num_of_lt (lt : i < s.floor) : s.num i = i := if_pos lt

theorem num_of_le (le : s.floor ≤ i) : s.num i = i + s.offset := if_neg (Nat.not_lt.2 le)

theorem num_injective (s : Shift) : Function.Injective s.num := by
  intro i j same
  simp only [num] at same
  split at same <;> split at same <;> omega

@[simp] theorem num_inj : s.num i = s.num j ↔ i = j := s.num_injective.eq_iff

/-- The shift that moves nothing. -/
theorem num_zero : (⟨j, 0⟩ : Shift).num = fun i => i := by
  funext i
  rw [num, Nat.add_zero, ite_self]

end Shift

/-- The binder with another number. -/
def Ident.renumber (f : Nat → Nat) (v : Ident) : Ident := ⟨v.name, f v.id⟩

/-- The type with other numbers, of variables, quantifiers and existentials alike. -/
def Ty.renumber (f : Nat → Nat) : Ty → Ty
  | .unit => .unit
  | .var v => .var (v.renumber f)
  | .ex i => .ex (f i)
  | .arrow a b => .arrow (a.renumber f) (b.renumber f)
  | .all v b => .all (v.renumber f) (b.renumber f)

/-- The expression with other numbers. -/
def Expr.renumber (f : Nat → Nat) : Expr → Expr
  | .var x => .var (x.renumber f)
  | .unit => .unit
  | .lam x b => .lam (x.renumber f) (b.renumber f)
  | .app g a => .app (g.renumber f) (a.renumber f)
  | .ann e t => .ann (e.renumber f) (t.renumber f)
  | .letIn x t v b => .letIn (x.renumber f) (t.map (Ty.renumber f)) (v.renumber f) (b.renumber f)

namespace Ty

variable {f : Nat → Nat} {s : Shift} {t : Ty} {i : Nat}

theorem renumber_id : Ty.renumber (fun i => i) = fun t => t := by
  funext t
  induction t with
  | arrow a b iha ihb => rw [renumber, iha, ihb]
  | all v b ih => rw [renumber, ih]; rfl
  | _ => rfl

example : (all ⟨"x", 3⟩ (ex 1)).renumber (fun i => i) = all ⟨"x", 3⟩ (ex 1) := by cbv

/-- Numbers below the floor stay. -/
theorem renumber_of_lt (lt : t.maxId < s.floor) : t.renumber s.num = t := by
  induction t with
  | unit => rfl
  | var v =>
    have number : s.num v.id = v.id := Shift.num_of_lt lt
    rw [renumber, Ident.renumber, number]
  | ex i =>
    have number : s.num i = i := Shift.num_of_lt lt
    rw [renumber, number]
  | arrow a b iha ihb =>
    obtain ⟨left, right⟩ := Nat.max_lt.1 lt
    rw [renumber, iha left, ihb right]
  | all v b ih =>
    obtain ⟨left, right⟩ := Nat.max_lt.1 lt
    rw [renumber, Ident.renumber, Shift.num_of_lt left, ih right]

@[simp] theorem names_renumber : (t.renumber f).names = t.names := by
  induction t with
  | arrow a b iha ihb => rw [renumber, names, iha, ihb, names]
  | all v b ih => rw [renumber, names, ih, names]; rfl
  | _ => rfl

@[simp] theorem isMono_renumber : (t.renumber f).isMono = t.isMono := by
  induction t with
  | arrow a b iha ihb => rw [renumber, isMono, iha, ihb, isMono]
  | _ => rfl

theorem exOccurrences_renumber : (t.renumber f).exOccurrences = t.exOccurrences.map f := by
  induction t with
  | arrow a b iha ihb => rw [renumber, exOccurrences, iha, ihb, exOccurrences, List.map_append]
  | all v b ih => rw [renumber, exOccurrences, ih, exOccurrences]
  | _ => rfl

@[simp] theorem occurs_renumber : (t.renumber s.num).occurs (s.num i) = t.occurs i := by
  rw [Bool.eq_iff_iff, occurs_iff, occurs_iff, exOccurrences_renumber,
    List.mem_map_of_injective s.num_injective]

theorem firstOccurrences_map {g : Nat → Nat} (injective : Function.Injective g) (is : List Nat) :
    firstOccurrences (is.map g) = (firstOccurrences is).map g := by
  induction is with
  | nil => rfl
  | cons i is ih =>
    rw [List.map_cons, firstOccurrences, ih, firstOccurrences, List.map_cons, List.filter_map]
    simp [Function.comp_def, injective.eq_iff]

theorem existentials_renumber : (t.renumber s.num).existentials = t.existentials.map s.num := by
  rw [existentials, exOccurrences_renumber, firstOccurrences_map s.num_injective, existentials]

theorem renumber_mapEx {g h : Nat → Ty} (same : ∀ i, (g i).renumber f = h (f i)) :
    (t.mapEx g).renumber f = (t.renumber f).mapEx h := by
  induction t with
  | ex i => exact same i
  | arrow a b iha ihb => rw [mapEx, renumber, iha, ihb, renumber, mapEx]
  | all v b ih => rw [mapEx, renumber, ih, renumber, mapEx]
  | _ => rfl

theorem renumber_substEx {image : Ty} :
    (t.substEx i image).renumber s.num = (t.renumber s.num).substEx (s.num i) (image.renumber s.num) := by
  refine renumber_mapEx fun j => ?_
  simp only [Shift.num_inj]
  split <;> rfl

theorem renumber_substVar {v : Nat} {image : Ty} :
    (t.substVar v image).renumber s.num = (t.renumber s.num).substVar (s.num v) (image.renumber s.num) := by
  induction t with
  | var x =>
    simp only [substVar, renumber, Ident.renumber, Shift.num_inj]
    split <;> rfl
  | arrow a b iha ihb => rw [substVar, renumber, iha, ihb, renumber, substVar]
  | all x b ih =>
    simp only [substVar, renumber, Ident.renumber, Shift.num_inj]
    split
    · rfl
    · rw [renumber, ih]; rfl
  | _ => rfl

theorem renumber_foldr_all (vs : List Ident) (b : Ty) :
    (vs.foldr .all b).renumber f = (vs.map (Ident.renumber f)).foldr .all (b.renumber f) := by
  induction vs with
  | nil => rfl
  | cons v vs ih => rw [List.foldr_cons, renumber, ih, List.map_cons, List.foldr_cons]

/-- The document of a type without existentials shows names only. -/
theorem docIn_renumber {place : Doc.Place} (closed : t.exOccurrences = []) :
    (t.renumber f).docIn Ident.name place = t.docIn Ident.name place := by
  induction t generalizing place with
  | ex i => simp [exOccurrences] at closed
  | arrow a b iha ihb =>
    obtain ⟨left, right⟩ := List.append_eq_nil_iff.1 closed
    rw [renumber, docIn, iha left, ihb right, docIn]
  | all v b ih =>
    have inner {p : Doc.Place} := @ih p closed
    cases place <;> simp only [renumber, docIn, inner] <;> rfl
  | _ => rfl

end Ty

/-- Numbers below the floor stay. -/
theorem Expr.renumber_of_lt {s : Shift} {e : Expr} (lt : e.maxId < s.floor) : e.renumber s.num = e := by
  have ident {x : Ident} (lt : x.id < s.floor) : x.renumber s.num = x := by
    rw [Ident.renumber, Shift.num_of_lt lt]
  induction e with
  | var x => rw [renumber, ident lt]
  | unit => rfl
  | lam x b ih =>
    obtain ⟨binder, body⟩ := Nat.max_lt.1 lt
    rw [renumber, ident binder, ih body]
  | app f a ihf iha =>
    obtain ⟨left, right⟩ := Nat.max_lt.1 lt
    rw [renumber, ihf left, iha right]
  | ann e t ih =>
    obtain ⟨left, right⟩ := Nat.max_lt.1 lt
    rw [renumber, ih left, Ty.renumber_of_lt right]
  | letIn x t v b ihv ihb =>
    obtain ⟨head, rest⟩ := Nat.max_lt.1 lt
    obtain ⟨binder, given⟩ := Nat.max_lt.1 head
    obtain ⟨value, body⟩ := Nat.max_lt.1 rest
    have same : t.map (Ty.renumber s.num) = t := by
      cases t with
      | none => rfl
      | some t => exact congrArg some (Ty.renumber_of_lt given)
    rw [renumber, ident binder, same, ihv value, ihb body]

end TermBot.Scoped

namespace TermBot.Typing

open Scoped

theorem lastIdx?_map {α β : Type} {p : β → Bool} {g : α → β} (l : List α) :
    lastIdx? p (l.map g) = lastIdx? (fun a => p (g a)) l := by
  induction l with
  | nil => rfl
  | cons a l ih => rw [List.map_cons, lastIdx?, ih, lastIdx?]

/-- The entry with other numbers. -/
def Entry.renumber (f : Nat → Nat) : Entry → Entry
  | .rigid v => .rigid (v.renumber f)
  | .term x t => .term (x.renumber f) (t.renumber f)
  | .unsolved i => .unsolved (f i)
  | .solved i t => .solved (f i) (t.renumber f)
  | .marker i => .marker (f i)

/-- The error with other numbers. -/
def TypeError.renumber (f : Nat → Nat) : TypeError → TypeError
  | .rigidOutOfScope v => .rigidOutOfScope (v.renumber f)
  | .existentialOutOfScope i => .existentialOutOfScope (f i)
  | .notSubtype a b => .notSubtype (a.renumber f) (b.renumber f)
  | .notUnsolved i => .notUnsolved (f i)
  | .cannotInstantiate i t => .cannotInstantiate (f i) (t.renumber f)
  | .unboundTerm x => .unboundTerm (x.renumber f)
  | .illFormed t => .illFormed (t.renumber f)
  | .notFunction t => .notFunction (t.renumber f)
  | .tooDeep => .tooDeep

namespace Entry

variable {f : Nat → Nat} {s : Shift} {e : Entry} {k : EntryKind} {i : Nat}

theorem renumber_id : Entry.renumber (fun i => i) = fun e => e := by
  funext e
  cases e <;> simp only [renumber, Ty.renumber_id] <;> rfl

@[simp] theorem kind_renumber : (e.renumber f).kind = e.kind := by
  cases e <;> rfl

@[simp] theorem id_renumber : (e.renumber f).id = f e.id := by
  cases e <;> rfl

@[simp] theorem declares_renumber : (e.renumber s.num).declares k (s.num i) = e.declares k i := by
  simp [declares]

end Entry

namespace Context

/-- The context with its numbers shifted, and a supply that has given out as many more numbers. -/
def shift (s : Shift) (size : Nat) (c : Context) : Context where
  entries := c.entries.map (Entry.renumber s.num)
  supply := ⟨c.allocated + s.offset, size⟩

variable {s : Shift} {size : Nat} {c : Context} {k : EntryKind} {i : Nat} {t : Ty}

theorem shift_zero (c : Context) : c.shift ⟨i, 0⟩ size = ⟨c.entries, ⟨c.allocated, size⟩⟩ := by
  rw [shift, Shift.num_zero, Entry.renumber_id, List.map_id_fun', id, Nat.add_zero]

@[simp] theorem index?_shift : (c.shift s size).index? k (s.num i) = c.index? k i := by
  simp [index?, shift, lastIdx?_map]

@[simp] theorem has_shift : (c.shift s size).has k (s.num i) = c.has k i := by
  rw [has, index?_shift, has]

@[simp] theorem exIndex?_shift : (c.shift s size).exIndex? (s.num i) = c.exIndex? i := by
  rw [exIndex?, index?_shift, index?_shift, exIndex?]

theorem getElem?_shift (n : Nat) :
    (c.shift s size).entries[n]? = c.entries[n]?.map (Entry.renumber s.num) :=
  List.getElem?_map

theorem push_shift (es : List Entry) :
    (c.push es).shift s size = (c.shift s size).push (es.map (Entry.renumber s.num)) := by
  simp [push, shift, allocated]

theorem dropFrom_shift : (c.dropFrom k i).shift s size = (c.shift s size).dropFrom k (s.num i) := by
  rw [dropFrom, dropFrom, index?_shift]
  cases c.index? k i <;> simp [shift, allocated]

theorem remove_shift : (c.remove k i).shift s size = (c.shift s size).remove k (s.num i) := by
  rw [remove, remove, index?_shift]
  cases c.index? k i <;> simp [shift, allocated, List.eraseIdx_map]

theorem replace_shift (es : List Entry) : (c.replace i es).shift s size =
    (c.shift s size).replace (s.num i) (es.map (Entry.renumber s.num)) := by
  rw [replace, replace, index?_shift]
  cases c.index? .unsolved i <;> simp [shift, allocated]

theorem solve_shift : (c.solve i t).shift s size = (c.shift s size).solve (s.num i) (t.renumber s.num) :=
  replace_shift _

theorem typeOf?_shift : (c.shift s size).typeOf? (s.num i) = (c.typeOf? i).map (Ty.renumber s.num) := by
  rw [typeOf?, typeOf?, index?_shift]
  cases c.index? .term i with
  | none => rfl
  | some n =>
    simp only [Option.bind_some, getElem?_shift]
    cases c.entries[n]? with
    | none => rfl
    | some e => cases e <;> rfl

theorem solution?_shift :
    (c.shift s size).solution? (s.num i) = (c.solution? i).map (Ty.renumber s.num) := by
  rw [solution?, solution?, index?_shift]
  cases c.index? .solved i with
  | none => rfl
  | some n =>
    simp only [Option.bind_some, getElem?_shift]
    cases c.entries[n]? with
    | none => rfl
    | some e => cases e <;> rfl

theorem applyTo_shift (levels : Nat) :
    (c.shift s size).applyTo levels (t.renumber s.num) = (c.applyTo levels t).renumber s.num := by
  induction levels generalizing t with
  | zero => rfl
  | succ n ih =>
    refine (Ty.renumber_mapEx fun i => ?_).symm
    rw [solution?_shift]
    cases c.solution? i with
    | none => rfl
    | some u => exact ih.symm

@[simp] theorem apply_shift :
    (c.shift s size).apply (t.renumber s.num) = (c.apply t).renumber s.num := by
  have length : (c.shift s size).entries.length = c.entries.length := List.length_map _
  rw [apply, length, applyTo_shift, apply]

theorem wellFormedIn_renumber (es : List Entry) (bound : List Nat) :
    wellFormedIn (es.map (Entry.renumber s.num)) (bound.map s.num) (t.renumber s.num) =
      wellFormedIn es bound t := by
  induction t generalizing bound with
  | var v =>
    simp [Ty.renumber, wellFormedIn, Ident.renumber, Function.comp_def,
      List.mem_map_of_injective s.num_injective]
  | ex i => simp [Ty.renumber, wellFormedIn, Function.comp_def]
  | arrow a b iha ihb => rw [Ty.renumber, wellFormedIn, iha, ihb, wellFormedIn]
  | all v b ih => exact ih (v.id :: bound)
  | _ => rfl

@[simp] theorem wellFormed_shift (n : Nat) :
    (c.shift s size).wellFormed n (t.renumber s.num) = c.wellFormed n t := by
  rw [wellFormed, shift, ← List.map_take, ← List.map_nil (f := s.num), wellFormedIn_renumber, wellFormed]

theorem after?_shift : (c.shift s size).after? (s.num i) =
    (c.after? i).map (List.map (Entry.renumber s.num)) := by
  rw [after?, after?, index?_shift]
  cases c.index? .marker i <;> simp [shift]

theorem solutionsAfter_shift : (c.shift s size).solutionsAfter (s.num i) =
    (c.solutionsAfter i).map (Ty.renumber s.num) := by
  rw [solutionsAfter, solutionsAfter, after?_shift]
  cases c.after? i with
  | none => rfl
  | some es =>
    simp only [Option.map_some, Option.getD_some, List.filterMap_map, List.map_filterMap]
    congr 1
    funext e
    cases e <;> rfl

theorem close_shift : (c.close i).shift s size = (c.shift s size).close (s.num i) := by
  rw [close, close, index?_shift]
  cases c.index? .marker i with
  | none => rfl
  | some n =>
    simp only [shift, allocated, List.map_append, List.map_take, ← List.map_drop, List.filterMap_map,
      List.map_filterMap]
    congr 3
    funext e
    cases e with
    | solved j u => exact congrArg (fun u => some (Entry.solved (s.num j) u)) apply_shift.symm
    | _ => rfl

theorem openEx?_shift {a b : Ty} : (c.shift s size).openEx? (a.renumber s.num) (b.renumber s.num) =
    (c.openEx? a b).map s.num := by
  cases a with
  | ex i =>
    simp only [Ty.renumber, openEx?, has_shift, Ty.occurs_renumber]
    split <;> rfl
  | _ => rfl

end Context

end TermBot.Typing
