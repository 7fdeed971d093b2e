import Mathlib.Data.List.Forall2
import TermBot.Proofs.Scoped.Alpha
import TermBot.Typing.Context

/-!
# Types and contexts that differ in names

What is done with types and contexts looks at numbers only: on contexts that differ in names it finds the same
places, and gives types that differ in names again (`Ty.Alike`, `Context.Alike`). Which names may stand for
each other is a relation that everything here leaves open.
-/

namespace TermBot.Scoped

namespace Ty.Alike

variable {R : String → String → Prop} {a b s t : Ty}

/-- The names of both types, in the order they are met, are related one by one. -/
theorem names_rel (alike : a.Alike R b) : List.Forall₂ R a.names b.names := by
  induction alike with
  | unit | ex => exact .nil
  | var i name => exact .cons name .nil
  | arrow _ _ dom cod => exact List.rel_append dom cod
  | all i name _ body => exact .cons name body

theorem isMono_eq (alike : a.Alike R b) : a.isMono = b.isMono := by
  induction alike with
  | arrow _ _ dom cod => rw [isMono, dom, cod, isMono]
  | _ => rfl

/-- Existentials have no names, so both types have the same ones. -/
theorem exOccurrences_eq (alike : a.Alike R b) : a.exOccurrences = b.exOccurrences := by
  induction alike with
  | arrow _ _ dom cod => rw [exOccurrences, dom, cod, exOccurrences]
  | all i _ _ body => exact body
  | _ => rfl

theorem occurs_eq (alike : a.Alike R b) (i : Nat) : a.occurs i = b.occurs i := by
  induction alike with
  | arrow _ _ dom cod => rw [occurs, dom, cod, occurs]
  | all i _ _ body => exact body
  | _ => rfl

theorem existentials_eq (alike : a.Alike R b) : a.existentials = b.existentials := by
  rw [existentials, alike.exOccurrences_eq, existentials]

/-- Putting a type for a variable goes by its number, also where a quantifier shadows it. -/
theorem substVar (alike : a.Alike R b) (v : Nat) (image : s.Alike R t) :
    (a.substVar v s).Alike R (b.substVar v t) := by
  induction alike with
  | unit => exact .unit
  | var i name =>
    rw [Ty.substVar, Ty.substVar]
    split
    · exact image
    · exact .var i name
  | ex i => exact .ex i
  | arrow _ _ dom cod => exact .arrow dom cod
  | all i name body ih =>
    rw [Ty.substVar, Ty.substVar]
    split
    · exact .all i name body
    · exact .all i name ih

/-- The same of types put for all existentials at once. -/
theorem mapEx {f g : Nat → Ty} (alike : a.Alike R b) (images : ∀ i, (f i).Alike R (g i)) :
    (a.mapEx f).Alike R (b.mapEx g) := by
  induction alike with
  | unit => exact .unit
  | var i name => exact .var i name
  | ex i => exact images i
  | arrow _ _ dom cod => exact .arrow dom cod
  | all i name _ body => exact .all i name body

theorem substEx (alike : a.Alike R b) (i : Nat) (image : s.Alike R t) :
    (a.substEx i s).Alike R (b.substEx i t) := by
  refine alike.mapEx fun j => ?_
  split
  · exact image
  · exact .ex j

end Ty.Alike

/-- Binders with the same number and related names. -/
def Ident.Alike (R : String → String → Prop) (v w : Ident) : Prop :=
  ∃ x y i, v = ⟨x, i⟩ ∧ w = ⟨y, i⟩ ∧ R x y

/-- Quantifiers put in front, as generalisation does. -/
theorem Ty.Alike.closeOver {R : String → String → Prop} {a b : Ty} {vs ws : List Ident}
    (binders : List.Forall₂ (Ident.Alike R) vs ws) (alike : a.Alike R b) :
    (vs.foldr .all a).Alike R (ws.foldr .all b) := by
  induction binders with
  | nil => exact alike
  | cons head _ ih =>
    obtain ⟨x, y, i, rfl, rfl, name⟩ := head
    exact .all i name ih

end TermBot.Scoped

namespace TermBot.Typing

open Scoped

/-- Entries with the same numbers, and types with related names. Names of terms may be any. -/
inductive Entry.Alike (R : String → String → Prop) : Entry → Entry → Prop where
  | rigid {x y : String} (i : Nat) (name : R x y) : Alike R (.rigid ⟨x, i⟩) (.rigid ⟨y, i⟩)
  | term {x y : String} {a b : Ty} (i : Nat) (type : a.Alike R b) :
      Alike R (.term ⟨x, i⟩ a) (.term ⟨y, i⟩ b)
  | unsolved (i : Nat) : Alike R (.unsolved i) (.unsolved i)
  | solved {a b : Ty} (i : Nat) (type : a.Alike R b) : Alike R (.solved i a) (.solved i b)
  | marker (i : Nat) : Alike R (.marker i) (.marker i)

/-- Contexts with the same numbers, and types with related names. -/
structure Context.Alike (R : String → String → Prop) (c c' : Context) : Prop where
  entries : List.Forall₂ (Entry.Alike R) c.entries c'.entries
  supply : c.supply = c'.supply

/-- Both lists have the last element that is looked for in the same place. -/
theorem lastIdx?_rel {α β : Type} {related : α → β → Prop} {p : α → Bool} {q : β → Bool} {as : List α}
    {bs : List β} (same : ∀ a b, related a b → p a = q b) (lists : List.Forall₂ related as bs) :
    lastIdx? p as = lastIdx? q bs := by
  induction lists with
  | nil => rfl
  | cons head _ ih => rw [lastIdx?, ih, same _ _ head, lastIdx?]

/-- Two related lists have related elements in the same places. -/
theorem getElem?_rel {α β : Type} {related : α → β → Prop} {as : List α} {bs : List β}
    (lists : List.Forall₂ related as bs) (n : Nat) : Option.Rel related as[n]? bs[n]? := by
  induction lists generalizing n with
  | nil => exact .none
  | cons head _ ih =>
    cases n with
    | zero => exact .some head
    | succ n => exact ih n

theorem any_rel {α β : Type} {related : α → β → Prop} {p : α → Bool} {q : β → Bool} {as : List α}
    {bs : List β} (same : ∀ a b, related a b → p a = q b) (lists : List.Forall₂ related as bs) :
    as.any p = bs.any q := by
  induction lists with
  | nil => rfl
  | cons head _ ih => rw [List.any_cons, same _ _ head, ih, List.any_cons]

variable {R : String → String → Prop}

/-- What an entry declares is its kind and its number. -/
theorem Entry.Alike.declares_eq {e f : Entry} (alike : e.Alike R f) (k : EntryKind) (i : Nat) :
    e.declares k i = f.declares k i := by
  cases alike <;> rfl

namespace Context.Alike

variable {c c' : Context} {a b : Ty} {k : EntryKind} {i : Nat}

theorem next_eq (alike : c.Alike R c') : c.next = c'.next := congrArg Supply.next alike.supply

/-- Every lookup in a context goes through this place, so all of them agree. -/
theorem index?_eq (alike : c.Alike R c') (k : EntryKind) (i : Nat) : c.index? k i = c'.index? k i :=
  lastIdx?_rel (fun _ _ same => same.declares_eq k i) alike.entries

theorem has_eq (alike : c.Alike R c') (k : EntryKind) (i : Nat) : c.has k i = c'.has k i := by
  rw [has, alike.index?_eq, has]

theorem exIndex?_eq (alike : c.Alike R c') (i : Nat) : c.exIndex? i = c'.exIndex? i := by
  rw [exIndex?, alike.index?_eq, alike.index?_eq, exIndex?]

theorem length_eq (alike : c.Alike R c') : c.entries.length = c'.entries.length :=
  alike.entries.length_eq

theorem push {es es' : List Entry} (alike : c.Alike R c') (more : List.Forall₂ (Entry.Alike R) es es') :
    (c.push es).Alike R (c'.push es') :=
  ⟨List.rel_append alike.entries more, alike.supply⟩

theorem dropFrom (alike : c.Alike R c') (k : EntryKind) (i : Nat) :
    (c.dropFrom k i).Alike R (c'.dropFrom k i) := by
  rw [Context.dropFrom, Context.dropFrom, alike.index?_eq]
  cases c'.index? k i with
  | none => exact alike
  | some n => exact ⟨List.forall₂_take n alike.entries, alike.supply⟩

theorem remove (alike : c.Alike R c') (k : EntryKind) (i : Nat) :
    (c.remove k i).Alike R (c'.remove k i) := by
  rw [Context.remove, Context.remove, alike.index?_eq]
  cases c'.index? k i with
  | none => exact alike
  | some n =>
    simp only [List.eraseIdx_eq_take_drop_succ]
    have around := List.rel_append (List.forall₂_take n alike.entries)
      (List.forall₂_drop (n + 1) alike.entries)
    exact ⟨around, alike.supply⟩

/-- The entry of an existential is replaced in the same place, or in neither context. -/
theorem replace {es es' : List Entry} (alike : c.Alike R c')
    (more : List.Forall₂ (Entry.Alike R) es es') : (c.replace i es).Alike R (c'.replace i es') := by
  rw [Context.replace, Context.replace, alike.index?_eq]
  cases c'.index? .unsolved i with
  | none => exact alike
  | some n =>
    have around := List.rel_append (List.rel_append (List.forall₂_take n alike.entries) more)
      (List.forall₂_drop (n + 1) alike.entries)
    exact ⟨around, alike.supply⟩

theorem solve (alike : c.Alike R c') (type : a.Alike R b) : (c.solve i a).Alike R (c'.solve i b) :=
  alike.replace (.cons (.solved i type) .nil)

theorem reserve (alike : c.Alike R c') (floor : Nat) : (c.reserve floor).Alike R (c'.reserve floor) := by
  rw [Context.reserve, Context.reserve, alike.next_eq, alike.supply]
  split
  · exact ⟨alike.entries, rfl⟩
  · exact alike

theorem reserveAbove (alike : c.Alike R c') (i : Nat) :
    (c.reserveAbove i).Alike R (c'.reserveAbove i) := by
  rw [Context.reserveAbove, alike.supply]
  exact alike.reserve _

/-- The type of a variable is found in both contexts or in neither. -/
theorem typeOf?_rel (alike : c.Alike R c') (i : Nat) :
    Option.Rel (Ty.Alike R) (c.typeOf? i) (c'.typeOf? i) := by
  rw [typeOf?, typeOf?, alike.index?_eq]
  cases c'.index? .term i with
  | none => exact .none
  | some n =>
    have entry := getElem?_rel alike.entries n
    rw [Option.bind_some, Option.bind_some]
    generalize c.entries[n]? = e, c'.entries[n]? = e' at entry
    cases entry with
    | none => exact .none
    | some entry =>
      cases entry with
      | term _ type => exact .some type
      | _ => exact .none

/-- An existential is solved in both contexts or in neither. -/
theorem solution?_rel (alike : c.Alike R c') (i : Nat) :
    Option.Rel (Ty.Alike R) (c.solution? i) (c'.solution? i) := by
  rw [solution?, solution?, alike.index?_eq]
  cases c'.index? .solved i with
  | none => exact .none
  | some n =>
    have entry := getElem?_rel alike.entries n
    rw [Option.bind_some, Option.bind_some]
    generalize c.entries[n]? = e, c'.entries[n]? = e' at entry
    cases entry with
    | none => exact .none
    | some entry =>
      cases entry with
      | solved _ type => exact .some type
      | _ => exact .none

/-- Solutions are put in level by level, in both types alike. -/
theorem applyTo (alike : c.Alike R c') (levels : Nat) (type : a.Alike R b) :
    (c.applyTo levels a).Alike R (c'.applyTo levels b) := by
  induction levels generalizing a b with
  | zero => exact type
  | succ n ih =>
    refine type.mapEx fun i => ?_
    have found := alike.solution?_rel i
    generalize c.solution? i = s, c'.solution? i = s' at found
    cases found with
    | none => exact .ex i
    | some solution => exact ih solution

theorem apply (alike : c.Alike R c') (type : a.Alike R b) : (c.apply a).Alike R (c'.apply b) := by
  rw [Context.apply, alike.length_eq]
  exact alike.applyTo _ type

/-- Well-formedness is a matter of declared numbers alone. -/
theorem wellFormedIn_eq {es es' : List Entry} (entries : List.Forall₂ (Entry.Alike R) es es')
    (bound : List Nat) (type : a.Alike R b) : wellFormedIn es bound a = wellFormedIn es' bound b := by
  have declared (k : EntryKind) (i : Nat) : es.any (·.declares k i) = es'.any (·.declares k i) :=
    any_rel (fun _ _ same => same.declares_eq k i) entries
  induction type generalizing bound with
  | unit => rfl
  | var i name => rw [wellFormedIn, declared, wellFormedIn]
  | ex i =>
    refine any_rel (fun _ _ same => ?_) entries
    rw [same.declares_eq, same.declares_eq]
  | arrow _ _ dom cod => rw [wellFormedIn, dom, cod, wellFormedIn]
  | all i _ _ body => exact body (i :: bound)

theorem wellFormed_eq (alike : c.Alike R c') (n : Nat) (type : a.Alike R b) :
    c.wellFormed n a = c'.wellFormed n b :=
  wellFormedIn_eq (List.forall₂_take n alike.entries) [] type

/-- Both contexts have the marker, with related entries behind it, or neither has it. -/
theorem after?_rel (alike : c.Alike R c') (mark : Nat) :
    Option.Rel (List.Forall₂ (Entry.Alike R)) (c.after? mark) (c'.after? mark) := by
  rw [after?, after?, alike.index?_eq]
  cases c'.index? .marker mark with
  | none => exact .none
  | some n => exact .some (List.forall₂_drop (n + 1) alike.entries)

theorem solutionsAfter_rel (alike : c.Alike R c') (mark : Nat) :
    List.Forall₂ (Ty.Alike R) (c.solutionsAfter mark) (c'.solutionsAfter mark) := by
  have scope : List.Forall₂ (Entry.Alike R) ((c.after? mark).getD []) ((c'.after? mark).getD []) := by
    have found := alike.after?_rel mark
    generalize c.after? mark = es, c'.after? mark = es' at found
    cases found with
    | none => exact .nil
    | some entries => exact entries
  refine List.rel_filterMap (fun _ _ entry => ?_) scope
  cases entry with
  | solved _ type => exact .some type
  | _ => exact .none

/-- Closing keeps the solutions behind the marker, each with those of the context put in. -/
theorem close (alike : c.Alike R c') (mark : Nat) : (c.close mark).Alike R (c'.close mark) := by
  rw [Context.close, Context.close, alike.index?_eq]
  cases c'.index? .marker mark with
  | none => exact alike
  | some n =>
    refine ⟨List.rel_append (List.forall₂_take n alike.entries) ?_, alike.supply⟩
    refine List.rel_filterMap (fun _ _ entry => ?_) (List.forall₂_drop (n + 1) alike.entries)
    cases entry with
    | solved i type => exact .some (.solved i (alike.apply type))
    | _ => exact .none

end Context.Alike

end TermBot.Typing
