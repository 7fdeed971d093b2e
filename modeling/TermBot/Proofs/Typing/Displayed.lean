import TermBot.Proofs.Surface.RoundTrip
import TermBot.Proofs.Typing.AlikeRuns
import TermBot.Proofs.Typing.InferenceSoundness
import TermBot.Proofs.Typing.Legible
import TermBot.Proofs.Typing.Shared

/-!
# The displayed type

The result of inference is shown with the names of its variables alone. Behind `() :` the text is an annotation
that is scoped to the inferred type again, up to the names and numbers of its quantifiers (`infer_displayed`).
Three things are needed for it: the names are identifiers, for those of the source are and so is every name that
generalisation gives (`alike_of_run`); no variable is shown under another quantifier of its name
(`clear_of_run`); and a text that spells a type is parsed as this type (`parse_annotated`).
-/

namespace TermBot.Surface

open Doc (Prec)

/-! ### Positions -/

theorem TypeExpr.named_erase {t : TypeExpr} : t.erase.Named ↔ t.Named := by
  induction t with
  | arrow a b iha ihb => exact and_congr iha ihb
  | all v b ih => exact and_congr Iff.rfl ih
  | _ => exact Iff.rfl

theorem TypeExpr.closed_erase {t : TypeExpr} {bound : List String} : t.erase.Closed bound ↔ t.Closed bound := by
  induction t generalizing bound with
  | arrow a b iha ihb => exact and_congr iha ihb
  | all v b ih => exact ih
  | _ => exact Iff.rfl

theorem TypeExpr.binders_erase (t : TypeExpr) : t.erase.binders = t.binders := by
  induction t with
  | arrow a b iha ihb => rw [erase, binders, binders, iha, ihb]
  | all v b ih => rw [erase, binders, binders, ih]
  | _ => rfl

theorem Term.Named.erase {t : Term} (named : t.Named) : t.erase.Named := by
  induction t with
  | var n p => exact named
  | unit p => trivial
  | lam x b p ih => exact ⟨named.1, ih named.2⟩
  | app f a ihf iha => exact ⟨ihf named.1, iha named.2⟩
  | ann t ty p ih => exact ⟨ih named.1, TypeExpr.named_erase.2 named.2⟩
  | letIn x ty v b p ihv ihb =>
    refine ⟨named.1, fun u mem => ?_, ihv named.2.2.1, ihb named.2.2.2⟩
    obtain ⟨type, here, rfl⟩ := Option.mem_map.1 mem
    exact TypeExpr.named_erase.2 (named.2.1 type here)

/-! ### The annotation -/

/-- The unit with a type as its annotation, where the type is spelled in any way. -/
theorem parse_annotated {type : TypeExpr} (named : type.Named) {text : String}
    (lexes : Lexes text.toList (type.lexemes (.plain .top))) :
    ∃ p read q, parse ("(() : " ++ text ++ ")") = .ok (.ann (.unit p) read q) ∧ read.erase = type.erase := by
  have close : Lexes [')'] [(.rparen, "")] := .symbol rfl .nil
  have inner := lexes.append (boundary_cons (by decide)) close
  have opened : Lexes (("(() : " ++ text ++ ")").toList)
      ((Term.ann (.unit .start) type .start).lexemes (.plain .top)) := by
    have colon : Lexes (' ' :: ':' :: ' ' :: (text.toList ++ [')'])) _ :=
      .blank (by decide) (.symbol (c := ':') rfl (.blank (by decide) inner))
    have unit := Lexes.symbol (c := '(') rfl (Lexes.symbol (c := ')') rfl colon)
    simpa [Term.lexemes, Spot.fill, Prec.rank, annotationLexemes] using Lexes.symbol (c := '(') rfl unit
  obtain ⟨t, parsed, erased⟩ := parse_of_lexes (t := .ann (.unit .start) type .start) ⟨trivial, named⟩ opened
  cases t with
  | ann u read q =>
    obtain ⟨unit, same, -⟩ := Term.ann.inj erased
    cases u with
    | unit p => exact ⟨p, read, q, parsed, same⟩
    | _ => cases unit
  | _ => cases erased

end TermBot.Surface

namespace TermBot.Scoped

open Surface (Term TypeExpr IsName)
open Typing

namespace Ty

/-- A type without existentials is displayed as it is written. -/
theorem docIn_written {t : Ty} (closed : t.exOccurrences = []) (p : Doc.Place) :
    t.docIn Ident.name p = t.written.docIn p := by
  induction t generalizing p with
  | ex i => cases closed
  | arrow a b iha ihb =>
    obtain ⟨left, right⟩ := List.append_eq_nil_iff.1 closed
    rw [docIn, iha left, ihb right, written, TypeExpr.docIn]
  | all v b ih =>
    have ih := ih closed
    cases p <;> simp only [docIn, written, TypeExpr.docIn, ih]
  | _ => rfl

theorem erase_written (t : Ty) : t.written.erase = t.written := by
  induction t with
  | arrow a b iha ihb => rw [written, TypeExpr.erase, iha, ihb]
  | all v b ih => rw [written, TypeExpr.erase, ih]
  | _ => rfl

theorem binders_written (t : Ty) : t.written.binders = t.binders.length := by
  induction t with
  | arrow a b iha ihb => rw [written, TypeExpr.binders, iha, ihb, binders, List.length_append]
  | all v b ih => rw [written, TypeExpr.binders, ih, binders, List.length_cons, Nat.add_comm]
  | _ => rfl

section Closed

variable {around : Scope} {t : Ty} {i : Nat}

/-- A variable that is bound is bound by a quantifier of its name, and has not the name of the unit type. -/
theorem Legible.bound_name {v : Ident} (legible : (Ty.var v).Legible around)
    (closed : InScope [] (around.map (·.id)) (.var v)) : v.name ∈ around.map (·.name) ∧ v.name ≠ "Unit" := by
  have bound : v.id ∈ around.map (·.id) := (inScope_var.1 closed).resolve_right (by simp)
  obtain ⟨u, found⟩ := Scope.exists_numbered?_iff.2 bound
  obtain ⟨named, plain⟩ := legible u found
  exact ⟨Scope.exists_find?_iff.1 ⟨u, named⟩, plain⟩

theorem Legible.closed_written (legible : t.Legible around) (closed : InScope [] (around.map (·.id)) t) :
    t.written.Closed (around.map (·.name)) := by
  induction t generalizing around with
  | unit => trivial
  | var v => exact (legible.bound_name closed).1
  | ex i => exact absurd (inScope_ex.1 closed) (by simp)
  | arrow a b iha ihb =>
    rw [inScope_arrow] at closed
    exact ⟨iha legible.1 closed.1, ihb legible.2 closed.2⟩
  | all v b ih => exact @ih (v :: around) legible closed

theorem Legible.named (legible : t.Legible around) (closed : InScope [] (around.map (·.id)) t)
    (names : t.Alike (fun x _ => IsName x) t) : t.written.Named := by
  induction t generalizing around with
  | unit => trivial
  | var v =>
    cases names with
    | var _ name => exact ⟨name, (legible.bound_name closed).2⟩
  | ex i => exact absurd (inScope_ex.1 closed) (by simp)
  | arrow a b iha ihb =>
    rw [inScope_arrow] at closed
    cases names with
    | arrow left right => exact ⟨iha legible.1 closed.1 left, ihb legible.2 closed.2 right⟩
  | all v b ih =>
    cases names with
    | all i name body => exact ⟨name, @ih (⟨_, i⟩ :: around) legible closed body⟩

theorem alike_of_named (named : t.written.Named) : t.Alike (fun x _ => IsName x) t := by
  induction t with
  | unit => exact .unit
  | var v => exact .var v.id named.1
  | ex i => exact .ex i
  | arrow a b iha ihb => exact .arrow (iha named.1) (ihb named.2)
  | all v b ih => exact .all v.id named.1 (ih named.2)

/-- Types without existentials that are closed, and that names tell apart, are the same up to their quantifiers
when they are written with the same names. -/
theorem Clear.alphaEquiv {u : Ty} (left : t.Clear) (right : u.Clear) (closed : InScope [] [] t)
    (closed' : InScope [] [] u) (same : t.written = u.written) : t.AlphaEquiv u := by
  intro σ
  have first : t.read σ [] = t.written.reading [] := left.legible.read_eq_reading closed
  have second : u.read σ [] = u.written.reading [] := right.legible.read_eq_reading closed'
  rw [first, second, same]

end Closed

end Ty

namespace Expr

variable {e : Expr} {ty : Ty}

/-- The annotations of a scoped expression are scoped by themselves, and their quantifiers are among the binders
of the expression. -/
theorem annotation_of_mem {sc : Scope} (linked : e.Linked sc) (named : e.written.Named)
    (mem : ty ∈ e.annotations) :
    ty.Linked [] ∧ ty.written.Named ∧ ty.binders.Sublist e.binders := by
  induction e generalizing sc with
  | var x | unit => simp [annotations] at mem
  | lam x b ih =>
    obtain ⟨alone, names, sub⟩ := ih linked named.2 mem
    exact ⟨alone, names, sub.cons _⟩
  | app f a ihf iha =>
    rcases List.mem_append.1 mem with mem | mem
    · obtain ⟨alone, names, sub⟩ := ihf linked.1 named.1 mem
      exact ⟨alone, names, sub.trans (List.sublist_append_left _ _)⟩
    · obtain ⟨alone, names, sub⟩ := iha linked.2 named.2 mem
      exact ⟨alone, names, sub.trans (List.sublist_append_right _ _)⟩
  | ann e t ih =>
    rcases List.mem_cons.1 mem with rfl | mem
    · exact ⟨linked.2, named.2, List.sublist_append_right _ _⟩
    · obtain ⟨alone, names, sub⟩ := ih linked.1 named.1 mem
      exact ⟨alone, names, sub.trans (List.sublist_append_left _ _)⟩
  | letIn x t v b ihv ihb =>
    rw [annotations, List.append_assoc] at mem
    rw [binders, List.append_assoc]
    rcases List.mem_append.1 mem with mem | mem
    · obtain rfl := Option.mem_toList.1 mem
      exact ⟨linked.1 ty rfl, named.2.1 _ rfl, List.sublist_append_left _ _⟩
    rcases List.mem_append.1 mem with mem | mem
    · obtain ⟨alone, names, sub⟩ := ihv linked.2.1 named.2.2.1 mem
      exact ⟨alone, names, (sub.trans (List.sublist_append_left _ _)).trans (List.sublist_append_right _ _)⟩
    · obtain ⟨alone, names, sub⟩ := ihb linked.2.2 named.2.2.2 mem
      exact ⟨alone, names, ((sub.cons _).trans (List.sublist_append_right _ _)).trans
        (List.sublist_append_right _ _)⟩

theorem alike_self {R : String → String → Prop} (annotations : ∀ t ∈ e.annotations, t.Alike R t) :
    e.Alike R e := by
  induction e with
  | var x => exact .var x.id
  | unit => exact .unit
  | lam x b ih => exact .lam x.id (ih annotations)
  | app f a ihf iha =>
    rw [Expr.annotations, List.forall_mem_append] at annotations
    exact .app (ihf annotations.1) (iha annotations.2)
  | ann e t ih =>
    rw [Expr.annotations, List.forall_mem_cons] at annotations
    exact .ann (ih annotations.2) annotations.1
  | letIn x t v b ihv ihb =>
    rw [Expr.annotations, List.forall_mem_append, List.forall_mem_append] at annotations
    obtain ⟨⟨type, value⟩, body⟩ := annotations
    refine .letIn x.id ?_ (ihv value) (ihb body)
    cases t with
    | none => exact .none
    | some t => exact .some (type t List.mem_cons_self)

end Expr

end TermBot.Scoped

namespace TermBot.Typing

open Scoped
open Surface (Term TypeExpr Source IsName)

/-- On an empty context that has given out the numbers of the expression, the inferred type is closed and shown
in full by its names. -/
theorem Infers.clear_closed {c c₁ c₂ : Context} {e : Expr} {s t : Ty} (none : c.entries = [])
    (unlimited : c.supply.size = 0)
    (annotations : ∀ t ∈ e.annotations, t.Clear ∧ t.exOccurrences = [] ∧ t.maxId < c.allocated)
    (synth : Infers c.withMarker (.synth e s) c₁)
    (gen : (generalize c.allocated (c₁.apply s)).run c₁ = (.ok t, c₂)) :
    t.Clear ∧ InScope [] [] t ∧ ∀ x ∈ t.binders, x < c₂.allocated := by
  have valid : c.Valid := ⟨by simp [none, Ordered], by simp [none], by simp [none]⟩
  have tidy : c.Tidy e.annotations := by
    refine ⟨by simp [none], fun t mem => ⟨(annotations t mem).2.1, fun x bound => ⟨?_, by simp [none]⟩⟩⟩
    exact Nat.lt_of_le_of_lt (Ty.le_maxId_of_mem_binders bound) (annotations t mem).2.2
  have posed : (Goal.bind .none e t).Posed c := ⟨valid, unlimited, trivial, tidy, by simp [Goal.given]⟩
  have derivation : Infers c (.bind .none e t) (c₂.dropFrom .marker c.allocated) := .generalized synth gen
  obtain ⟨-, empty⟩ := derivation.bind_closed none unlimited
  obtain ⟨-, within, apart⟩ := derivation.gives posed rfl
  rw [empty] at within
  have clear := derivation.clear posed (by simp [Goal.given]) (fun t mem => (annotations t mem).1)
    (by simp [ClearTerms, none]) t (by simp [Goal.result])
  refine ⟨clear, within, fun x mem => ?_⟩
  have lt := (apart x mem).1
  rwa [allocated_dropFrom] at lt

section Run

variable {t : Term} {e : Expr} {ty : Ty} {c : Context} {depth : Nat} {s : Supply}

/-- The names in an inferred type are identifiers, as those of the annotations are. -/
theorem alike_of_run (annotations : ∀ t ∈ e.annotations, t.written.Named)
    (run : (infer depth e).run {} = (.ok ty, c)) : ty.Alike (fun x _ => IsName x) ty := by
  have expr : e.Alike (fun x _ => IsName x) e :=
    Expr.alike_self fun t mem => Ty.alike_of_named (annotations t mem)
  have ends := matches_infer (fun taken _ _ => isName_nextName taken) depth expr {} {} ⟨.nil, rfl⟩
  rw [run] at ends
  cases ends with
  | ok found _ => exact found

/-- While numbers are not used up, an inferred type is closed and shown in full by its names, and has no more
quantifiers than there are numbers. -/
theorem clear_of_run (annotations : ∀ t ∈ e.annotations, t.Clear ∧ t.exOccurrences = [])
    (reserved : e.maxId + 1 < 2 ^ 32) (run : (infer depth e).run {} = (.ok ty, c))
    (fits : c.allocated ≤ 2 ^ 32) : ty.Clear ∧ InScope [] [] ty ∧ ty.binders.length ≤ 2 ^ 32 := by
  rw [run_infer, reserveAbove_empty reserved] at run
  have size : c.supply.size = 2 ^ 32 := size_run (follows_fresh_inferAt depth e) run
  -- with enough numbers the run is that on a supply without a last number
  have unlimited := @run_sized e depth [] (e.maxId + 1) (2 ^ 32) 0 (Nat.lt_succ_self _)
    (by rw [run]; exact .inr (by rwa [size])) (.inl rfl)
  rw [run] at unlimited
  obtain ⟨u, c₁, c₂, synth, gen, le⟩ := run_inferAt_ok rfl unlimited
  have below : ∀ t ∈ e.annotations, t.maxId < e.maxId + 1 := fun t mem =>
    Nat.lt_succ_of_le (Expr.maxId_le_of_mem mem)
  obtain ⟨clear, within, below⟩ := @Infers.clear_closed ⟨[], ⟨e.maxId + 1, 0⟩⟩ c₁ c₂ e u ty rfl rfl
    (fun t mem => ⟨(annotations t mem).1, (annotations t mem).2, below t mem⟩) synth gen
  refine ⟨clear, within, ?_⟩
  have sub : ty.binders ⊆ List.range (2 ^ 32) := fun x mem =>
    List.mem_range.2 (Nat.lt_of_lt_of_le (below x mem) (Nat.le_trans le fits))
  simpa using (clear.distinct.subperm sub).length_le

/-- A closed type, shown in full by its names, is scoped behind the unit as it is written, if there are numbers
for its quantifiers. -/
theorem resolve_annotated {read : TypeExpr} (clear : ty.Clear) (closed : InScope [] [] ty)
    (few : ty.binders.length ≤ 2 ^ 32) (named : ty.written.Named) (same : read.erase = ty.written)
    (p q : Surface.Pos) :
    ∃ ty', resolve (.ann (.unit p) read q) = some (.ann .unit ty') ∧ ty'.AlphaEquiv ty := by
  have within : read.Closed [] := TypeExpr.closed_erase.1 (same ▸ clear.legible.closed_written closed)
  obtain ⟨ty', s, type⟩ := (@exists_resolveType [] 0 read).2 within
  have numbers := numbers_resolveType type
  obtain ⟨written, linked⟩ := written_resolveType type
  have count : read.binders ≤ 2 ^ 32 := by
    rwa [← TypeExpr.binders_erase, same, Ty.binders_written]
  have fits : s.Fits := by
    refine .inr ?_
    rw [numbers.used, numbers.leads.2]
    exact (Nat.zero_add _).trans_le count
  have distinct : ty'.binders.Nodup := numbers.ids fits ▸ List.nodup_range'
  have written : ty'.written = ty.written := written.trans same
  have clear' : ty'.Clear := linked.clear (written ▸ named) distinct
  have run : (resolveTerm [] (.ann (.unit p) read q)).run 0 = some (.ann .unit ty', s) :=
    run_bind_some.2 ⟨.unit, 0, rfl, run_bind_some.2 ⟨ty', s, type, rfl⟩⟩
  exact ⟨ty', by rw [resolve, run]; rfl, clear'.alphaEquiv clear (Ty.Linked.inScope linked) closed written⟩

end Run

/-- **The displayed type is unambiguous.** The type that is inferred for a source, laid out with names alone in
any number of columns, is read back behind `() :` as an annotation of the unit, and this annotation is scoped
to the inferred type, up to the names and numbers of its quantifiers. The numbers must not have been used up,
neither in scoping the source nor in inference. -/
theorem infer_displayed [Text.Measure] {src : Source} {t : Term} {e : Expr} {ty : Ty} {c : Context} {depth : Nat}
    (parsed : Surface.parseSource src = .ok t) (resolved : resolve t = some e) (few : t.binders < 2 ^ 32)
    (run : (infer depth e).run {} = (.ok ty, c)) (fits : c.allocated ≤ 2 ^ 32) (width : Int64) :
    ∃ p type q ty', Surface.parse ("(() : " ++ ty.doc.layout width ++ ")") = .ok (.ann (.unit p) type q) ∧
      resolve (.ann (.unit p) type q) = some (.ann .unit ty') ∧ ty'.AlphaEquiv ty := by
  obtain ⟨⟨e', s⟩, resolving, same⟩ := Option.map_eq_some_iff.1 resolved
  rw [show e' = e from same] at resolving
  have numbers := numbers_resolveTerm resolving
  obtain ⟨written, linked⟩ := written_resolveTerm resolving
  have used : s.used = t.binders := numbers.used.trans (Nat.zero_add _)
  have enough : s.Fits := .inr (by rw [used, numbers.leads.2]; exact Nat.le_of_lt few)
  have reserved : e.maxId + 1 < 2 ^ 32 := by
    have lt := maxId_lt_of_resolveTerm resolving enough (by simp [Scope.Below])
    omega
  have named : e.written.Named := written ▸ (Surface.named_of_parseSource parsed).erase
  have distinct : e.binders.Nodup := numbers.ids enough ▸ List.nodup_range'
  have annotations (u : Ty) (mem : u ∈ e.annotations) : u.Clear ∧ u.written.Named := by
    obtain ⟨alone, names, sub⟩ := Expr.annotation_of_mem linked named mem
    exact ⟨alone.clear names (distinct.sublist sub), names⟩
  obtain ⟨clear, closed, count⟩ := clear_of_run
    (fun u mem => ⟨(annotations u mem).1, annotations_closed resolving mem⟩) reserved run fits
  have names : ty.written.Named :=
    clear.legible.named closed (alike_of_run (fun u mem => (annotations u mem).2) run)
  have none : ty.exOccurrences = [] := List.eq_nil_iff_forall_not_mem.2 fun i mem => by
    simpa using closed.mem_exIds mem
  have lexes : Surface.Lexes (ty.doc.layout width).toList (ty.written.lexemes (.plain .top)) := by
    rw [Ty.doc, Ty.docIn_written none]
    exact (ty.written.prints names (.plain .top)).layout width
  obtain ⟨p, read, q, read_ok, same⟩ := Surface.parse_annotated names lexes
  obtain ⟨ty', scoped', alpha⟩ := resolve_annotated clear closed count names (same.trans ty.erase_written) p q
  exact ⟨p, read, q, ty', read_ok, scoped', alpha⟩

/-- A quantifier of the source below one that generalisation adds, whose name avoids the one of the source. -/
theorem infer_displayed_mixed :
    let src := Text.scalarsOf "(\\x. \\y. x : forall b. b -> forall a. a -> b) (\\z. z)"
    ∃ t e ty c, Surface.parseSource src = .ok t ∧ resolve t = some e ∧ (infer 20 e).run {} = (.ok ty, c) ∧
      ∃ p type q ty', Surface.parse ("(() : " ++ "∀b a. a → b → b" ++ ")") = .ok (.ann (.unit p) type q) ∧
        resolve (.ann (.unit p) type q) = some (.ann .unit ty') ∧ ty'.AlphaEquiv ty := by
  let : Text.Measure := Text.terminal
  intro src
  have accepted : ((Surface.parseSource src).toOption.bind fun t => (resolve t).bind fun e =>
      ((infer 20 e).run {}).1.toOption.map fun ty => decide (t.binders < 2 ^ 32) &&
        (decide (((infer 20 e).run {}).2.allocated ≤ 2 ^ 32) &&
          (ty.doc.layout 80).toList == "∀b a. a → b → b".toList)) = some true := by decide +kernel
  obtain ⟨t, parsed, rest⟩ := Option.bind_eq_some_iff.1 accepted
  obtain ⟨e, resolved, rest⟩ := Option.bind_eq_some_iff.1 rest
  obtain ⟨ty, inferred, right⟩ := Option.map_eq_some_iff.1 rest
  simp only [Bool.and_eq_true, decide_eq_true_eq, beq_iff_eq, String.toList_inj] at right
  obtain ⟨few, fits, text⟩ := right
  have ok {ε α : Type} {x : Except ε α} {a : α} (h : x.toOption = some a) : x = .ok a := by
    cases x <;> cases h
    rfl
  have run : (infer 20 e).run {} = (.ok ty, ((infer 20 e).run {}).2) := Prod.ext (ok inferred) rfl
  have shown := infer_displayed (ok parsed) resolved few run fits 80
  rw [text] at shown
  exact ⟨t, e, ty, _, ok parsed, resolved, run, shown⟩

end TermBot.Typing
