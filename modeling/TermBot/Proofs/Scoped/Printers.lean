import TermBot.Proofs.Doc.Arenas
import TermBot.Proofs.Doc.OneLine
import TermBot.Proofs.Surface.Diagnostics
import TermBot.Scoped.Printer
import TermBot.Surface.Printer

/-!
# The printers agree

A scoped term is printed like the written term of its shape whose names are its names with their numbers
(`Expr.docIn_numbered`), so the two printers have one layout for every width. A type with numbers is printed as its
text where there is room for it: `Ty.oneLined` goes through the places of a type, and what stands behind the
variables of a quantifier is what `Ty.renderAfter` writes there.
-/

namespace TermBot

/-! ### Terms -/

namespace Surface

/-- Positions are not printed. -/
theorem TypeExpr.docIn_erase (t : TypeExpr) (p : Doc.Place) : t.erase.docIn p = t.docIn p := by
  induction t generalizing p with
  | unit | name => rfl
  | arrow a b iha ihb => rw [erase, docIn, docIn, iha, ihb]
  | all v b ih => cases p <;> simp only [erase, docIn, ih]

theorem bindingHead_erase (x : String) (ty : Option TypeExpr) :
    bindingHead x ((ty.map TypeExpr.erase).map TypeExpr.doc) = bindingHead x (ty.map TypeExpr.doc) := by
  cases ty with
  | none => rfl
  | some type => exact congrArg (Doc.text ("let " ++ x ++ " : ") ++ ·) (type.docIn_erase _)

theorem Term.docIn_erase (t : Term) (p : Doc.Place) : t.erase.docIn p = t.docIn p := by
  induction t generalizing p with
  | var | unit => rfl
  | ann t ty _ ih => rw [erase, docIn, docIn, ih, TypeExpr.doc, TypeExpr.docIn_erase, TypeExpr.doc]
  | lam x b _ ih => cases p <;> simp only [erase, docIn, ih]
  | letIn x ty v b _ ihv ihb => rw [erase, docIn, docIn, ihv, ihb, bindingHead_erase]
  | app f a ihf iha => cases p <;> simp only [erase, docIn, ihf, iha]

end Surface

namespace Scoped

open Doc (Place Prec)
open Surface (Term TypeExpr)

/-- The type as it is written with the numbers of its variables for a part of their names. -/
def Ty.numbered : Ty → TypeExpr
  | .unit => .unit
  | .var v => .name v.render .start
  | .ex id => .name (renderEx id) .start
  | .arrow a b => .arrow a.numbered b.numbered
  | .all v b => .all v.render b.numbered

/-- The expression as it is written with the numbers of its variables for a part of their names. -/
def Expr.numbered : Expr → Term
  | .var x => .var x.render .start
  | .unit => .unit .start
  | .lam x b => .lam x.render b.numbered .start
  | .app f a => .app f.numbered a.numbered
  | .ann e t => .ann e.numbered t.numbered .start
  | .letIn x t v b => .letIn x.render (t.map Ty.numbered) v.numbered b.numbered .start

theorem Ty.docIn_numbered (t : Ty) (p : Place) : t.numbered.docIn p = t.docIn Ident.render p := by
  induction t generalizing p with
  | unit | var | ex => rfl
  | arrow a b iha ihb => rw [numbered, TypeExpr.docIn, docIn, iha, ihb]
  | all v b ih => cases p <;> simp only [numbered, TypeExpr.docIn, docIn, ih]

theorem bindingHead_numbered (x : Ident) (t : Option Ty) :
    Surface.bindingHead x.render ((t.map Ty.numbered).map TypeExpr.doc) = bindingHead x t := by
  cases t with
  | none => rfl
  | some type => exact congrArg (Doc.text ("let " ++ x.render ++ " : ") ++ ·) (type.docIn_numbered _)

/-- Both printers write the same document, in every place. -/
theorem Expr.docIn_numbered (e : Expr) (p : Place) : e.numbered.docIn p = e.docIn p := by
  induction e generalizing p with
  | var | unit => rfl
  | ann e t ih => rw [numbered, Term.docIn, docIn, ih, TypeExpr.doc, Ty.docIn_numbered, Ty.numberedDoc]
  | lam x b ih => cases p <;> simp only [numbered, Term.docIn, docIn, ih]
  | letIn x t v b ihv ihb => rw [numbered, Term.docIn, docIn, ihv, ihb, bindingHead_numbered]
  | app f a ihf iha => cases p <;> simp only [numbered, Term.docIn, docIn, ihf, iha]

/-- Terms that differ in their positions alone are printed like the expression. -/
theorem Expr.doc_of_numbered {e : Expr} {t : Term} (same : t.erase = e.numbered) : t.doc = e.doc := by
  rw [Term.doc, ← t.docIn_erase, same, e.docIn_numbered, Expr.doc]

/-! ### Types as text -/

namespace Ty

open Doc (OneLine Tight Whole oneLine_text)
open Surface (notMem_append notMem_digits)

variable {t : Ty}

theorem tight_digits (n : Nat) : Tight (toString n) where
  line := notMem_digits rfl n
  last := by
    have chars : (toString n).toList = Nat.toDigits 10 n := by
      rw [Nat.toString_eq_ofList_toDigits, String.toList_ofList]
    refine ⟨_, List.getLast?_eq_some_getLast (chars ▸ Nat.toDigits_ne_nil), fun blank => ?_⟩
    exact notMem_digits (c := ' ') rfl n (blank ▸ List.getLast_mem _)

theorem tight_render {v : Ident} (name : '\n' ∉ v.name.toList) : Tight v.render :=
  .prepend (notMem_append name (by decide)) (tight_digits v.id)

theorem render_arrow (a b : Ty) : (arrow a b).render =
    (if a.isCompound then "(" ++ a.render ++ ")" else a.render) ++ " → " ++ b.render := by
  rw [render, renderAfter, renderAfter.stop, if_neg Bool.false_ne_true, String.empty_append]
  rfl

/-- The variables of a quantifier end where something else than a quantifier follows. -/
theorem renderAfter_stop (other : ∀ v b, t ≠ .all v b) : t.renderAfter true = "." ++ (" " ++ t.render) := by
  have parts : "." ++ " " ++ t.render = "." ++ (" " ++ t.render) := String.append_assoc
  have stop : ". " ++ t.render = "." ++ (" " ++ t.render) := parts
  rw [← stop]
  cases t with
  | all v b => exact absurd rfl (other v b)
  | _ => simp only [render, renderAfter, renderAfter.stop, if_true, Bool.false_eq_true, if_false,
    String.empty_append, String.append_assoc]

/-- In each of its places the type has its text when it is written on one line. -/
structure OneLined (t : Ty) : Prop where
  top : (t.docIn Ident.render (.plain .top)).OneLine t.render
  dom : (t.docIn Ident.render (.plain .app)).OneLine (if t.isCompound then "(" ++ t.render ++ ")" else t.render)
  body : ∀ mark vars, (t.docIn Ident.render (.body mark vars)).OneLine (mark ++ vars ++ t.renderAfter true)

theorem oneLine_body {d : Doc} (other : ∀ v b, t ≠ .all v b) (oneLine : d.OneLine t.render) (mark vars : String) :
    (Doc.binder (mark ++ vars ++ ".") d).OneLine (mark ++ vars ++ t.renderAfter true) := by
  rw [renderAfter_stop other, ← String.append_assoc]
  exact oneLine.binder _

theorem oneLined_text (simple : t.isCompound = false)
    (doc : ∀ p, t.docIn Ident.render p = p.fill .atom (.text t.render)) : t.OneLined where
  top := doc _ ▸ oneLine_text _
  dom := by
    rw [doc, simple]
    exact oneLine_text _
  body mark vars := by
    rw [doc]
    refine oneLine_body ?_ (oneLine_text _) mark vars
    rintro v b rfl
    cases simple

theorem oneLined (t : Ty) : t.OneLined := by
  induction t with
  | unit => exact oneLined_text rfl fun _ => rfl
  | var v =>
    have same : (var v).render = v.render := String.empty_append
    exact oneLined_text rfl fun p => by rw [same, docIn]
  | ex id =>
    have same : (ex id).render = renderEx id := String.empty_append
    exact oneLined_text rfl fun p => by rw [same, docIn]
  | arrow a b iha ihb =>
    have parts : (Doc.arrow (a.docIn Ident.render (.plain .app)) (b.docIn Ident.render (.plain .top))).OneLine
        (arrow a b).render := render_arrow a b ▸ iha.dom.arrow ihb.top
    exact ⟨parts, parts.parens, oneLine_body nofun parts⟩
  | all v b ih =>
    have binder := ih.body "∀" v.render
    -- A quantifier in the body of another one only adds its variable to those before it.
    have same (mark vars : String) : mark ++ vars ++ (all v b).renderAfter true =
        mark ++ (vars ++ " " ++ v.render) ++ b.renderAfter true := by
      simp only [renderAfter, if_true, String.append_assoc]
    exact ⟨binder, binder.parens, fun mark vars => same mark vars ▸ ih.body mark (vars ++ " " ++ v.render)⟩

theorem whole_docIn (t : Ty) : (t.docIn Ident.render (.plain .top)).Whole ∧
    ∀ mark vars, (t.docIn Ident.render (.body mark vars)).Whole := by
  induction t with
  | all v b ih => exact ⟨ih.2 "∀" v.render, fun mark vars => ih.2 mark (vars ++ " " ++ v.render)⟩
  | arrow => exact ⟨.group _, fun _ _ => .group _⟩
  | _ => exact ⟨.text _, fun _ _ => .group _⟩

/-- The text of a type has no line end, and its last character is a digit or the last one of the unit type. -/
theorem tight_renderAfter (names : ∀ x ∈ t.names, '\n' ∉ x.toList) (bound : Bool) : Tight (t.renderAfter bound) := by
  have stop (bound : Bool) : '\n' ∉ (renderAfter.stop bound).toList := by cases bound <;> decide
  induction t generalizing bound with
  | unit => exact .prepend (stop bound) ⟨by decide, 't', rfl, by decide⟩
  | var v => exact .prepend (stop bound) (tight_render (names v.name List.mem_cons_self))
  | ex id => exact .prepend (stop bound) (.prepend (by decide) (tight_digits id))
  | arrow a b iha ihb =>
    obtain ⟨left, right⟩ := List.forall_mem_append.1 names
    have dom := (iha left false).line
    refine .prepend (notMem_append (notMem_append (stop bound) ?_) (by decide)) (ihb right false)
    split
    · exact notMem_append (notMem_append (by decide) dom) (by decide)
    · exact dom
  | all v b ih =>
    obtain ⟨name, inner⟩ := List.forall_mem_cons.1 names
    refine .prepend (notMem_append ?_ (tight_render name).line) (ih inner true)
    cases bound <;> decide

/-- With room for it, a type with the numbers of its variables is laid out as its text. -/
theorem layout_numberedDoc [Text.Measure] (names : ∀ x ∈ t.names, '\n' ∉ x.toList) {width : Int64}
    (room : (t.numberedDoc.flatWidth : Int) ≤ width.toInt) : t.numberedDoc.layout width = t.render :=
  t.whole_docIn.1.layout_eq t.oneLined.top room (tight_renderAfter names false)

end Ty

/-- **The printers agree.** After any operations on arenas, an expression has the same layout as a term of its shape
whose names are its names with their numbers, whatever the positions, within the same width; and a type whose names
are identifiers is laid out as its text wherever its width leaves room for it. -/
theorem printers_agree [Text.Measure] (before before' : List Doc.Arena.Op) (width : Int64) :
    let print (d : Doc) (ops : List Doc.Arena.Op) : String :=
      ((Doc.Arena.build d >>= Doc.Arena.pretty width).run (({} : Doc.Arena.Client).run ops).2.arena).1
    (∀ (e : Expr) (t : Term), t.erase = e.numbered → print e.doc before = print t.doc before') ∧
    ∀ t : Ty, (∀ x ∈ t.names, Surface.IsName x) → (t.numberedDoc.flatWidth : Int) ≤ width.toInt →
      print t.numberedDoc before = t.render := by
  intro print
  have layout (d : Doc) (ops : List Doc.Arena.Op) : print d ops = d.layout width :=
    (Doc.Arena.yields_build_pretty (Doc.Arena.Client.stands_new.run ops).2 width d).result
  refine ⟨fun e t same => ?_, fun t names room => ?_⟩
  · rw [layout, layout, Expr.doc_of_numbered same]
  · rw [layout]
    exact Ty.layout_numberedDoc (fun x mem => (names x mem).notMem (by decide) (by decide)) room

/-- An abstraction over two variables with an annotation, in a column that is too narrow for it, and the annotation
alone. -/
theorem printers_agree_annotated :
    letI := Text.terminal
    let a : Ident := ⟨"a", 3⟩
    let b : Ident := ⟨"b", 4⟩
    let type : Ty := .arrow (.all a (.all b (.arrow (.var a) (.ex 5)))) .unit
    let e : Expr := .lam ⟨"x", 0⟩ (.lam ⟨"y", 1⟩ (.app (.ann (.var ⟨"x", 0⟩) type) (.app (.var ⟨"y", 1⟩) .unit)))
    let p : Surface.Pos := ⟨8, 2, 3⟩
    let written : TypeExpr :=
      .arrow (.all "a#3" (.all "b#4" (.arrow (.name "a#3" p) (.name "^t5" p)))) .unit
    let t : Term :=
      .lam "x#0" (.lam "y#1" (.app (.ann (.var "x#0" p) written p) (.app (.var "y#1" p) (.unit p))) p) p
    let used : List Doc.Arena.Op := [.text "x", .group 0, .pretty 3 1]
    let print (width : Int64) (d : Doc) (ops : List Doc.Arena.Op) : String :=
      ((Doc.Arena.build d >>= Doc.Arena.pretty width).run (({} : Doc.Arena.Client).run ops).2.arena).1
    t.erase = e.numbered ∧ print 12 e.doc [] = print 12 t.doc used ∧
      (∀ x ∈ type.names, Surface.IsName x) ∧ (type.numberedDoc.flatWidth : Int) ≤ (80 : Int64).toInt ∧
      print 80 type.numberedDoc used = "(∀a#3 b#4. a#3 → ^t5) → Unit" := by
  let : Text.Measure := Text.terminal
  intro a b type e p written t used print
  have same : t.erase = e.numbered := by decide +kernel
  have first : Surface.IsName "a" :=
    ⟨⟨'a', [], rfl, ⟨by decide, by decide, by decide, by decide, by decide⟩, rfl⟩, rfl⟩
  have second : Surface.IsName "b" :=
    ⟨⟨'b', [], rfl, ⟨by decide, by decide, by decide, by decide, by decide⟩, rfl⟩, rfl⟩
  have names : ∀ x ∈ ["a", "b", "a"], Surface.IsName x := by
    rintro x (_ | ⟨_, _ | ⟨_, _ | ⟨_, ⟨⟩⟩⟩⟩)
    · exact first
    · exact second
    · exact first
  have room : (type.numberedDoc.flatWidth : Int) ≤ (80 : Int64).toInt := by decide +kernel
  have text : type.render = "(∀a#3 b#4. a#3 → ^t5) → Unit" := by decide +kernel
  have spelled := (printers_agree used [] 80).2 type names room
  exact ⟨same, (printers_agree [] used 12).1 e t same, names, room, spelled.trans text⟩

end Scoped

end TermBot
