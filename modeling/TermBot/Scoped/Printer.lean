import TermBot.Doc.Shapes
import TermBot.Scoped.Expr

/-!
# Printing scoped terms and types

A scoped term is printed with the numbers of its binders. A type is printed with them, inside a
term, or with names alone, as the result of inference.
-/

namespace TermBot.Scoped

open Doc (Place)

/-- The document of a type for its place, where `label` writes a variable. -/
def Ty.docIn (label : Ident → String) : Ty → Place → Doc
  | .unit, p => p.fill .atom (.text "Unit")
  | .var v, p => p.fill .atom (.text (label v))
  | .ex id, p => p.fill .atom (.text (renderEx id))
  | .arrow a b, p =>
    p.fill .top (Doc.arrow (a.docIn label (.plain .app)) (b.docIn label (.plain .top)))
  | .all v b, .body mark vars => b.docIn label (.body mark (vars ++ " " ++ label v))
  | .all v b, p => p.fill .top (b.docIn label (.body "∀" (label v)))

/-- The document of a type with the names of its variables. -/
def Ty.doc (t : Ty) : Doc := t.docIn Ident.name (.plain .top)

/-- The document of a type with names and numbers. -/
def Ty.numberedDoc (t : Ty) : Doc := t.docIn Ident.render (.plain .top)

/-- What stands before `=`: the binder and, if given, its type. -/
def bindingHead (x : Ident) : Option Ty → Doc
  | none => .text ("let " ++ x.render)
  | some type => Doc.text ("let " ++ x.render ++ " : ") ++ type.numberedDoc

/-- The document of a scoped term for its place. -/
def Expr.docIn : Expr → Place → Doc
  | .var x, p => p.fill .atom (.text x.render)
  | .unit, p => p.fill .atom (.text "()")
  | .ann e ty, p => p.fill .atom (Doc.annotated (e.docIn (.plain .top)) ty.numberedDoc)
  | .lam x b, .body mark vars => b.docIn (.body mark (vars ++ " " ++ x.render))
  | .lam x b, p => p.fill .top (b.docIn (.body "λ" x.render))
  | .letIn x ty v b, p =>
    p.fill .top (Doc.binding (bindingHead x ty) (v.docIn (.plain .top)) (b.docIn (.plain .top)))
  | .app f a, .function args => f.docIn (.function (a.docIn (.plain .atom) :: args))
  | .app f a, p => p.fill .app (f.docIn (.function [a.docIn (.plain .atom)]))

/-- The document of a scoped term. -/
def Expr.doc (e : Expr) : Doc := e.docIn (.plain .top)

end TermBot.Scoped
