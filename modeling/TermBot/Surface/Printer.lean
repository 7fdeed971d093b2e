import TermBot.Doc.Shapes
import TermBot.Surface.Term

/-!
# Printing terms as written

Nested binders of one kind are printed as one binder with several variables, and a function is
printed with all its arguments in one group.
-/

namespace TermBot.Surface

open Doc (Place)

/-- The document of a type for its place. -/
def TypeExpr.docIn : TypeExpr → Place → Doc
  | .unit, p => p.fill .atom (.text "Unit")
  | .name n _, p => p.fill .atom (.text n)
  | .arrow a b, p => p.fill .top (Doc.arrow (a.docIn (.plain .app)) (b.docIn (.plain .top)))
  | .all v b, .body mark vars => b.docIn (.body mark (vars ++ " " ++ v))
  | .all v b, p => p.fill .top (b.docIn (.body "∀" v))

/-- The document of a type. -/
def TypeExpr.doc (t : TypeExpr) : Doc := t.docIn (.plain .top)

/-- What stands before `=`: the name and, if written, its type. -/
def bindingHead (name : String) : Option Doc → Doc
  | none => .text ("let " ++ name)
  | some type => Doc.text ("let " ++ name ++ " : ") ++ type

/-- The document of a term for its place. -/
def Term.docIn : Term → Place → Doc
  | .var n _, p => p.fill .atom (.text n)
  | .unit _, p => p.fill .atom (.text "()")
  | .ann t ty _, p => p.fill .atom (Doc.annotated (t.docIn (.plain .top)) ty.doc)
  | .lam x b _, .body mark vars => b.docIn (.body mark (vars ++ " " ++ x))
  | .lam x b _, p => p.fill .top (b.docIn (.body "λ" x))
  | .letIn x ty v b _, p =>
    p.fill .top (Doc.binding (bindingHead x (ty.map TypeExpr.doc)) (v.docIn (.plain .top))
      (b.docIn (.plain .top)))
  | .app f a, .function args => f.docIn (.function (a.docIn (.plain .atom) :: args))
  | .app f a, p => p.fill .app (f.docIn (.function [a.docIn (.plain .atom)]))

/-- The document of a term. -/
def Term.doc (t : Term) : Doc := t.docIn (.plain .top)

end TermBot.Surface
