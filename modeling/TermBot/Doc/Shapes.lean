import TermBot.Doc.Basic

/-!
# Shapes of printed terms

The layouts shared by all printers of terms and types, and the precedence that decides where
parentheses stand.
-/

namespace TermBot.Doc

/-- How tightly a place binds what stands there. -/
inductive Prec where
  /-- Nothing follows: a binder may extend to the right. -/
  | top
  /-- Function position. -/
  | app
  /-- Argument position. -/
  | atom
  deriving DecidableEq, Repr

/-- The order of tightness. -/
def Prec.rank : Prec → Nat
  | .top => 0
  | .app => 1
  | .atom => 2

/-- Parentheses where the place binds tighter than the document. -/
def wrap (need given : Prec) (d : Doc) : Doc := if given.rank < need.rank then parens d else d

/-- Columns by which a broken part is indented. -/
def indentation : Int64 := 2

/-- A line end and a document, indented. -/
def hanging (d : Doc) : Doc := nest indentation (line ++ d)

/-- A head such as `λx.` with its body. -/
def binder (head : String) (body : Doc) : Doc := group (text head ++ hanging body)

/-- `head = value in body`. -/
def binding (head value body : Doc) : Doc :=
  group (group (head ++ text " =" ++ hanging value ++ line ++ text "in") ++ line ++ body)

/-- `(inner : type)`. -/
def annotated (inner type : Doc) : Doc :=
  group (text "(" ++ inner ++ text " :" ++ hanging type ++ text ")")

/-- A function with its arguments. -/
def application (fn : Doc) (args : List Doc) : Doc :=
  group (fn ++ nest indentation (concat (args.map (line ++ ·))))

/-- `from → to`. -/
def arrow (dom cod : Doc) : Doc := group (dom ++ text " →" ++ line ++ cod)

/-- Where a document of a term or type goes. -/
inductive Place where
  /-- A place that binds as tightly as `need`. -/
  | plain (need : Prec)
  /-- The body of a binder with this mark and these variables, so far. -/
  | body (mark vars : String)
  /-- The function of these arguments. -/
  | function (args : List Doc)

/-- Puts a document of the given precedence into its place. -/
def Place.fill (given : Prec) (d : Doc) : Place → Doc
  | .plain need => wrap need given d
  | .body mark vars => binder (mark ++ vars ++ ".") d
  | .function args => application (wrap .app given d) args

end TermBot.Doc
