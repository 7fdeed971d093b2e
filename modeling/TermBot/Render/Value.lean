import TermBot.Scoped.Printer
import TermBot.Surface.Printer

/-!
# Values that are rendered

A parsed term, a scoped term or an inferred type.
-/

namespace TermBot.Render

/-- Something with a layout. -/
inductive Value where
  | parsed (term : Surface.Term)
  | resolved (expr : Scoped.Expr)
  | inferred (type : Scoped.Ty)
  deriving DecidableEq, Repr

/-- The name of the kind of a value. -/
def Value.kind : Value → String
  | .parsed _ => "parsed"
  | .resolved _ => "resolved"
  | .inferred _ => "inferred"

/-- The document of a value. -/
def Value.doc : Value → Doc
  | .parsed t => t.doc
  | .resolved e => e.doc
  | .inferred t => t.doc

end TermBot.Render
