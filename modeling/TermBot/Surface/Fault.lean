import TermBot.Surface.Token
import TermBot.Text.Measure

/-!
# Faults in a source

A source that is no term is rejected at a place for a cause. `Snippet` shows the place: the line of
the source with its number, and a caret below it in the column of the fault, as wide as the text before
it is. The line is written byte for byte; to find the column it is read by itself.
-/

namespace TermBot.Surface

open Text (Measure)

/-- A place of the grammar that only one kind of token fills. -/
inductive Slot where
  | lambdaDot
  | letName
  | letEquals
  | letIn
  | annotationClose
  | termClose
  | quantifierDot
  | typeClose
  deriving DecidableEq, Repr

/-- The kind of token that fills a slot. -/
def Slot.kind : Slot → TokenKind
  | .lambdaDot | .quantifierDot => .dot
  | .letName => .ident
  | .letEquals => .equals
  | .letIn => .inKeyword
  | .annotationClose | .termClose | .typeClose => .rparen

/-- What the token does in its slot. -/
def Slot.role : Slot → String
  | .lambdaDot => "after lambda parameters"
  | .letName => "after `let`"
  | .letEquals => "in let binding"
  | .letIn => "after let-bound value"
  | .annotationClose => "to close annotation"
  | .termClose => "to close parenthesised term"
  | .quantifierDot => "after quantified variables"
  | .typeClose => "to close parenthesised type"

/-- Why a source is rejected. -/
inductive Cause where
  | illegal (found : Token)
  | missing (slot : Slot) (found : Token)
  | noParameter (found : Token)
  | noTerm (found : Token)
  | noTypeVariable (found : Token)
  | noType (found : Token)
  | trailing (found : Token)
  | tooDeep
  deriving DecidableEq, Repr

/-- The wording of a cause. -/
def Cause.message : Cause → String
  | .illegal t => "unexpected character " ++ t.describe
  | .missing slot t =>
    "expected " ++ slot.kind.label ++ " " ++ slot.role ++ ", found " ++ t.describe
  | .noParameter t => "expected a parameter name after `λ`, found " ++ t.describe
  | .noTerm t => "expected a term, found " ++ t.describe
  | .noTypeVariable t => "expected a type variable after `∀`, found " ++ t.describe
  | .noType t => "expected a type, found " ++ t.describe
  | .trailing t => "expected end of input, found " ++ t.describe
  | .tooDeep => "the term is nested too deeply"

namespace Snippet

/-- The first line of a report on a place. -/
def heading (line col : Int) (message : String) : String :=
  s!"syntax error at {line}:{col}: " ++ message

/-- The lines of a source, without the carriage returns at their ends. -/
def sourceLines (src : List UInt8) : List (List UInt8) :=
  (Text.splitAt 0x0A src).map (Text.dropRightWhile (· = 0x0D))

/-- The columns before a column of a line; a column outside the line counts as its nearest end. -/
def caretCell [Measure] (line : List UInt8) (col : Int) : Nat :=
  Measure.columns (Text.shown ((Text.decode line).take (col - 1).toNat))

/-- The heading and, if the source has the line, the line with a caret under the column. -/
def written [Measure] (src : List UInt8) (line col : Int) (message : String) : List UInt8 :=
  let top := Text.bytesOf (heading line col message).toList
  match if line < 1 then none else (sourceLines src)[(line - 1).toNat]? with
  | none => top
  | some shown =>
    let gutter := (toString line).toList
    let blank := List.replicate gutter.length ' '
    let indent := List.replicate (caretCell shown col) ' '
    top ++ Text.bytesOf ("\n\n ".toList ++ gutter ++ " | ".toList) ++ shown ++
      Text.bytesOf ("\n ".toList ++ blank ++ " | ".toList ++ indent ++ ['^'])

/-- What a reader sees of that, with U+FFFD for a byte that belongs to no character. -/
def render [Measure] (src : Source) (line col : Int) (message : String) : String :=
  Text.shown (Text.decode (written (src.flatMap Text.Scalar.bytes) line col message))

end Snippet

/-- A place in a source and why it is rejected there. -/
structure Fault where
  pos : Pos
  cause : Cause
  deriving DecidableEq, Repr

/-- The fault as one line. -/
def Fault.message (f : Fault) : String :=
  Snippet.heading f.pos.line f.pos.col f.cause.message

/-- The fault with the line of the source it is in. -/
def Fault.written [Measure] (f : Fault) (src : List UInt8) : List UInt8 :=
  Snippet.written src f.pos.line f.pos.col f.cause.message

/-- What a reader sees of that. -/
def Fault.diagnostic [Measure] (f : Fault) (src : Source) : String :=
  Snippet.render src f.pos.line f.pos.col f.cause.message

end TermBot.Surface
