import TermBot.Doc.Basic
import TermBot.Text.Measure

/-!
# Layout

`Doc.layout w d` lays `d` out so that lines stay within `w` columns wherever the document allows
it. A group is decided when it is reached: it is flat when its flat form, together with what follows
up to the next line end, fits into the rest of the line. What follows is passed as a test on the
room left, so the layout of a document is defined by recursion on the document alone. Columns, rooms and
indentations wrap around at 64 bits.
-/

namespace TermBot.Doc

open Text (Measure)

/-- A piece of laid out text. -/
inductive Piece where
  | text (s : String)
  | space
  | newline (spaces : Nat)
  deriving Repr, DecidableEq

/-- The characters of a piece. -/
def Piece.chars : Piece → List Char
  | .text s => s.toList
  | .space => [' ']
  | .newline spaces => '\n' :: List.replicate spaces ' '

/-- A line end with an indentation; a negative one counts as none. -/
def Piece.indented (indent : Int64) : Piece := .newline indent.toNatClampNeg

section

variable [Measure]

/-- The columns of a run of text. -/
def runWidth (s : String) : Int64 := .ofNat (Measure.columns s)

/-- What is written before the next line end fits into `room` columns, where `after` tests what
follows the document. -/
def fits : Doc → (flat : Bool) → (after : Int64 → Bool) → (room : Int64) → Bool
  | nil, _, after, room => after room
  | text s, _, after, room => 0 ≤ room - runWidth s && after (room - runWidth s)
  | line, true, after, room => 0 ≤ room - 1 && after (room - 1)
  | line, false, _, _ => true
  | softLine, true, after, room => after room
  | softLine, false, _, _ => true
  | hardLine, flat, _, _ => !flat
  | append a b, flat, after, room => a.fits flat (b.fits flat after) room
  | nest _ d, flat, after, room => d.fits flat after room
  | group d, flat, after, room => d.fits flat after room

/-- The pieces of a document that starts in column `col`, and the column after it. Line ends are
indented by `indent`; `after` tests the room left for what follows. -/
def place (width : Int64) : Doc → (indent : Int64) → (flat : Bool) → (after : Int64 → Bool) →
    (col : Int64) → List Piece × Int64
  | nil, _, _, _, col => ([], col)
  | text s, _, _, _, col => ([.text s], col + runWidth s)
  | line, _, true, _, col => ([.space], col + 1)
  | line, indent, false, _, _ => ([.indented indent], indent)
  | softLine, _, true, _, col => ([], col)
  | softLine, indent, false, _, _ => ([.indented indent], indent)
  | hardLine, indent, _, _, _ => ([.indented indent], indent)
  | append a b, indent, flat, after, col =>
    let (ps, col) := a.place width indent flat (b.fits flat after) col
    let (qs, col) := b.place width indent flat after col
    (ps ++ qs, col)
  | nest n d, indent, flat, after, col => d.place width (indent + n) flat after col
  | group d, indent, flat, after, col =>
    let flat := flat || (0 ≤ width - col && d.fits true after (width - col))
    d.place width indent flat after col

/-- The pieces of a whole document. -/
def pieces (width : Int64) (d : Doc) : List Piece :=
  (d.place width 0 false (fun _ => true) 0).1

end

/-- Drops the spaces at the end of every line. -/
def trimLines (cs : List Char) : List Char :=
  Text.joinWith '\n' ((Text.splitAt '\n' cs).map (Text.dropRightWhile (· = ' ')))

/-- Some line ends in a space. -/
def hasLooseSpace : List Char → Bool
  | [] => false
  | [c] => c = ' '
  | c :: d :: cs => (c = ' ' && d = '\n') || hasLooseSpace (d :: cs)

/-- The text itself when no line ends in a space, and otherwise without the spaces at the end of every line. -/
def tidyLines (cs : List Char) : List Char := if hasLooseSpace cs then trimLines cs else cs

/-- The layout of a document within `width` columns, without spaces at the ends of lines. -/
def layout [Measure] (width : Int64) (d : Doc) : String :=
  String.ofList (trimLines ((d.pieces width).flatMap Piece.chars))

end TermBot.Doc
