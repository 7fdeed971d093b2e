import TermBot.Text.Blank

/-!
# Places in a YAML text

Indentation decides the structure of a YAML text, so a reader keeps the line and the column beside
the text that is left. A line ends with a line feed, a carriage return, both, or one of the three
other line ends of the standard.
-/

namespace TermBot.Yaml

/-- A place in a text; all three counts start at zero. -/
structure Mark where
  index : Nat := 0
  line : Nat := 0
  column : Nat := 0
  deriving DecidableEq, Repr

/-- The place `n` characters further in the same line. -/
def Mark.along (n : Nat) (m : Mark) : Mark := ⟨m.index + n, m.line, m.column + n⟩

/-- The start of the next line, behind a line end of `n` characters. -/
def Mark.nextLine (n : Nat) (m : Mark) : Mark := ⟨m.index + n, m.line + 1, 0⟩

/-- The text from a place on. -/
structure Cursor where
  rest : List Char
  mark : Mark := {}
  deriving DecidableEq, Repr

/-- Ends a line. -/
def isBreak (c : Char) : Bool :=
  c = '\n' || c = '\r' || c = Char.ofNat 0x85 || c = Char.ofNat 0x2028 || c = Char.ofNat 0x2029

/-- Separates words in a line. -/
def isGap (c : Char) : Bool := c = ' ' || c = '\t'

/-- A word ends before this text. -/
def endsWord : List Char → Bool
  | [] => true
  | c :: _ => isGap c || isBreak c

/-- A line ends before this text. -/
def endsLine : List Char → Bool
  | [] => true
  | c :: _ => isBreak c

/-- How a line end reads inside a scalar. -/
def breakText (c : Char) : Char :=
  if c = Char.ofNat 0x2028 || c = Char.ofNat 0x2029 then c else '\n'

/-- Part of a name. -/
def isWordChar (c : Char) : Bool :=
  ('0' ≤ c && c ≤ '9') || ('A' ≤ c && c ≤ 'Z') || ('a' ≤ c && c ≤ 'z') || c = '_' || c = '-'

/-- May stand in a text at all. -/
def isAllowed (c : Char) : Bool :=
  let n := c.toNat
  n = 0x09 || n = 0x0A || n = 0x0D || (0x20 ≤ n && n ≤ 0x7E) || n = 0x85 ||
    (0xA0 ≤ n && n ≤ 0xFFFD) || 0x10000 ≤ n

/-- The mark of byte order. -/
def byteOrderMark : Char := Char.ofNat 0xFEFF

namespace Cursor

/-- Skips `n` characters of the line. -/
def skip (n : Nat) (c : Cursor) : Cursor := ⟨c.rest.drop n, c.mark.along n⟩

/-- Skips the characters that satisfy `p`, all in the line. -/
def skipWhile (p : Char → Bool) (c : Cursor) : Cursor := c.skip (c.rest.takeWhile p).length

/-- Takes the characters that satisfy `p`, all in the line. -/
def takeWhile (p : Char → Bool) (c : Cursor) : List Char × Cursor :=
  (c.rest.takeWhile p, c.skipWhile p)

/-- Skips to the end of the line. -/
def skipToBreak (c : Cursor) : Cursor := c.skipWhile (!isBreak ·)

/-- Skips a line end; gives how it reads. -/
def skipBreak (c : Cursor) : List Char × Cursor :=
  match c.rest with
  | '\r' :: '\n' :: rest => (['\n'], ⟨rest, c.mark.nextLine 2⟩)
  | b :: rest => if isBreak b then ([breakText b], ⟨rest, c.mark.nextLine 1⟩) else ([], c)
  | [] => ([], c)

/-- A line that starts or ends a document begins here. -/
def atDocumentLine (c : Cursor) : Bool :=
  c.mark.column = 0 &&
    match c.rest with
    | '-' :: '-' :: '-' :: rest => endsWord rest
    | '.' :: '.' :: '.' :: rest => endsWord rest
    | _ => false

end Cursor

end TermBot.Yaml
