import TermBot.Text.Utf8

/-!
# Positions in a source

A source is a list of scalars. A position counts bytes from the start, lines and columns; a column is
one scalar wide, whatever its bytes.
-/

namespace TermBot.Surface

open Text (Scalar)

/-- The text of a program. -/
abbrev Source := List Scalar

/-- A place in a source: bytes before it, line and column from 1. -/
structure Pos where
  offset : Nat
  line : Nat
  col : Nat
  deriving DecidableEq, Repr, Inhabited

/-- The first place of a source. -/
def Pos.start : Pos := ⟨0, 1, 1⟩

/-- The place after one more scalar. -/
def Pos.after (p : Pos) (r : Scalar) : Pos :=
  if r.char = '\n' then ⟨p.offset + r.size, p.line + 1, 1⟩
  else ⟨p.offset + r.size, p.line, p.col + 1⟩

/-- The place after several scalars. -/
def Pos.afterAll (p : Pos) (rs : List Scalar) : Pos := rs.foldl Pos.after p

end TermBot.Surface
