import TermBot.Text.Blank

/-!
# Documents

A document describes every layout that a text may take: literal runs, line breaks that may be
flattened, indentation and groups. A group is laid out on one line when it fits. Columns are counted
with 64 bits.
-/

namespace TermBot

/-- A document. -/
inductive Doc where
  /-- The empty document. -/
  | nil
  /-- A literal run without line ends. -/
  | text (s : String)
  /-- A line end, or one space when flat. -/
  | line
  /-- A line end, or nothing when flat. -/
  | softLine
  /-- A line end that no group flattens. -/
  | hardLine
  /-- One document after the other. -/
  | append (first second : Doc)
  /-- The line ends inside are indented by `columns` more. -/
  | nest (columns : Int64) (body : Doc)
  /-- Flat when that fits, broken otherwise. -/
  | group (body : Doc)
  deriving Repr, DecidableEq, Inhabited

namespace Doc

instance : Append Doc := ⟨append⟩

/-- The documents one after another. -/
def concat : List Doc → Doc
  | [] => nil
  | [d] => d
  | d :: rest => d ++ concat rest

/-- The documents with `sep` between each two. -/
def join (sep : Doc) : List Doc → Doc
  | [] => nil
  | [d] => d
  | d :: rest => d ++ sep ++ join sep rest

/-- A single space that stays. -/
def space : Doc := text " "

/-- The document between parentheses. -/
def parens (d : Doc) : Doc := text "(" ++ d ++ text ")"

/-- A text of several lines, joined by line ends that stay. -/
def lines (s : String) : Doc :=
  join hardLine ((Text.splitAt '\n' s.toList).map fun cs => text (String.ofList cs))

end Doc

end TermBot
