import TermBot.Surface.Position
import TermBot.Text.Blank
import TermBot.Text.Letter
import TermBot.Text.Digit

/-!
# Tokens

`tokens` splits a source into tokens. Blanks and comments, from `--` to the end of the line, are
skipped; a character that starts no token is a token of its own, of kind `illegal`. The last token is
always the end of input.
-/

namespace TermBot.Surface

open Text (Scalar)

/-- What a token is. -/
inductive TokenKind where
  | eof
  | illegal
  | ident
  | number
  | lambda
  | quantifier
  | letKeyword
  | inKeyword
  | dot
  | lparen
  | rparen
  | colon
  | equals
  | arrow
  deriving DecidableEq, Repr, Inhabited

/-- The kinds in the order of their numbers. -/
def TokenKind.all : List TokenKind :=
  [.eof, .illegal, .ident, .number, .lambda, .quantifier, .letKeyword, .inKeyword, .dot, .lparen,
   .rparen, .colon, .equals, .arrow]

/-- The number of a kind. -/
def TokenKind.code (k : TokenKind) : Nat := TokenKind.all.idxOf k

/-- How a message calls a kind. -/
def TokenKind.label : TokenKind → String
  | .eof => "end of input"
  | .illegal => "illegal character"
  | .ident => "identifier"
  | .number => "number"
  | .lambda => "`λ`"
  | .quantifier => "`∀`"
  | .letKeyword => "`let`"
  | .inKeyword => "`in`"
  | .dot => "`.`"
  | .lparen => "`(`"
  | .rparen => "`)`"
  | .colon => "`:`"
  | .equals => "`=`"
  | .arrow => "`→`"

/-- The label of the kind with a number; an unknown number is shown itself. -/
def TokenKind.labelOfCode (n : Int) : String :=
  match if n < 0 then none else TokenKind.all[n.toNat]? with
  | some k => k.label
  | none => s!"token({n})"

/-- A token with its text and the place where it starts. -/
structure Token where
  kind : TokenKind
  lit : String
  pos : Pos
  deriving DecidableEq, Repr, Inhabited

/-- How a message calls a token that it found. -/
def Token.describe (t : Token) : String :=
  match t.kind with
  | .ident | .number | .illegal => "`" ++ t.lit ++ "`"
  | k => k.label

/-- The token at the end of a source. -/
def Token.atEnd (stop : Pos) : Token := ⟨.eof, "", stop⟩

/-- An unread rest of a source and the place where it starts. -/
structure Cursor where
  pos : Pos
  rest : Source
  deriving DecidableEq, Repr

/-- Skips blanks and comments; `inComment` says that a comment is being skipped. -/
def skipFrom (inComment : Bool) (pos : Pos) : Source → Cursor
  | [] => ⟨pos, []⟩
  | r :: rest =>
    if inComment then skipFrom (r.char ≠ '\n') (pos.after r) rest
    else if Text.isBlank r.char then skipFrom false (pos.after r) rest
    else if r.char = '-' && rest.head?.any (·.char = '-') then skipFrom true (pos.after r) rest
    else ⟨pos, r :: rest⟩

/-- The cursor at the next token. -/
def Cursor.skip (c : Cursor) : Cursor := skipFrom false c.pos c.rest

/-- Starts an identifier. -/
def isIdentStart (c : Char) : Bool := c = '_' || (Text.isLetter c && c ≠ 'λ')

/-- Continues an identifier. -/
def isIdentPart (c : Char) : Bool :=
  c = '_' || c = '\'' || Text.isDigit c || (Text.isLetter c && c ≠ 'λ')

/-- Symbols of one character. -/
def symbol? : Char → Option TokenKind
  | '\\' => some .lambda
  | 'λ' => some .lambda
  | '∀' => some .quantifier
  | '→' => some .arrow
  | '.' => some .dot
  | '(' => some .lparen
  | ')' => some .rparen
  | ':' => some .colon
  | '=' => some .equals
  | _ => none

/-- The kind of a word: a keyword or an identifier. -/
def wordKind : String → TokenKind
  | "forall" => .quantifier
  | "let" => .letKeyword
  | "in" => .inKeyword
  | _ => .ident

/-- The kind of the token that starts with `r`, and how many of the scalars after `r` it takes. -/
def tokenAt (r : Scalar) (rest : Source) : TokenKind × Nat :=
  match symbol? r.char with
  | some k => (k, 0)
  | none =>
    if r.char = '-' then
      if rest.head?.any (·.char = '>') then (.arrow, 1) else (.illegal, 0)
    else if Text.isDigit r.char then
      (.number, (rest.takeWhile (Text.isDigit ·.char)).length)
    else if isIdentStart r.char then
      let tail := rest.takeWhile (isIdentPart ·.char)
      (wordKind (Text.shown (r :: tail)), tail.length)
    else (.illegal, 0)

/-- The next token and the cursor after it. -/
def Cursor.next (c : Cursor) : Token × Cursor :=
  let start := c.skip
  match start.rest with
  | [] => (.atEnd start.pos, start)
  | r :: rest =>
    let (kind, more) := tokenAt r rest
    let taken := r :: rest.take more
    (⟨kind, Text.shown taken, start.pos⟩, ⟨start.pos.afterAll taken, rest.drop more⟩)

/-- The cursor at the start of a source. -/
def Cursor.ofSource (src : Source) : Cursor := ⟨.start, src⟩

/-- The tokens from a cursor on, at most `limit` of them. -/
def tokensFrom : (limit : Nat) → Cursor → List Token
  | 0, _ => []
  | n + 1, c =>
    let (t, c') := c.next
    if t.kind = .eof then [t] else t :: tokensFrom n c'

/-- All tokens of a source. Each takes a scalar and one ends it, so there are no more than the limit. -/
def tokens (src : Source) : List Token := tokensFrom (src.length + 1) (.ofSource src)

end TermBot.Surface
