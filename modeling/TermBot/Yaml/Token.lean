import TermBot.Text.Utf8
import TermBot.Yaml.Scalar

/-!
# The tokens of a YAML text

Blocks open and close with the indentation, and a key is only known to be one when the colon after it
is found. So a place where a key may have started is kept, one for every level of brackets, and the
tokens that open the block and announce the key are put in at that place afterwards.
-/

namespace TermBot.Yaml

/-- A token. -/
inductive Token where
  | streamStart
  | streamEnd
  | version (major minor : Nat)
  | tagShort (handle text : String)
  | documentStart
  | documentEnd
  | blockSequence
  | blockMapping
  | blockEnd
  | openBracket
  | closeBracket
  | openBrace
  | closeBrace
  | item
  | comma
  | key
  | value
  | reference (name : String)
  | anchor (name : String)
  | tag (handle suffix : String)
  | scalar (text : String) (plain : Bool)
  deriving DecidableEq, Repr

/-- A place where a key may have started. -/
structure KeyPlace where
  /-- Nothing but a key can stand there. -/
  required : Bool
  /-- The number of tokens before it. -/
  count : Nat
  mark : Mark
  deriving DecidableEq, Repr

/-- A scan that has come to some place. -/
structure Scan where
  cursor : Cursor
  /-- The tokens found, the last one first. -/
  tokens : List Token := []
  /-- The column of the innermost block; −1 outside all blocks. -/
  indent : Int := -1
  /-- The columns of the blocks around it. -/
  outer : List Int := []
  keyAllowed : Bool := true
  /-- The possible key outside brackets. -/
  blockKey : Option KeyPlace := none
  /-- The possible key of every level of brackets, the innermost first. -/
  flowKeys : List (Option KeyPlace) := []

/-- The deepest nesting that is read. -/
def maxNesting : Nat := 10000

namespace Scan

/-- Inside brackets. -/
def inFlow (s : Scan) : Bool := !s.flowKeys.isEmpty

/-- The possible key of the current level. -/
def keyPlace? (s : Scan) : Option KeyPlace :=
  match s.flowKeys with
  | [] => s.blockKey
  | k :: _ => k

/-- Changes the possible key of the current level. -/
def setKey (s : Scan) (k : Option KeyPlace) : Scan :=
  match s.flowKeys with
  | [] => { s with blockKey := k }
  | _ :: ks => { s with flowKeys := k :: ks }

/-- Adds a token. -/
def push (s : Scan) (t : Token) : Scan := { s with tokens := t :: s.tokens }

/-- Puts tokens in behind the first `count` tokens. -/
def insert (s : Scan) (count : Nat) (ts : List Token) : Scan :=
  let later := s.tokens.length - count
  { s with tokens := s.tokens.take later ++ ts.reverse ++ s.tokens.drop later }

/-- Closes the blocks right of a column. -/
def unrollOver (column : Int) : List Int → Scan → Scan
  | [], s => s
  | o :: os, s =>
    if column < s.indent then unrollOver column os { s.push .blockEnd with indent := o, outer := os }
    else s

/-- Closes the blocks right of a column; inside brackets indentation does not count. -/
def unroll (column : Int) (s : Scan) : Scan :=
  if s.inFlow then s else unrollOver column s.outer s

/-- Opens a block at a column right of the current one, behind the first `count` tokens. -/
def roll? (column count : Nat) (t : Token) (s : Scan) : Option Scan :=
  if s.inFlow || (column : Int) ≤ s.indent then some s
  else if maxNesting ≤ s.outer.length then none
  else some { s.insert count [t] with indent := column, outer := s.indent :: s.outer }

/-- Gives a possible key up, which a required one forbids. -/
def dropKey? (s : Scan) : Option Scan :=
  match s.keyPlace? with
  | some k => if k.required then none else some (s.setKey none)
  | none => some s

/-- Notes that a key may start here. -/
def noteKey? (s : Scan) : Option Scan :=
  if s.keyAllowed then do
    let s ← s.dropKey?
    return s.setKey (some ⟨!s.inFlow && s.indent = s.cursor.mark.column, s.tokens.length,
      s.cursor.mark⟩)
  else some s

/-- Skips `n` characters. -/
def skip (n : Nat) (s : Scan) : Scan := { s with cursor := s.cursor.skip n }

/-- Skips comments: a whole line, and the lines after it that hold only comments. -/
def skipComments : (limit : Nat) → Cursor → Cursor
  | 0, c => c
  | n + 1, c =>
    let c := c.skipToBreak
    match Gap.scan 0 c.rest c.mark {} with
    | some (_, next) => if next.rest.head? = some '#' then skipComments n next else c
    | none => c

/-- Skips blanks, comments and line ends. In a block a new line allows a key, and no tab stands where
a key is allowed. -/
def toToken : (limit : Nat) → Scan → Scan
  | 0, s => s
  | n + 1, s =>
    let c := s.cursor
    let c := if c.mark.column = 0 && c.rest.head? = some byteOrderMark then c.skip 1 else c
    let c := c.skipWhile fun x => x = ' ' || ((s.inFlow || !s.keyAllowed) && x = '\t')
    let c := if c.rest.head? = some '#' then skipComments (c.rest.length + 1) c else c
    if !c.rest.isEmpty && endsLine c.rest then
      toToken n { s with cursor := c.skipBreak.2, keyAllowed := s.keyAllowed || !s.inFlow }
    else { s with cursor := c }

/-- Skips a comment in the line of the last token, unless that is the dash of an item. -/
def skipLineComment (s : Scan) : Scan :=
  if s.tokens.head? = some .item then s
  else
    let c := s.cursor.skipWhile isGap
    if c.rest.head? = some '#' then { s with cursor := c.skipToBreak } else s

/-- A number in a directive has at most two digits. -/
def versionNumber? (c : Cursor) : Option (Nat × Cursor) :=
  let (ds, c) := c.takeWhile fun x => '0' ≤ x && x ≤ '9'
  if ds.isEmpty || 2 < ds.length then none
  else (Text.digits 10 ds).toOption.map (·, c)

/-- The handle of a tag: `!`, `!name` or `!name!`. -/
def tagHandle? (c : Cursor) : Option (List Char × Cursor) :=
  match c.rest with
  | '!' :: _ =>
    let (name, c) := (c.skip 1).takeWhile isWordChar
    match c.rest with
    | '!' :: _ => some ('!' :: name ++ ['!'], c.skip 1)
    | _ => some ('!' :: name, c)
  | _ => none

/-- May stand in the text of a tag. -/
def isTagChar (c : Char) : Bool := isWordChar c || ";/?:@&=+$,.!~*'()[]%".toList.contains c

/-- The octets of escapes that start here, as many as the first one asks for. -/
def escapedOctets? (c : Cursor) : Option (List UInt8 × Cursor) :=
  let octet (c : Cursor) : Option (UInt8 × Cursor) :=
    match c.rest with
    | '%' :: a :: b :: _ => (Text.digits 16 [a, b]).toOption.map fun n => (UInt8.ofNat n, c.skip 3)
    | _ => none
  let more : (n : Nat) → Cursor → Option (List UInt8 × Cursor) := fun n c =>
    (List.range n).foldlM (fun (acc, c) _ => do
      let (b, c) ← octet c
      if Text.isContinuation b then return (acc ++ [b], c) else none) ([], c)
  do
    let (b, c) ← octet c
    let size ←
      if b < 0x80 then some 0
      else if 0xC0 ≤ b && b < 0xE0 then some 1
      else if 0xE0 ≤ b && b < 0xF0 then some 2
      else if 0xF0 ≤ b && b < 0xF8 then some 3
      else none
    let (bs, c) ← more size c
    return (b :: bs, c)

/-- The text of a tag. -/
def tagText? : (limit : Nat) → Cursor → (text : List Char) → Option (List Char × Cursor)
  | 0, _, _ => none
  | n + 1, c, text =>
    match c.rest with
    | '%' :: _ => do
      let (bs, c) ← escapedOctets? c
      tagText? n c (text ++ (Text.decode bs).map Text.Scalar.char)
    | x :: _ => if isTagChar x then tagText? n (c.skip 1) (text ++ [x]) else some (text, c)
    | [] => some (text, c)

/-- The text of a tag, which may not be empty. -/
def someTagText? (c : Cursor) : Option (List Char × Cursor) := do
  let (text, c) ← tagText? (c.rest.length + 1) c []
  if text.isEmpty then none else return (text, c)

/-- A tag. -/
def tag? (c : Cursor) : Option (Token × Cursor) := do
  let (t, c) ← match c.rest with
    | '!' :: '<' :: _ => do
      let (text, c) ← someTagText? (c.skip 2)
      if c.rest.head? = some '>' then some (Token.tag "" (String.ofList text), c.skip 1) else none
    | _ => do
      let (handle, c) ← tagHandle? c
      if 1 < handle.length && handle.getLast? = some '!' then
        let (text, c) ← someTagText? c
        some (Token.tag (String.ofList handle) (String.ofList text), c)
      else
        let (text, c) ← tagText? (c.rest.length + 1) c handle.tail
        some (if text.isEmpty then Token.tag "" "!" else Token.tag "!" (String.ofList text), c)
  if endsWord c.rest then return (t, c) else none

/-- A line with a directive. -/
def directive? (c : Cursor) : Option (Token × Cursor) := do
  let (name, c) := (c.skip 1).takeWhile isWordChar
  if name.isEmpty || !endsWord c.rest then none
  else
    let c := c.skipWhile isGap
    let (t, c) ← match String.ofList name with
      | "YAML" => do
        let (major, c) ← versionNumber? c
        if c.rest.head? ≠ some '.' then none
        else
          let (minor, c) ← versionNumber? (c.skip 1)
          some (Token.version major minor, c)
      | "TAG" => do
        let (handle, c) ← tagHandle? c
        if (handle ≠ ['!'] && handle.getLast? ≠ some '!') || !(c.rest.head?.any isGap) then none
        else
          let (text, c) ← someTagText? (c.skipWhile isGap)
          if endsWord c.rest then
            some (Token.tagShort (String.ofList handle) (String.ofList text), c)
          else none
      | _ => none
    let c := c.skipWhile isGap
    let c := if c.rest.head? = some '#' then c.skipToBreak else c
    if endsLine c.rest then return (t, c.skipBreak.2) else none

/-- A name behind `&` or `*`. -/
def anchorName? (c : Cursor) : Option (String × Cursor) :=
  let (name, c) := (c.skip 1).takeWhile isWordChar
  let ended := endsWord c.rest || c.rest.head?.any ("?:,]\x7d%@`".toList.contains ·)
  if name.isEmpty || !ended then none else some (String.ofList name, c)

/-- A token that leaves all blocks. -/
def outside? (s : Scan) : Option Scan := do
  let s ← (s.unroll (-1)).dropKey?
  return { s with keyAllowed := false }

/-- An opening bracket. -/
def opening? (t : Token) (s : Scan) : Option Scan := do
  let s ← s.noteKey?
  if maxNesting ≤ s.flowKeys.length then none
  else
    let s := s.skip 1
    return { s.push t with flowKeys := none :: s.flowKeys, keyAllowed := true }

/-- A closing bracket. -/
def closing? (t : Token) (s : Scan) : Option Scan := do
  let s ← s.dropKey?
  return { (s.skip 1).push t with flowKeys := s.flowKeys.tail, keyAllowed := false }

/-- The sign of an item or of a key that stands alone. -/
def sign? (block t : Token) (s : Scan) : Option Scan := do
  if !s.inFlow && !s.keyAllowed then none
  else
    let s ← s.roll? s.cursor.mark.column s.tokens.length block
    let s ← s.dropKey?
    return { (s.skip 1).push t with keyAllowed := t = .item || !s.inFlow }

/-- A key is at most this many characters long and stands in one line. -/
def maxKeyLength : Nat := 1024

/-- The colon before a value. -/
def value? (s : Scan) : Option Scan := do
  let here := s.cursor.mark
  let late (k : KeyPlace) := k.mark.line < here.line || k.mark.index + maxKeyLength < here.index
  match s.keyPlace? with
  | some k =>
    if late k then
      if k.required then none else complex (s.setKey none)
    else do
      let s := s.insert k.count [.key]
      let s ← s.roll? k.mark.column k.count .blockMapping
      let s := { s.setKey none with keyAllowed := false }
      return (s.skip 1).push .value
  | none => complex s
where
  /-- The value of a key that stood alone. -/
  complex (s : Scan) : Option Scan := do
    if !s.inFlow && !s.keyAllowed then none
    else
      let s ← s.roll? s.cursor.mark.column s.tokens.length .blockMapping
      let s := { s with keyAllowed := !s.inFlow }
      return (s.skip 1).push .value

/-- An anchor, an alias or a tag: a key may start with it. -/
def property? (read : Cursor → Option (Token × Cursor)) (s : Scan) : Option Scan := do
  let s ← s.noteKey?
  let (t, c) ← read s.cursor
  return { s.push t with cursor := c, keyAllowed := false }

/-- A scalar between quotes. -/
def quoted? (single : Bool) (s : Scan) : Option Scan := do
  let s ← s.noteKey?
  let c := s.cursor.skip 1
  let r ← quotedScalar single (c.rest.length + 1) c []
  return { s.push (.scalar (String.ofList r.text) false) with cursor := r.cursor, keyAllowed := false }

/-- A plain scalar; the flag says that it ended in an earlier line. -/
def plain? (s : Scan) : Option (Scan × Bool) := do
  let s ← s.noteKey?
  let r ← plainScalar s.inFlow (s.indent + 1).toNat (s.cursor.rest.length + 1) s.cursor [] {}
  return ({ s.push (.scalar (String.ofList r.text) true) with
    cursor := r.cursor, keyAllowed := r.broken }, r.broken)

/-- A block scalar. -/
def block? (literal : Bool) (s : Scan) : Option Scan := do
  let s ← s.dropKey?
  let r ← blockScalar? literal s.indent (s.cursor.skip 1)
  return { s.push (.scalar (String.ofList r.text) false) with cursor := r.cursor, keyAllowed := true }

/-- A plain scalar may start with this text. -/
def startsPlain (inFlow : Bool) : List Char → Bool
  | [] => false
  | c :: rest =>
    if c = '-' then !(rest.head?.any isGap)
    else if c = '?' || c = ':' then !inFlow && !endsWord rest
    else !(isGap c || isBreak c || ",[]\x7b\x7d#&*!|>'\"%@`".toList.contains c)

/-- The next token, behind blanks. -/
def token? (s : Scan) : Option Scan := do
  let s := toToken (s.cursor.rest.length + 1) s
  let s := s.unroll s.cursor.mark.column
  let c := s.cursor
  let atStart := c.mark.column = 0
  match c.rest with
  | [] => do
    let s ← s.outside?
    return s.push .streamEnd
  | h :: rest =>
    if atStart && h = '%' then do
      let s ← s.outside?
      let (t, c) ← directive? s.cursor
      return { s.push t with cursor := c }
    else if c.atDocumentLine then do
      let s ← s.outside?
      return (s.skip 3).push (if h = '-' then .documentStart else .documentEnd)
    else
      let commented (s : Option Scan) := s.map skipLineComment
      match h with
      | '[' => commented (s.opening? .openBracket)
      | '\x7b' => commented (s.opening? .openBrace)
      | ']' => commented (s.closing? .closeBracket)
      | '\x7d' => commented (s.closing? .closeBrace)
      | ',' => commented do
        let s ← s.dropKey?
        return { (s.skip 1).push .comma with keyAllowed := true }
      | '*' => commented (s.property? fun c => (anchorName? c).map fun (n, c) => (.reference n, c))
      | '&' => commented (s.property? fun c => (anchorName? c).map fun (n, c) => (.anchor n, c))
      | '!' => commented (s.property? tag?)
      | '\'' => commented (s.quoted? true)
      | '"' => commented (s.quoted? false)
      | _ =>
        if h = '-' && endsWord rest then commented (s.sign? .blockSequence .item)
        else if h = '?' && (s.inFlow || endsWord rest) then commented (s.sign? .blockMapping .key)
        else if h = ':' && (s.inFlow || endsWord rest) then commented s.value?
        else if h = '|' && !s.inFlow then s.block? true
        else if h = '>' && !s.inFlow then s.block? false
        else if startsPlain s.inFlow c.rest then do
          let (s, broken) ← s.plain?
          return if broken then s else s.skipLineComment
        else none

/-- Scans to the end, or to the first place where no token can be found. -/
def run : (limit : Nat) → Scan → Scan × Bool
  | 0, s => (s, false)
  | n + 1, s =>
    match s.token? with
    | none => (s, false)
    | some s => if s.tokens.head? = some .streamEnd then (s, true) else run n s

end Scan

/-- The tokens of a text; the flag says that they reach its end. A text with a character that is not
allowed has none. -/
def scan (cs : List Char) : List Token × Bool :=
  let cs := if cs.head? = some byteOrderMark then cs.tail else cs
  if cs.all isAllowed then
    let (s, whole) := Scan.run (cs.length + 2) { cursor := ⟨cs, {}⟩, tokens := [.streamStart] }
    (s.tokens.reverse, whole)
  else ([], false)

/-- How many tokens beyond the next one a reader looks at. -/
def lookahead : Nat := 2

/-- The tokens that a reader gets to see: with a fault in the text, those that are not within reach
of it. -/
def visibleTokens (cs : List Char) : List Token :=
  match scan cs with
  | (ts, true) => ts
  | (ts, false) => ts.take (ts.length - lookahead)

end TermBot.Yaml
