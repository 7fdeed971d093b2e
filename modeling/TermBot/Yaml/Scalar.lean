import TermBot.Text.Numeral
import TermBot.Yaml.Cursor

/-!
# The texts of scalars

A scalar stands plain, between quotes, or in a block of its own. What lies between two of its words
is a gap: blanks in one line are kept, a single line end reads as a space, and of several line ends
the first is dropped. A block keeps its line ends or folds them in the same way.
-/

namespace TermBot.Yaml

/-- What lies between two words of a scalar. -/
structure Gap where
  /-- Blanks in the line of the first word. -/
  blanks : List Char := []
  /-- The line has ended. -/
  broken : Bool := false
  /-- The first line end. -/
  lead : List Char := []
  /-- The line ends after the first. -/
  trail : List Char := []
  deriving DecidableEq, Repr

/-- One more line end. -/
def Gap.breakLine (g : Gap) (b : List Char) : Gap :=
  if g.broken then { g with trail := g.trail ++ b }
  else { g with blanks := [], broken := true, lead := b }

/-- How a line end and those after it read when they are folded. -/
def fold (lead trail : List Char) : List Char :=
  if lead.head? = some '\n' then if trail.isEmpty then [' '] else trail else lead ++ trail

/-- How a gap reads. -/
def Gap.text (g : Gap) : List Char := if g.broken then fold g.lead g.trail else g.blanks

/-- Reads on in a gap. No tab may stand left of column `limit` in a later line. -/
def Gap.scan (limit : Nat) : List Char → Mark → Gap → Option (Gap × Cursor)
  | [], m, g => some (g, ⟨[], m⟩)
  | '\r' :: '\n' :: rest, m, g => scan limit rest (m.nextLine 2) (g.breakLine ['\n'])
  | c :: rest, m, g =>
    if isGap c then
      if g.broken then
        if c = '\t' && m.column < limit then none else scan limit rest (m.along 1) g
      else scan limit rest (m.along 1) { g with blanks := g.blanks ++ [c] }
    else if isBreak c then scan limit rest (m.nextLine 1) (g.breakLine [breakText c])
    else some (g, ⟨c :: rest, m⟩)

/-- A scalar with the text after it. -/
structure Scanned where
  text : List Char
  /-- It ended in an earlier line. -/
  broken : Bool
  cursor : Cursor

/-- A plain scalar ends before this text; inside brackets more characters end it. -/
def endsPlain (inFlow : Bool) : List Char → Bool
  | [] => true
  | c :: rest =>
    isGap c || isBreak c || (c = ':' && endsWord rest) ||
      (inFlow && [',', '?', '[', ']', '\x7b', '\x7d'].contains c)

/-- The word of a plain scalar, and how long it is. -/
def plainWord (inFlow : Bool) : List Char → List Char
  | [] => []
  | c :: rest => if endsPlain inFlow (c :: rest) then [] else c :: plainWord inFlow rest

/-- A plain scalar. Outside brackets its later lines are indented to column `indent`. -/
def plainScalar (inFlow : Bool) (indent : Nat) :
    (limit : Nat) → Cursor → (text : List Char) → Gap → Option Scanned
  | 0, _, _, _ => none
  | n + 1, c, text, gap =>
    if c.atDocumentLine || c.rest.head? = some '#' then some ⟨text, gap.broken, c⟩
    else
      let word := plainWord inFlow c.rest
      let c := c.skip word.length
      let (text, gap) := if word.isEmpty then (text, gap) else (text ++ gap.text ++ word, {})
      match c.rest with
      | [] => some ⟨text, gap.broken, c⟩
      | h :: _ =>
        if isGap h || isBreak h then do
          let (gap, c) ← Gap.scan indent c.rest c.mark gap
          if !inFlow && c.mark.column < indent then return ⟨text, gap.broken, c⟩
          else plainScalar inFlow indent n c text gap
        else some ⟨text, gap.broken, c⟩

/-- The character of a code point that is written as an escape. -/
def codePoint? (digits : List Char) : Option Char := do
  let n ← (Text.digits 16 digits).toOption
  if (0xD800 ≤ n && n ≤ 0xDFFF) || 0x10FFFF < n then none else return Char.ofNat n

/-- The character that an escape stands for, and the number of characters after the backslash. -/
def escape? : List Char → Option (Char × Nat)
  | 'x' :: rest => if rest.length < 2 then none else (codePoint? (rest.take 2)).map (·, 3)
  | 'u' :: rest => if rest.length < 4 then none else (codePoint? (rest.take 4)).map (·, 5)
  | 'U' :: rest => if rest.length < 8 then none else (codePoint? (rest.take 8)).map (·, 9)
  | '0' :: _ => some (Char.ofNat 0, 1)
  | 'a' :: _ => some ('\x07', 1)
  | 'b' :: _ => some ('\x08', 1)
  | 't' :: _ => some ('\t', 1)
  | '\t' :: _ => some ('\t', 1)
  | 'n' :: _ => some ('\n', 1)
  | 'v' :: _ => some ('\x0b', 1)
  | 'f' :: _ => some ('\x0c', 1)
  | 'r' :: _ => some ('\r', 1)
  | 'e' :: _ => some ('\x1b', 1)
  | ' ' :: _ => some (' ', 1)
  | '"' :: _ => some ('"', 1)
  | '\'' :: _ => some ('\'', 1)
  | '\\' :: _ => some ('\\', 1)
  | 'N' :: _ => some (Char.ofNat 0x85, 1)
  | '_' :: _ => some (Char.ofNat 0xA0, 1)
  | 'L' :: _ => some (Char.ofNat 0x2028, 1)
  | 'P' :: _ => some (Char.ofNat 0x2029, 1)
  | _ => none

/-- A word between quotes, up to a blank, a line end or the closing quote. The flag says that the word
ends with an escaped line end. -/
def quotedWord (single : Bool) :
    (limit : Nat) → Cursor → (text : List Char) → Option (List Char × Bool × Cursor)
  | 0, _, _ => none
  | n + 1, c, text =>
    match c.rest with
    | '\'' :: '\'' :: _ =>
      if single then quotedWord single n (c.skip 2) (text ++ ['\''])
      else quotedWord single n (c.skip 1) (text ++ ['\''])
    | '\'' :: _ =>
      if single then some (text, false, c) else quotedWord single n (c.skip 1) (text ++ ['\''])
    | '"' :: _ =>
      if single then quotedWord single n (c.skip 1) (text ++ ['"']) else some (text, false, c)
    | '\\' :: rest =>
      if single then quotedWord single n (c.skip 1) (text ++ ['\\'])
      else if !rest.isEmpty && endsLine rest then some (text, true, (c.skip 1).skipBreak.2)
      else do
        let (e, k) ← escape? rest
        quotedWord single n (c.skip (k + 1)) (text ++ [e])
    | h :: _ =>
      if isGap h || isBreak h then some (text, false, c)
      else quotedWord single n (c.skip 1) (text ++ [h])
    | [] => some (text, false, c)

/-- A scalar between quotes, from behind the opening one. -/
def quotedScalar (single : Bool) : (limit : Nat) → Cursor → (text : List Char) → Option Scanned
  | 0, _, _ => none
  | n + 1, c, text =>
    if c.atDocumentLine || c.rest.isEmpty then none
    else do
      let (text, escaped, c) ← quotedWord single (c.rest.length + 1) c text
      if c.rest.head? = some (if single then '\'' else '"') then return ⟨text, false, c.skip 1⟩
      else
        let (gap, c) ← Gap.scan 0 c.rest c.mark { broken := escaped }
        quotedScalar single n c (text ++ gap.text)

/-- How a block ends: without a line end, with one, or with all of them. -/
inductive Chomping where
  | strip
  | clip
  | keep
  deriving DecidableEq, Repr

/-- The line ends and the indentation before the next line of a block, with the widest indentation
seen. Indentation 0 is yet to be found. -/
def blockBreaks (indent : Nat) : List Char → Mark → (widest : Nat) → (text : List Char) →
    Option (List Char × Nat × Cursor)
  | [], m, widest, text => some (text, max widest m.column, ⟨[], m⟩)
  | '\r' :: '\n' :: rest, m, widest, text =>
    blockBreaks indent rest (m.nextLine 2) (max widest m.column) (text ++ ['\n'])
  | c :: rest, m, widest, text =>
    let outside := indent = 0 || m.column < indent
    if c = ' ' && outside then blockBreaks indent rest (m.along 1) widest text
    else if c = '\t' && outside then none
    else if isBreak c then
      blockBreaks indent rest (m.nextLine 1) (max widest m.column) (text ++ [breakText c])
    else some (text, max widest m.column, ⟨c :: rest, m⟩)

/-- The lines of a block. -/
def blockLines (literal : Bool) (indent : Nat) : (limit : Nat) → Cursor → (text : List Char) →
    (afterBlank : Bool) → (lead trail : List Char) → Option (List Char × List Char × List Char × Cursor)
  | 0, _, _, _, _, _ => none
  | n + 1, c, text, afterBlank, lead, trail =>
    match c.rest with
    | [] => some (text, lead, trail, c)
    | h :: _ =>
      if c.mark.column ≠ indent then some (text, lead, trail, c)
      else do
        let blank := isGap h
        let joint :=
          if !literal && !afterBlank && !blank && lead.head? = some '\n' then
            if trail.isEmpty then [' '] else []
          else lead
        let (line, c) := c.takeWhile (!isBreak ·)
        let (lead, c) := c.skipBreak
        let (breaks, _, c) ← blockBreaks indent c.rest c.mark 0 []
        blockLines literal indent n c (text ++ joint ++ trail ++ line) blank lead breaks

/-- The marks behind the sign of a block: how it ends and how far it is indented, in either order. -/
def blockHeader? (c : Cursor) : Option (Chomping × Nat × Cursor) :=
  let chomp (c : Cursor) : Chomping × Cursor :=
    match c.rest with
    | '+' :: _ => (.keep, c.skip 1)
    | '-' :: _ => (.strip, c.skip 1)
    | _ => (.clip, c)
  let digit (c : Cursor) : Option (Nat × Cursor) :=
    match c.rest with
    | d :: _ =>
      if d = '0' then none
      else if '1' ≤ d && d ≤ '9' then some (d.toNat - '0'.toNat, c.skip 1)
      else some (0, c)
    | [] => some (0, c)
  match chomp c with
  | (.clip, c) => do
    let (n, c) ← digit c
    let (k, c) := if n = 0 then (.clip, c) else chomp c
    return (k, n, c)
  | (k, c) => do
    let (n, c) ← digit c
    return (k, n, c)

/-- A block scalar, from behind its sign, inside a collection that is indented to `parent`. -/
def blockScalar? (literal : Bool) (parent : Int) (c : Cursor) : Option Scanned := do
  let (chomping, step, c) ← blockHeader? c
  let c := c.skipWhile isGap
  let c := if c.rest.head? = some '#' then c.skipToBreak else c
  if !endsLine c.rest then none
  else
    let c := c.skipBreak.2
    let indent := if step = 0 then 0 else (if 0 ≤ parent then parent.toNat else 0) + step
    let (breaks, widest, c) ← blockBreaks indent c.rest c.mark 0 []
    let indent := if indent = 0 then max (max widest (parent + 1).toNat) 1 else indent
    let (text, lead, trail, c) ← blockLines literal indent (c.rest.length + 1) c [] false [] breaks
    let tail := match chomping with
      | .strip => []
      | .clip => lead
      | .keep => lead ++ trail
    return ⟨text ++ tail, true, c⟩

end TermBot.Yaml
