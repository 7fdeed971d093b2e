import TermBot.Json.Basic
import TermBot.Json.Fault

/-!
# Reading JSON

`Json.read` reads a text that is one value, `Json.readFirst` the value at the start of a text and
ignores what follows. Half of a surrogate pair reads as U+FFFD. Arrays and objects nest no deeper than
`maxNesting`.
-/

namespace TermBot.Json

/-- The deepest nesting that is read. -/
def maxNesting : Nat := 10000

/-- A blank of JSON. -/
def isSpace (c : Char) : Bool := c = ' ' || c = '\t' || c = '\r' || c = '\n'

/-- Skips blanks. -/
def skipSpace (cs : List Char) : List Char := cs.dropWhile isSpace

/-- A hexadecimal digit. -/
def isHexDigit (c : Char) : Bool := (Text.digitValue? c).any (· < 16)

/-- A number of four hexadecimal digits, with the text after it. -/
def hex4? (cs : List Char) : Option (Nat × List Char) :=
  let ds := (cs.take 4).takeWhile isHexDigit
  if ds.length = 4 then
    some (ds.foldl (fun n d => 16 * n + (Text.digitValue? d).getD 0) 0, cs.drop 4)
  else none

/-- The first half of a surrogate pair. -/
def isHighSurrogate (n : Nat) : Bool := 0xD800 ≤ n && n < 0xDC00

/-- The second half of a surrogate pair. -/
def isLowSurrogate (n : Nat) : Bool := 0xDC00 ≤ n && n < 0xE000

/-- The character of a code unit, which a following unit may complete; with the text after it. -/
def unitChar (n : Nat) (rest : List Char) : Char × List Char :=
  if isHighSurrogate n then
    match rest with
    | '\\' :: 'u' :: more =>
      match hex4? more with
      | some (m, after) =>
        if isLowSurrogate m then
          (Char.ofNat (0x10000 + (n - 0xD800) * 0x400 + (m - 0xDC00)), after)
        else (Char.ofNat 0xFFFD, rest)
      | none => (Char.ofNat 0xFFFD, rest)
    | _ => (Char.ofNat 0xFFFD, rest)
  else if isLowSurrogate n then (Char.ofNat 0xFFFD, rest)
  else (Char.ofNat n, rest)

/-- The character that a single-letter escape stands for. -/
def simpleEscape? : Char → Option Char
  | '"' => some '"'
  | '\\' => some '\\'
  | '/' => some '/'
  | 'b' => some '\x08'
  | 'f' => some '\x0c'
  | 'n' => some '\n'
  | 'r' => some '\r'
  | 't' => some '\t'
  | _ => none

/-- The rest of a string after its opening quote; `acc` holds what was read, last character
first. -/
def stringTail : (limit : Nat) → (acc : List Char) → List Char → Except Fault (String × List Char)
  | 0, _, _ => .error .ended
  | _ + 1, _, [] => .error .ended
  | n + 1, acc, c :: rest =>
    if c = '"' then .ok (String.ofList acc.reverse, rest)
    else if c = '\\' then
      match rest with
      | 'u' :: more =>
        match hex4? more with
        | some (unit, more) =>
          let (ch, more) := unitChar unit more
          stringTail n (ch :: acc) more
        | none => .error (.ofUnit (c :: rest))
      | e :: more =>
        match simpleEscape? e with
        | some ch => stringTail n (ch :: acc) more
        | none => .error (.badEscape ((Text.bytesOf [c, e]).take 2))
      | [] => .error .ended
    else if c.toNat < 0x20 then .error (.misplaced c .string)
    else stringTail n (c :: acc) rest

/-- A decimal digit. -/
def isDigit (c : Char) : Bool := '0' ≤ c && c ≤ '9'

/-- One digit or more; `p` is where they should stand. -/
def digitRun (p : Place) (cs : List Char) : Except Fault (List Char × List Char) :=
  match cs.takeWhile isDigit with
  | [] => .error (.here p cs)
  | ds => .ok (ds, cs.dropWhile isDigit)

/-- The digits before the point: no zero leads a longer number. -/
def wholePart (p : Place) : List Char → Except Fault (List Char × List Char)
  | '0' :: rest => .ok (['0'], rest)
  | cs => digitRun p cs

/-- The point with its digits, if there. -/
def fractionPart : List Char → Except Fault (List Char × List Char)
  | '.' :: rest => do
    let (ds, rest) ← digitRun .number rest
    return ('.' :: ds, rest)
  | cs => .ok ([], cs)

/-- The exponent, if there. -/
def exponentPart : List Char → Except Fault (List Char × List Char)
  | e :: rest =>
    if e = 'e' || e = 'E' then
      match rest with
      | s :: more =>
        if s = '+' || s = '-' then do
          let (ds, more) ← digitRun .number more
          return (e :: s :: ds, more)
        else do
          let (ds, more) ← digitRun .number rest
          return (e :: ds, more)
      | [] => .error .ended
    else .ok ([], e :: rest)
  | [] => .ok ([], [])

/-- A number with the text after it. -/
def number (cs : List Char) : Except Fault (Json × List Char) := do
  let (sign, cs, p) := match cs with
    | '-' :: rest => (['-'], rest, Place.number)
    | _ => ([], cs, Place.value)
  let (whole, cs) ← wholePart p cs
  let (fraction, cs) ← fractionPart cs
  let (exponent, cs) ← exponentPart cs
  return (num (String.ofList (sign ++ whole ++ fraction ++ exponent)), cs)

/-- The rest of a word; gives the text after it. -/
def wordTail (word : String) : (expected : List Char) → List Char → Except Fault (List Char)
  | [], cs => .ok cs
  | _ :: _, [] => .error .ended
  | e :: es, c :: cs => if e = c then wordTail word es cs else .error (.misplaced c (.word word e))

mutual

/-- The value at the start of a text, after blanks, with the text after it. Every step takes from
`limit`; `nesting` is the number of arrays and objects that may still be opened. -/
def value : (limit : Nat) → (nesting : Nat) → List Char → Except Fault (Json × List Char)
  | 0, _, _ => .error .ended
  | n + 1, nesting, cs =>
    match skipSpace cs with
    | '"' :: rest => do
      let (s, rest) ← stringTail (rest.length + 1) [] rest
      return (str s, rest)
    | '[' :: rest =>
      match nesting, skipSpace rest with
      | 0, _ => .error .tooDeep
      | _ + 1, ']' :: rest => .ok (arr [], rest)
      | m + 1, rest => do
        let (xs, rest) ← items n m rest
        return (arr xs, rest)
    | '\x7b' :: rest =>
      match nesting, skipSpace rest with
      | 0, _ => .error .tooDeep
      | _ + 1, '\x7d' :: rest => .ok (obj [], rest)
      | m + 1, rest => do
        let (ms, rest) ← members n m rest
        return (obj ms, rest)
    | 't' :: rest => do return (bool true, ← wordTail "true" ['r', 'u', 'e'] rest)
    | 'f' :: rest => do return (bool false, ← wordTail "false" ['a', 'l', 's', 'e'] rest)
    | 'n' :: rest => do return (null, ← wordTail "null" ['u', 'l', 'l'] rest)
    | cs => number cs

/-- The items of an array up to its closing bracket. -/
def items : (limit : Nat) → (nesting : Nat) → List Char → Except Fault (List Json × List Char)
  | 0, _, _ => .error .ended
  | n + 1, m, cs => do
    let (x, rest) ← value n m cs
    match skipSpace rest with
    | ',' :: rest => do
      let (xs, rest) ← items n m rest
      return (x :: xs, rest)
    | ']' :: rest => return ([x], rest)
    | rest => .error (.here .afterItem rest)

/-- The members of an object up to its closing brace. -/
def members : (limit : Nat) → (nesting : Nat) → List Char →
    Except Fault (List (String × Json) × List Char)
  | 0, _, _ => .error .ended
  | n + 1, m, cs => do
    match skipSpace cs with
    | '"' :: rest => do
      let (k, rest) ← stringTail (rest.length + 1) [] rest
      match skipSpace rest with
      | ':' :: rest => do
        let (v, rest) ← value n m rest
        match skipSpace rest with
        | ',' :: rest => do
          let (ms, rest) ← members n m rest
          return ((k, v) :: ms, rest)
        | '\x7d' :: rest => return ([(k, v)], rest)
        | rest => .error (.here .afterMember rest)
      | rest => .error (.here .afterName rest)
    | rest => .error (.here .name rest)

end

/-- The value at the start of a text, with the text after it. Each level takes a character within two
steps. -/
def leading (cs : List Char) : Except Fault (Json × List Char) :=
  if (skipSpace cs).isEmpty then .error .nothing else value (2 * cs.length + 2) maxNesting cs

/-- The value that a text is. -/
def read (s : String) : Except Fault Json := do
  let (v, rest) ← leading s.toList
  match skipSpace rest with
  | [] => return v
  | c :: _ => .error (.misplaced c .afterValue)

/-- The value that a text is, if it is one. -/
def read? (s : String) : Option Json := (read s).toOption

/-- The first value of a text. -/
def readFirst (s : String) : Except Fault Json := (·.1) <$> leading s.toList

end TermBot.Json
