import TermBot.Text.Quoted

/-!
# Integers in texts

Reading an integer either gives a value in range or one of two faults. A numeral is decimal, or its
spelling chooses the base: `0x`, `0o`, `0b` or a leading `0` for octal, with `_` between digits.
-/

namespace TermBot.Text

/-- Why a text is no integer. -/
inductive NumeralFault where
  | malformed
  | outOfRange
  deriving DecidableEq, Repr

/-- The wording of a fault. -/
def NumeralFault.reason : NumeralFault → String
  | .malformed => "invalid syntax"
  | .outOfRange => "value out of range"

/-- The fault as reported by the reader called `reader` on `text`. -/
def NumeralFault.message (reader text : String) (f : NumeralFault) : String :=
  reader ++ ": parsing " ++ quoted text ++ ": " ++ f.reason

/-- The value of a digit, whatever the base. -/
def digitValue? (c : Char) : Option Nat :=
  if '0' ≤ c && c ≤ '9' then some (c.toNat - '0'.toNat)
  else if 'a' ≤ c && c ≤ 'z' then some (c.toNat - 'a'.toNat + 10)
  else if 'A' ≤ c && c ≤ 'Z' then some (c.toNat - 'A'.toNat + 10)
  else none

/-- The bytes that pairs of hexadecimal digits stand for. -/
def hexBytes : List Char → List UInt8
  | a :: b :: rest =>
    .ofNat (16 * (digitValue? a).getD 0 + (digitValue? b).getD 0) :: hexBytes rest
  | _ => []

/-- The largest value of 64 unsigned bits. -/
def maxWord : Nat := Nat.pow 2 64 - 1

/-- One more digit. A character that is no digit of the base is noticed before the value leaves the
range of 64 bits. -/
def pushDigit (base acc : Nat) (c : Char) : Except NumeralFault Nat :=
  match digitValue? c with
  | none => .error .malformed
  | some d =>
    if base ≤ d then .error .malformed
    else if maxWord < acc * base + d then .error .outOfRange
    else .ok (acc * base + d)

/-- The value of a string of digits; the first fault from the left counts. -/
def digits (base : Nat) (cs : List Char) : Except NumeralFault Nat :=
  cs.foldlM (pushDigit base) 0

/-- The base that the spelling chooses, with the digits. -/
def chooseBase : List Char → Nat × List Char
  | '0' :: x :: rest =>
    if (x = 'x' || x = 'X') && !rest.isEmpty then (16, rest)
    else if (x = 'o' || x = 'O') && !rest.isEmpty then (8, rest)
    else if (x = 'b' || x = 'B') && !rest.isEmpty then (2, rest)
    else (8, x :: rest)
  | cs => (10, cs)

/-- Every underscore stands between two digits; `afterDigit` says that one may come now. -/
def underscoresBetween (afterDigit : Bool) : List Char → Bool
  | [] => true
  | ['_'] => false
  | '_' :: rest => afterDigit && underscoresBetween false rest
  | _ :: rest => underscoresBetween true rest

/-- An unsigned numeral whose spelling chooses the base, which counts as a digit before `_`. -/
def anyBase (cs : List Char) : Except NumeralFault Nat :=
  if cs.isEmpty then .error .malformed
  else do
    let (base, body) := chooseBase cs
    let n ← digits base (body.filter (· ≠ '_'))
    if underscoresBetween (base ≠ 10) body then .ok n else .error .malformed

/-- Splits a sign off. -/
def signed : List Char → Bool × List Char
  | '+' :: rest => (false, rest)
  | '-' :: rest => (true, rest)
  | cs => (false, cs)

/-- Puts the sign back and keeps the range of 64 signed bits. -/
def inSignedRange (negative : Bool) (n : Nat) : Except NumeralFault Int :=
  if negative then if n ≤ Nat.pow 2 63 then .ok (-(n : Int)) else .error .outOfRange
  else if n < Nat.pow 2 63 then .ok n else .error .outOfRange

/-- A decimal integer of 64 signed bits. -/
def decimal (s : String) : Except NumeralFault Int :=
  let (negative, cs) := signed s.toList
  if cs.isEmpty then .error .malformed else do inSignedRange negative (← digits 10 cs)

/-- A decimal integer of 64 unsigned bits; no sign is accepted. -/
def unsignedDecimal (s : String) : Except NumeralFault UInt64 :=
  if s.isEmpty then .error .malformed else do .ok (← digits 10 s.toList).toUInt64

/-- An integer of 64 signed bits whose spelling chooses the base. -/
def integer (s : String) : Except NumeralFault Int :=
  let (negative, cs) := signed s.toList
  do inSignedRange negative (← anyBase cs)

end TermBot.Text
