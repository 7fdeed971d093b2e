import TermBot.Text.Numeral

/-!
# Decimal literals

A literal with a point and an exponent is an integer times a power of ten. It fits a real of 64 bits
unless it rounds to more than the largest one.
-/

namespace TermBot.Text

/-- An integer times a power of ten. -/
structure Decimal where
  digits : Nat
  exponent : Int
  deriving DecidableEq, Repr

/-- The value of the decimal digits among the characters. -/
def digitsIn (cs : List Char) : Nat :=
  cs.foldl (fun n c => if c.isDigit then 10 * n + (c.toNat - '0'.toNat) else n) 0

/-- The amount of a literal: digits, perhaps a point with digits behind it, perhaps `e` with an
exponent. A sign in front is passed over. -/
def Decimal.ofLiteral (s : String) : Decimal :=
  let cs := s.toList
  let mantissa := cs.takeWhile fun c => c ≠ 'e' && c ≠ 'E'
  let places := (mantissa.dropWhile (· ≠ '.')).length - 1
  let exponent : Int := match cs.drop (mantissa.length + 1) with
    | '-' :: ds => -(digitsIn ds : Int)
    | ds => digitsIn ds
  { digits := digitsIn mantissa, exponent := exponent - places }

/-- The least amount that rounds to more than the largest real of 64 bits. -/
def realBound : Nat := Nat.pow 2 1024 - Nat.pow 2 970

/-- The amount fits a real of 64 bits. It has `size` places before the point, and only with 309 of
them the digits decide. -/
def Decimal.fitsReal (d : Decimal) : Bool :=
  let size : Int := (Nat.toDigits 10 d.digits).length + d.exponent
  d.digits = 0 || size < 309 ||
    (size = 309 &&
      d.digits * Nat.pow 10 d.exponent.toNat < realBound * Nat.pow 10 (-d.exponent).toNat)

end TermBot.Text
