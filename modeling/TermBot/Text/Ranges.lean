/-!
# Tables of code-point ranges

A character class is a list of closed ranges in increasing order, and `covers` scans it up to the
first range that starts above the code point asked for. The classes of letters, digits, cases and printable
characters are those of Unicode 17.0, the release that the runtime of the program knows.
-/

namespace TermBot.Text

/-- Closed ranges of code points, in increasing order. -/
abbrev Ranges := List (Nat × Nat)

/-- The code point lies in one of the ranges. -/
def Ranges.covers : Ranges → Nat → Bool
  | [], _ => false
  | (lo, hi) :: rest, n => if n < lo then false else n ≤ hi || Ranges.covers rest n

end TermBot.Text
