/-!
# Names for type variables

The names `a`, …, `z`, `a1`, …, `z1`, `a2`, … in this order; `nextName` finds the first that is not
taken.
-/

namespace TermBot.Typing

/-- The name at place `n` of the sequence. -/
def nameAt (n : Nat) : String :=
  let letter := String.singleton (Char.ofNat ('a'.toNat + n % 26))
  if n < 26 then letter else letter ++ toString (n / 26)

/-- The first name of the sequence that is not taken; among one more names than are taken there is
one. -/
def nextName (taken : List String) : String :=
  ((List.range (taken.length + 1)).find? fun n => !taken.contains (nameAt n)).elim "" nameAt

/-- The next `n` names, each taken once it is given. -/
def nextNames : (n : Nat) → (taken : List String) → List String
  | 0, _ => []
  | n + 1, taken => nextName taken :: nextNames n (nextName taken :: taken)

end TermBot.Typing
