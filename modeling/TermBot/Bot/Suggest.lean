import TermBot.Text.Case
import TermBot.Text.Utf8

/-!
# Suggestions

Which names a query may have meant. A name matches when the characters of the query are found in it
in order, whatever their case. It scores for a match at its start, behind a separator, at a capital
after a small letter and right behind the match before; and it loses for what is left unmatched.
-/

namespace TermBot.Bot

/-- Separates the words of a name. -/
def isSeparator (c : Char) : Bool := ['/', '-', '_', ' ', '.', '\\'].contains c

/-- How far the search for a query in a name has come. -/
structure Search where
  /-- The characters of the query that are yet to be found; the first one is looked for. -/
  wanted : List Char
  score : Int := 0
  /-- The best score of a place for the character that is looked for. -/
  best : Int := -1
  /-- The place that was best last. -/
  place : Option Nat := none
  /-- The bonus for matches in a row. -/
  streak : Int := 0
  /-- The places matched, the last one first. -/
  matched : List Nat := []
  /-- The character before. -/
  last : Char := Char.ofNat 0
  /-- The place of the character before. -/
  lastPlace : Nat := 0

/-- Equal up to case. -/
def alike (a b : Char) : Bool := Text.foldCase a = Text.foldCase b

/-- Looks at the character `c` at place `i` of the name. -/
def Search.look (s : Search) (i : Nat) (c : Char) : Search :=
  if s.wanted.head?.any (alike c) then
    let start : Int := if i = 0 then 10 else 0
    let capital : Int := if Text.isLower s.last && Text.isUpper c then 20 else 0
    let word : Int := if i ≠ 0 && isSeparator s.last then 20 else 0
    let row : Int := if s.matched.head? = some s.lastPlace then s.streak * 2 + 5 else 0
    let score := start + capital + word + row
    let s := { s with streak := s.streak + row }
    if s.best < score then { s with best := score, place := some i } else s
  else s

/-- Settles the place of the character that is looked for, once the next one of the query comes next
in the name or the name ends. -/
def Search.settle (s : Search) (next : Option Char) : Search :=
  let due := match next with
    | none => true
    | some c => (s.wanted.tail.head?).any (alike c)
  match due, s.place with
  | true, some p =>
    let lead : Int := if s.matched.isEmpty then max (-5 * (p : Int)) (-15) else 0
    { s with
      score := s.score + s.best + lead, best := -1, matched := p :: s.matched, wanted := s.wanted.tail }
  | _, _ => s

/-- Searches on in the rest of a name, which starts at place `i`. -/
def Search.run (s : Search) : (i : Nat) → List Char → Search
  | _, [] => s
  | i, c :: rest =>
    let s := (s.look i c).settle rest.head?
    ({ s with last := c, lastPlace := i }).run (i + c.utf8Size) rest

/-- The score of a name for a query, if it matches. -/
def score? (query name : String) : Option Int :=
  let s := ({ wanted := query.toList } : Search).run 0 name.toList
  if s.matched.length = query.length && query ≠ "" then
    some (s.score + s.matched.length - name.utf8ByteSize)
  else none

/-- The names that match a query, the best first; of two with one score the later comes first. -/
def suggestions (query : String) (names : List String) : List String :=
  let scored := names.filterMap fun n => (score? query n).map (n, ·)
  (scored.reverse.mergeSort fun a b => b.2 ≤ a.2).map (·.1)

end TermBot.Bot
