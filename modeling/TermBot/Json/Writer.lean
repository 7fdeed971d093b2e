import TermBot.Json.Basic

/-!
# Writing JSON

The text of a JSON value without blanks. Quotes, backslashes and control characters are escaped, all
else is written as it is.
-/

namespace TermBot.Json

/-- How a character is written inside a string. -/
def escapeChar (c : Char) : List Char :=
  match c with
  | '"' => ['\\', '"']
  | '\\' => ['\\', '\\']
  | '\n' => ['\\', 'n']
  | '\r' => ['\\', 'r']
  | '\t' => ['\\', 't']
  | c => if c.toNat < 0x20 then ['\\', 'u'] ++ (Text.hexPadded 4 c.toNat).toList else [c]

/-- A string with its quotes. -/
def writeString (s : String) : String :=
  "\"" ++ String.ofList (s.toList.flatMap escapeChar) ++ "\""

mutual

/-- The text of a value. -/
def write : Json → String
  | null => "null"
  | bool true => "true"
  | bool false => "false"
  | num l => l
  | str s => writeString s
  | arr [] => "[]"
  | arr (x :: xs) => "[" ++ write x ++ writeItems xs ++ "]"
  | obj [] => "\x7b\x7d"
  | obj ((k, v) :: ms) => "\x7b" ++ writeString k ++ ":" ++ write v ++ writeMembers ms ++ "\x7d"

/-- The text of the items after the first. -/
def writeItems : List Json → String
  | [] => ""
  | x :: xs => "," ++ write x ++ writeItems xs

/-- The text of the members after the first. -/
def writeMembers : List (String × Json) → String
  | [] => ""
  | (k, v) :: ms => "," ++ writeString k ++ ":" ++ write v ++ writeMembers ms

end

end TermBot.Json
