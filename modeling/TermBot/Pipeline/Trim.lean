import TermBot.Text.Blank
import TermBot.Text.Letter
import TermBot.Text.Digit

/-!
# Terms in chat messages

A term may stand between backticks or in a fenced code block. `trimInput` removes blanks, backticks
and, in a fenced block, the tag that names a language on the opening line.
-/

namespace TermBot.Pipeline

/-- Part of the name of a language. -/
def isTagChar (c : Char) : Bool :=
  Text.isLetter c || Text.isDigit c || c = '+' || c = '-' || c = '_' || c = '#'

/-- A single word that names a language; a carriage return may follow it. -/
def isFenceTag (line : List Char) : Bool :=
  let word := Text.dropRightWhile (· = '\r') line
  !word.isEmpty && word.all isTagChar

/-- Three backticks open a fenced block. -/
def isFenced (cs : List Char) : Bool := ['`', '`', '`'].isPrefixOf cs

/-- Drops a tag on the first line. -/
def dropTag (cs : List Char) : List Char :=
  let line := cs.takeWhile (· ≠ '\n')
  match cs.dropWhile (· ≠ '\n') with
  | _ :: rest => if isFenceTag line then rest else cs
  | [] => cs

/-- The term in a message, as a list of characters. -/
def trimChars (raw : List Char) : List Char :=
  let cs := Text.trimBlanks raw
  let body := Text.trimWhile (· = '`') cs
  Text.trimBlanks (if isFenced cs then dropTag body else body)

/-- The term in a message. -/
def trimInput (raw : String) : String := String.ofList (trimChars raw.toList)

end TermBot.Pipeline
