import TermBot.Text.Blank
import TermBot.Text.Quoted

/-!
# Why a text is no JSON value

A fault is the end of the text, the first character that cannot stand where it does, with what was
expected there, or the first escape in a string that stands for nothing.
-/

namespace TermBot.Json

/-- Where a character cannot stand. -/
inductive Place where
  | value
  | name
  | afterName
  | afterMember
  | afterItem
  | string
  | number
  | afterValue
  | word (word : String) (expected : Char)
  deriving DecidableEq, Repr

/-- The wording for a place. -/
def Place.describe : Place → String
  | .value => "looking for beginning of value"
  | .name => "looking for beginning of object key string"
  | .afterName => "after object key"
  | .afterMember => "after object key:value pair"
  | .afterItem => "after array element"
  | .string => "in string"
  | .number => "in numeric literal"
  | .afterValue => "after top-level value"
  | .word w c => "in literal " ++ w ++ " (expecting " ++ Text.quotedChar c ++ ")"

/-- Why a text is no value. -/
inductive Fault where
  /-- There is nothing but blanks. -/
  | nothing
  /-- The text ends inside the value. -/
  | ended
  | misplaced (c : Char) (p : Place)
  /-- An escape that stands for nothing, by the bytes that it should be made of. -/
  | badEscape (bytes : List UInt8)
  | tooDeep
  deriving DecidableEq, Repr

/-- A scalar that is shown as it is between grave accents. -/
def isPlainScalar (r : Text.Scalar) : Bool :=
  r.char ≠ Char.ofNat 0x60 && r.char ≠ Char.ofNat 0xFFFD && !Text.isBlank r.char &&
    Text.isPrintable r.char

/-- How an escape is shown: between grave accents, or quoted where these would not show it. -/
def escapeText (bytes : List UInt8) : String :=
  let rs := Text.decode bytes
  if rs.all isPlainScalar then "`" ++ Text.shown rs ++ "`" else Text.quotedBytes bytes

/-- The wording of a fault. -/
def Fault.message : Fault → String
  | .nothing => "EOF"
  | .ended => "unexpected EOF"
  | .misplaced c p => "invalid character " ++ Text.quotedChar c ++ " " ++ p.describe
  | .badEscape bytes => "invalid escape sequence " ++ escapeText bytes ++ " in string"
  | .tooDeep => "exceeded max depth"

/-- The wording of a fault in a text that has to be one value. -/
def Fault.wholeMessage : Fault → String
  | .nothing | .ended => "unexpected end of JSON input"
  | f => f.message

/-- The fault of a text at its first character. -/
def Fault.here (p : Place) : List Char → Fault
  | [] => .ended
  | c :: _ => .misplaced c p

/-- A hexadecimal digit. -/
def isHexByte (b : UInt8) : Bool :=
  (0x30 ≤ b && b ≤ 0x39) || (0x41 ≤ b && b ≤ 0x46) || (0x61 ≤ b && b ≤ 0x66)

/-- The fault of a text that starts with a backslash and `u` without four hexadecimal digits: it ends
too early, or the escape is bad. -/
def Fault.ofUnit (cs : List Char) : Fault :=
  let bytes := (Text.bytesOf (cs.take 6)).take 6
  if bytes.length < 6 && (bytes.drop 2).all isHexByte then .ended else .badEscape bytes

end TermBot.Json
