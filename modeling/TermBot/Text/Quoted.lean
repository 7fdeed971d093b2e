import TermBot.Text.Printable
import TermBot.Text.Utf8

/-!
# Quoted texts

A text between double quotes in which a quote, a backslash and every character that is not
printable is written as an escape. A byte that is part of no character is written by its number.
-/

namespace TermBot.Text

/-- The digits of `n` in lower-case hexadecimal, filled up with zeros to `size` places. -/
def hexPadded (size n : Nat) : String :=
  let digits := Nat.toDigits 16 n
  String.ofList (List.replicate (size - digits.length) '0' ++ digits)

/-- How a character is written between quotes of the given kind. -/
def quoteChar (quote c : Char) : String :=
  if c = quote || c = '\\' then String.ofList ['\\', c]
  else if isPrintable c then String.ofList [c]
  else
    match c.toNat with
    | 0x07 => "\\a"
    | 0x08 => "\\b"
    | 0x0C => "\\f"
    | 0x0A => "\\n"
    | 0x0D => "\\r"
    | 0x09 => "\\t"
    | 0x0B => "\\v"
    | n =>
      if n < 0x20 || n = 0x7F then "\\x" ++ hexPadded 2 n
      else if n < 0x10000 then "\\u" ++ hexPadded 4 n
      else "\\U" ++ hexPadded 8 n

/-- The text between double quotes. -/
def quoted (s : String) : String :=
  "\"" ++ String.join (s.toList.map (quoteChar '"')) ++ "\""

/-- How a scalar is written between quotes of the given kind. -/
def quoteScalar (quote : Char) (r : Scalar) : String :=
  match r.bytes with
  | [b] => if b < 0x80 then quoteChar quote r.char else "\\x" ++ hexPadded 2 b.toNat
  | _ => quoteChar quote r.char

/-- The bytes of a text between double quotes. -/
def quotedBytes (bs : List UInt8) : String :=
  "\"" ++ String.join ((decode bs).map (quoteScalar '"')) ++ "\""

/-- The character between single quotes. -/
def quotedChar (c : Char) : String := "'" ++ quoteChar '\'' c ++ "'"

end TermBot.Text
