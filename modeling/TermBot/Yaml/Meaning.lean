import TermBot.Text.Numeral
import TermBot.Text.Timestamp
import TermBot.Text.Utf8
import TermBot.Yaml.Node

/-!
# What a scalar means

A scalar without quotes may be a null, a truth value, a number or a date; all else is text. A tag
settles which of them is meant, and a scalar that cannot be that has no meaning. A number with a
point or an exponent is the nearest number of 53 bits, of which only the whole part is kept.
-/

namespace TermBot.Yaml

/-- What a scalar means. -/
inductive Meaning where
  | null
  | truth (b : Bool)
  | int (n : Int)
  /-- The whole part of a number, or none when it is infinite. -/
  | float (negative : Bool) (whole : Option Nat)
  | notANumber
  | date
  | text (s : String)
  deriving DecidableEq, Repr

/-- The tag of a meaning. -/
def Meaning.tag : Meaning → String
  | .null => "!!null"
  | .truth _ => "!!bool"
  | .int _ => "!!int"
  | .float .. | .notANumber => "!!float"
  | .date => "!!timestamp"
  | .text _ => "!!str"

/-- The words with a meaning of their own. -/
def words : List (String × Meaning) :=
  [("", .null), ("~", .null), ("null", .null), ("Null", .null), ("NULL", .null),
   ("true", .truth true), ("True", .truth true), ("TRUE", .truth true),
   ("false", .truth false), ("False", .truth false), ("FALSE", .truth false),
   (".nan", .notANumber), (".NaN", .notANumber), (".NAN", .notANumber),
   (".inf", .float false none), (".Inf", .float false none), (".INF", .float false none),
   ("+.inf", .float false none), ("+.Inf", .float false none), ("+.INF", .float false none),
   ("-.inf", .float true none), ("-.Inf", .float true none), ("-.INF", .float true none)]

/-- A quotient rounded to the nearest whole number, a half to the even one. -/
def roundedQuotient (num den : Nat) : Nat :=
  let q := num / den
  let r := num % den
  if 2 * r < den then q else if den < 2 * r then q + 1 else q + q % 2

/-- The whole part of the number of 53 bits that is nearest to a quotient. -/
def wholeOfNearest (num den : Nat) : Nat :=
  if num = 0 then 0
  else
    let scaled (e : Int) : Nat × Nat :=
      if 0 ≤ e then (num, den * Nat.pow 2 e.toNat) else (num * Nat.pow 2 (-e).toNat, den)
    let e : Int := (num.log2 : Int) - den.log2 - 53
    let (n, d) := scaled e
    let e := if Nat.pow 2 53 * d ≤ n then e + 1 else e
    let (n, d) := scaled e
    let m := roundedQuotient n d
    if 0 ≤ e then m * Nat.pow 2 e.toNat else m / Nat.pow 2 (-e).toNat

/-- A decimal number: the digits before and after the point, and the exponent. -/
structure Decimal where
  negative : Bool
  whole : List Char
  fraction : List Char
  exponent : Int

/-- A decimal digit. -/
def isDigit (c : Char) : Bool := '0' ≤ c && c ≤ '9'

/-- The exponent behind `e`. -/
def exponent? (cs : List Char) : Option Int :=
  let (negative, ds) := Text.signed cs
  if ds.isEmpty || !ds.all isDigit then none
  else
    let n := ds.foldl (fun (n : Nat) c => min (10 * n + (c.toNat - '0'.toNat)) 100000) 0
    some (if negative then -(n : Int) else n)

/-- A number in decimal notation. -/
def decimal? (cs : List Char) : Option Decimal := do
  let (negative, cs) := Text.signed cs
  let whole := cs.takeWhile isDigit
  let cs := cs.dropWhile isDigit
  let (fraction, cs, pointed) := match cs with
    | '.' :: rest => (rest.takeWhile isDigit, rest.dropWhile isDigit, true)
    | _ => ([], cs, false)
  if whole.isEmpty && (fraction.isEmpty || !pointed) then none
  else
    match cs with
    | [] => return ⟨negative, whole, fraction, 0⟩
    | e :: rest =>
      if e = 'e' || e = 'E' then return ⟨negative, whole, fraction, ← exponent? rest⟩ else none

/-- The least number that is too large for 64 bits with an exponent. -/
def overflowLimit : Nat := Nat.pow 2 1024 - Nat.pow 2 970

/-- What a decimal number means, unless it is too large. -/
def Decimal.meaning? (d : Decimal) : Option Meaning :=
  let digits := d.whole ++ d.fraction
  let n := digits.foldl (fun n c => 10 * n + (c.toNat - '0'.toNat)) 0
  let e := d.exponent - d.fraction.length
  if n = 0 then some (.float d.negative (some 0))
  else if 400 < e then none
  else if e + digits.length < -400 then some (.float d.negative (some 0))
  else
    let (num, den) := if 0 ≤ e then (n * Nat.pow 10 e.toNat, 1) else (n, Nat.pow 10 (-e).toNat)
    if overflowLimit * den ≤ num then none
    else some (.float d.negative (some (wholeOfNearest num den)))

/-- An integer with a sign in a given base. -/
def signedInt? (base : Nat) (negative : Bool) (cs : List Char) : Option Int :=
  if cs.isEmpty then none
  else
    match Text.digits base cs with
    | .ok n => (Text.inSignedRange negative n).toOption
    | .error _ => none

/-- An integer behind a mark of its base, where a sign may stand too. -/
def markedInt? (base : Nat) (negative : Bool) (cs : List Char) : Option Int :=
  if negative then signedInt? base true cs
  else
    let (inner, ds) := Text.signed cs
    match signedInt? base inner ds with
    | some n => some n
    | none =>
      if cs.isEmpty then none else (Text.digits base cs).toOption.map fun n => (n : Int)

/-- An integer: underscores are left out, and the spelling chooses the base. -/
def int? (cs : List Char) : Option Int :=
  let (negative, body) := Text.signed cs
  match (Text.anyBase body).toOption with
  | some n =>
    match Text.inSignedRange negative n with
    | .ok i => some i
    | .error _ => if body.length = cs.length then some n else none
  | none => none

/-- An integer behind `0b` or `0o`, where the usual reading fails. -/
def marked? : List Char → Option Int
  | '0' :: 'b' :: rest => markedInt? 2 false rest
  | '-' :: '0' :: 'b' :: rest => markedInt? 2 true rest
  | '0' :: 'o' :: rest => markedInt? 8 false rest
  | '-' :: '0' :: 'o' :: rest => markedInt? 8 true rest
  | _ => none


/-- One or two digits with the text after them. -/
def shortNumber? (cs : List Char) : Option (Nat × List Char) :=
  match cs with
  | a :: b :: rest =>
    if !isDigit a then none
    else if isDigit b then (Text.digits 10 [a, b]).toOption.map (·, rest)
    else (Text.digits 10 [a]).toOption.map (·, b :: rest)
  | [a] => if isDigit a then (Text.digits 10 [a]).toOption.map (·, []) else none
  | [] => none

/-- The text behind a sign. -/
def behind? (c : Char) : List Char → Option (List Char)
  | d :: rest => if c = d then some rest else none
  | [] => none

/-- The time of a day with a part of a second; gives the text after it. -/
def clock? (cs : List Char) : Option (List Char) := do
  let (h, cs) ← shortNumber? cs
  let (m, cs) ← shortNumber? (← behind? ':' cs)
  let (s, cs) ← shortNumber? (← behind? ':' cs)
  if 24 ≤ h || 60 ≤ m || 60 ≤ s then none
  else
    match cs with
    | p :: d :: rest =>
      if (p = '.' || p = ',') && isDigit d then return rest.dropWhile isDigit else return cs
    | _ => return cs

/-- The zone of a time: `Z`, or the hours and minutes away from it. -/
def isZone : List Char → Bool
  | ['Z'] => true
  | [s, a, b, ':', c, d] =>
    (s = '+' || s = '-') && [a, b, c, d].all isDigit &&
      ((Text.digits 10 [a, b]).toOption.any (· ≤ 24)) && ((Text.digits 10 [c, d]).toOption.any (· ≤ 60))
  | _ => false

/-- A date, alone or with a time. -/
def isDate (cs : List Char) : Bool :=
  let year := cs.takeWhile isDigit
  let found : Option Bool := do
    let y ← (Text.digits 10 year).toOption
    let (m, rest) ← shortNumber? (← behind? '-' (cs.dropWhile isDigit))
    let (d, rest) ← shortNumber? (← behind? '-' rest)
    if m = 0 || 12 < m || d = 0 || Text.daysOfMonth y m < d then none
    else
      match rest with
      | [] => return true
      | t :: rest => do
        let rest ← clock? (if t = ' ' then rest.dropWhile (· = ' ') else rest)
        return if t = ' ' then rest.isEmpty else (t = 'T' || t = 't') && isZone rest
  year.length = 4 && found.getD false

/-- What a text that stands for itself means. `dated` allows dates. -/
def plainMeaning (dated : Bool) (s : String) : Meaning :=
  match words.lookup s with
  | some m => m
  | none =>
    match s.toList with
    | [] => .null
    | c :: rest =>
      if c = '.' then ((decimal? (c :: rest)).bind Decimal.meaning?).getD (.text s)
      else if c = '+' || c = '-' || isDigit c then
        if dated && isDate (c :: rest) then .date
        else
          let cs := (c :: rest).filter (· ≠ '_')
          match int? cs with
          | some n => .int n
          | none =>
            match (decimal? cs).bind Decimal.meaning? with
            | some m => m
            | none => ((marked? cs).map Meaning.int).getD (.text s)
      else .text s

/-- The value of a digit of base 64. -/
def digit64? (c : Char) : Option Nat :=
  if 'A' ≤ c && c ≤ 'Z' then some (c.toNat - 'A'.toNat)
  else if 'a' ≤ c && c ≤ 'z' then some (c.toNat - 'a'.toNat + 26)
  else if '0' ≤ c && c ≤ '9' then some (c.toNat - '0'.toNat + 52)
  else if c = '+' then some 62
  else if c = '/' then some 63
  else none

/-- The bytes that digits of base 64 stand for, four digits for three bytes. -/
def bytes64? : List Char → Option (List UInt8)
  | [] => some []
  | [a, b, '=', '='] => do
    let n := (← digit64? a) * 64 + (← digit64? b)
    return [UInt8.ofNat (n / 16)]
  | [a, b, c, '='] => do
    let n := ((← digit64? a) * 64 + (← digit64? b)) * 64 + (← digit64? c)
    return [UInt8.ofNat (n / 1024), UInt8.ofNat (n / 4)]
  | a :: b :: c :: d :: rest => do
    let n := (((← digit64? a) * 64 + (← digit64? b)) * 64 + (← digit64? c)) * 64 + (← digit64? d)
    return UInt8.ofNat (n / 65536) :: UInt8.ofNat (n / 256) :: UInt8.ofNat n :: (← bytes64? rest)
  | _ => none

/-- What a scalar means; none when its tag forbids it. -/
def meaning? (tag : String) (plain : Bool) (text : String) : Option Meaning :=
  match tag with
  | "" => some (if plain then plainMeaning true text else .text text)
  | "!!str" => some (.text text)
  | "!!binary" =>
    (bytes64? (text.toList.filter fun c => c ≠ '\n' && c ≠ '\r')).map fun bs =>
      .text (Text.shown (Text.decode bs))
  | "!!bool" | "!!int" | "!!null" | "!!timestamp" | "!!float" =>
    let m := plainMeaning (tag = "!!timestamp") text
    if m.tag = tag then some m
    else
      match m with
      | .int n =>
        if tag = "!!float" && n < Nat.pow 2 63 then some (.float (n < 0) (some (wholeOfNearest n.natAbs 1)))
        else none
      | _ => none
  | _ => some (.text text)

end TermBot.Yaml
