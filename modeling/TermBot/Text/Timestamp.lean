import TermBot.Text.Quoted

/-!
# Points in time

A point in time is written as a date, a time of day and a zone, as in `2024-05-01T12:00:00.042Z`, and
counts nanoseconds from the start of 1970. A text is read from the left part by part, and the first
part that is not there or is too large is the fault; that the month has the day is asked last.
-/

namespace TermBot.Text

/-- A leap year. -/
def isLeapYear (y : Nat) : Bool := (y % 4 = 0 && y % 100 ≠ 0) || y % 400 = 0

/-- The number of days of a month. -/
def daysOfMonth (y m : Nat) : Nat :=
  if m = 2 then if isLeapYear y then 29 else 28
  else if m = 4 || m = 6 || m = 9 || m = 11 then 30
  else 31

/-- The number of days before a year, from the year 0 on. -/
def daysBeforeYear (y : Nat) : Nat :=
  if y = 0 then 0 else 365 * y + (y - 1) / 4 + 1 - (y - 1) / 100 + (y - 1) / 400

/-- The number of days before a date, from the year 0 on. -/
def daysBefore (y m d : Nat) : Nat :=
  daysBeforeYear y + ((List.range (m - 1)).map fun k => daysOfMonth y (k + 1)).foldr (· + ·) 0
    + (d - 1)

/-- The days from 1970 to a date. -/
def daysSince1970 (y m d : Nat) : Int := (daysBefore y m d : Int) - daysBefore 1970 1 1

/-- What keeps a text from being a point in time. -/
inductive TimeCause where
  /-- The text does not go on with the part that the sample shows. -/
  | unexpected (rest : List UInt8) (sample : String)
  | outOfRange (part : String)
  /-- Something follows the zone. -/
  | extra (rest : List UInt8)
  deriving DecidableEq, Repr

/-- A text that is no point in time. -/
structure TimeFault where
  text : List UInt8
  cause : TimeCause
  deriving DecidableEq, Repr

/-- The sample of a point in time. -/
def timeSample : String := "2006-01-02T15:04:05Z07:00"

/-- How a byte of a text is shown: outside printed ASCII by its number. -/
def timeByte (b : UInt8) : String :=
  if b < 0x20 || 0x80 ≤ b then "\\x" ++ hexPadded 2 b.toNat
  else
    let c := Char.ofNat b.toNat
    String.ofList (if c = '"' || c = '\\' then ['\\', c] else [c])

/-- How the bytes of a text are shown. -/
def timeQuoted (bs : List UInt8) : String := "\"" ++ String.join (bs.map timeByte) ++ "\""

/-- The wording of a fault. -/
def TimeFault.message (f : TimeFault) : String :=
  "parsing time " ++ timeQuoted f.text ++ match f.cause with
    | .unexpected rest sample =>
      " as \"" ++ timeSample ++ "\": cannot parse " ++ timeQuoted rest ++ " as \"" ++ sample ++ "\""
    | .outOfRange part => ": " ++ part ++ " out of range"
    | .extra rest => ": extra text: " ++ timeQuoted rest

/-- The value of a decimal digit. -/
def byteDigit? (b : UInt8) : Option Nat :=
  if 0x30 ≤ b && b ≤ 0x39 then some (b.toNat - 0x30) else none

/-- The year, of four digits, with what follows. -/
def yearPart? : List UInt8 → Option (Nat × List UInt8)
  | a :: b :: c :: d :: rest => do
    let year := 1000 * (← byteDigit? a) + 100 * (← byteDigit? b) + 10 * (← byteDigit? c)
    return (year + (← byteDigit? d), rest)
  | _ => none

/-- A number of two digits, with what follows. -/
def twoDigits? : List UInt8 → Option (Nat × List UInt8)
  | a :: b :: rest => do return (10 * (← byteDigit? a) + (← byteDigit? b), rest)
  | _ => none

/-- A number of one or two digits, with what follows. -/
def oneOrTwoDigits? (bs : List UInt8) : Option (Nat × List UInt8) :=
  (twoDigits? bs).or do
    let b ← bs.head?
    return (← byteDigit? b, bs.tail)

/-- Reads a part that the sample shows. -/
def timePart {α : Type} (sample : String) (read? : List UInt8 → Option α) (bs : List UInt8) :
    Except TimeCause α :=
  match read? bs with
  | some a => .ok a
  | none => .error (.unexpected bs sample)

/-- Reads the character between two parts. -/
def timeMark (c : Char) : List UInt8 → Except TimeCause (List UInt8) :=
  timePart (String.ofList [c]) fun
    | b :: rest => if b.toNat = c.toNat then some rest else none
    | [] => none

/-- The part is within its bounds. -/
def inRange (part : String) (ok : Bool) : Except TimeCause Unit :=
  if ok then .ok () else .error (.outOfRange part)

/-- The nanoseconds behind the point, of which nine digits count. -/
def nanoseconds (ds : List UInt8) : Nat :=
  let nine := (ds ++ List.replicate 9 0x30).take 9
  nine.foldl (fun n b => 10 * n + (byteDigit? b).getD 0) 0

/-- The part of a second, if there is one; a point or a comma stands before it. -/
def secondPart : List UInt8 → Nat × List UInt8
  | mark :: rest =>
    let ds := rest.takeWhile fun b => (byteDigit? b).isSome
    if (mark = 0x2E || mark = 0x2C) && !ds.isEmpty then (nanoseconds ds, rest.drop ds.length)
    else (0, mark :: rest)
  | [] => (0, [])

/-- The seconds that a zone is ahead, with what follows. A whole day and a whole hour are still in
range. -/
def zonePart (bs : List UInt8) : Except TimeCause (Int × List UInt8) :=
  let bad := Except.error (.unexpected bs "Z07:00")
  match bs with
  | 0x5A :: rest => .ok (0, rest)
  | sign :: a :: b :: 0x3A :: c :: d :: rest => do
    let hours := (twoDigits? [a, b]).map (·.1)
    let minutes := hours.bind fun _ => (twoDigits? [c, d]).map (·.1)
    inRange "time zone offset minute" (minutes.all (· ≤ 60))
    inRange "time zone offset hour" (hours.all (· ≤ 24))
    match hours, minutes with
    | some h, some m =>
      let ahead : Int := (60 * (60 * h + m) : Nat)
      if sign = 0x2B then return (ahead, rest)
      else if sign = 0x2D then return (-ahead, rest)
      else bad
    | _, _ => bad
  | _ => bad

/-- Reads the bytes of a point in time. -/
def timeOfBytes (bs : List UInt8) : Except TimeCause Int := do
  let (y, bs) ← timePart "2006" yearPart? bs
  let (m, bs) ← timePart "01" twoDigits? (← timeMark '-' bs)
  inRange "month" (0 < m && m ≤ 12)
  let (d, bs) ← timePart "02" twoDigits? (← timeMark '-' bs)
  let (h, bs) ← timePart "15" oneOrTwoDigits? (← timeMark 'T' bs)
  inRange "hour" (h < 24)
  let (i, bs) ← timePart "04" twoDigits? (← timeMark ':' bs)
  inRange "minute" (i < 60)
  let (s, bs) ← timePart "05" twoDigits? (← timeMark ':' bs)
  inRange "second" (s < 60)
  let (n, bs) := secondPart bs
  let (ahead, bs) ← zonePart bs
  if !bs.isEmpty then .error (.extra bs)
  inRange "day" (0 < d && d ≤ daysOfMonth y m)
  let seconds : Int := daysSince1970 y m d * 86400 + (3600 * h + 60 * i + s : Nat) - ahead
  return seconds * 1000000000 + n

/-- Reads a point in time. -/
def timestamp (s : String) : Except TimeFault Int :=
  let bs := bytesOf s.toList
  (timeOfBytes bs).mapError (⟨bs, ·⟩)

/-- The start of the year 1, which stands for no point in time. -/
def noTime : Int := daysSince1970 1 1 1 * 86400 * 1000000000

end TermBot.Text
