import TermBot.Text.Numeral
import TermBot.Text.Utf8

/-!
# Routes

The addresses of the service. A route is written with the texts that it is made of; on the wire, bytes
that may not stand in a path are written as a percent sign with two hexadecimal digits. A route that
is escaped already stays as it is.
-/

namespace TermBot.Discord

/-- The host of the service. -/
def host : String := "https://discord.com"

/-- What all routes start with. -/
def apiRoot : String := "/api/v9/"

/-- Why a route is no address. -/
inductive RouteFault where
  | control
  /-- A percent sign without two hexadecimal digits, with what follows it. -/
  | escape (found : List UInt8)
  deriving DecidableEq, Repr

/-- The wording of a fault. -/
def RouteFault.message : RouteFault → String
  | .control => "net/url: invalid control character in URL"
  | .escape bs => "invalid URL escape " ++ Text.quotedBytes bs

/-- A route that is no address, with as much of the address as was looked at. -/
structure BadRoute where
  address : String
  fault : RouteFault
  deriving DecidableEq, Repr

/-- The wording for a bad route. -/
def BadRoute.message (r : BadRoute) : String :=
  "parse " ++ Text.quoted r.address ++ ": " ++ r.fault.message

/-- The character of an ASCII byte. -/
def asciiChar (b : UInt8) : Char := Char.ofNat b.toNat

/-- A letter or a digit of ASCII. -/
def isAlphanumeric (b : UInt8) : Bool := (asciiChar b).isAlphanum && b < 0x80

/-- A byte that is not escaped in a path. -/
def isPlain (b : UInt8) : Bool := isAlphanumeric b || "-_.~$&+,/:;=@".toList.contains (asciiChar b)

/-- A byte that may stand in a path that is escaped already. -/
def isEscapedForm (b : UInt8) : Bool := isPlain b || "!'()*[]%".toList.contains (asciiChar b)

/-- A hexadecimal digit in upper case. -/
def upperHex (n : Nat) : Char := Char.ofNat (n + if n < 10 then '0'.toNat else 'A'.toNat - 10)

/-- A byte as it is written in a path. -/
def escapeByte (b : UInt8) : List Char :=
  if isPlain b then [asciiChar b] else ['%', upperHex (b.toNat / 16), upperHex (b.toNat % 16)]

/-- The bytes of a path as they are written. -/
def escapeBytes (bs : List UInt8) : String := String.ofList (bs.flatMap escapeByte)

/-- The value of a hexadecimal digit. -/
def hexByte? (b : UInt8) : Option Nat := (Text.digitValue? (asciiChar b)).filter (· < 16)

/-- Takes the escapes back. -/
def unescape : List UInt8 → Except RouteFault (List UInt8)
  | [] => .ok []
  | b :: rest =>
    if b ≠ 0x25 then do return b :: (← unescape rest)
    else
      match rest with
      | h :: l :: more =>
        match hexByte? h, hexByte? l with
        | some h, some l => do return UInt8.ofNat (16 * h + l) :: (← unescape more)
        | _, _ => .error (.escape [b, h, l])
      | rest => .error (.escape (b :: rest))

/-- The path on the wire of a route without a number sign. A question mark ends it. -/
def wireForm (cs : List Char) : Except RouteFault String := do
  if cs.any fun c => c < ' ' || c = '\x7f' then .error .control
  else
    let bytes := Text.bytesOf (cs.takeWhile (· ≠ '?'))
    let escaped := escapeBytes (← unescape bytes)
    return if bytes.all isEscapedForm then Text.shown (Text.decode bytes) else escaped

/-- The path of a route on the wire. What follows a number sign is not sent, but its escapes have to
be good. -/
def wirePath (route : String) : Except BadRoute String := do
  let cs := route.toList.takeWhile (· ≠ '#')
  let path ← (wireForm cs).mapError (⟨host ++ String.ofList cs, ·⟩)
  let _ ← (unescape (Text.bytesOf (route.toList.drop (cs.length + 1)))).mapError (⟨host ++ route, ·⟩)
  return path

/-- The messages of a channel. -/
def messagesRoute (channel : String) : String := apiRoot ++ "channels/" ++ channel ++ "/messages"

/-- A message. -/
def messageRoute (channel message : String) : String := messagesRoute channel ++ "/" ++ message

/-- A reaction of the bot to a message. -/
def reactionRoute (channel message emoji : String) : String :=
  messageRoute channel message ++ "/reactions/" ++ emoji.replace "#" "%23" ++ "/@me"

/-- The answer to an interaction. -/
def callbackRoute (interaction token : String) : String :=
  apiRoot ++ "interactions/" ++ interaction ++ "/" ++ token ++ "/callback"

/-- The application of the bot. -/
def applicationRoute : String := apiRoot ++ "oauth2/applications/@me"

end TermBot.Discord
