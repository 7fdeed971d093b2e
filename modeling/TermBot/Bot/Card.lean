import TermBot.Bot.Message
import TermBot.Text.Blank
import TermBot.Text.Quoted
import TermBot.Text.Utf8

/-!
# Cards and buttons

The chat limits the length of a description in bytes, so long ones are clipped between two
characters. What was typed may not be well-formed, so byte strings are clipped where no sequence
continues. The button below a reply names the user who may retract it.
-/

namespace TermBot.Bot

/-- The longest description in bytes. -/
def maxDescription : Nat := 4096

/-- The longest beginning of a text that has at most `n` bytes. -/
def fitting (n : Nat) : List Char → List Char
  | [] => []
  | c :: cs => if c.utf8Size ≤ n then c :: fitting (n - c.utf8Size) cs else []

/-- What stands for the part that was cut off. -/
def ellipsis : Char := '…'

/-- The text itself when it has at most `n` bytes, else a beginning of it with an ellipsis. -/
def clipTo (n : Nat) (s : String) : String :=
  if s.utf8ByteSize ≤ n then s
  else String.ofList (fitting (n - ellipsis.utf8Size) s.toList ++ [ellipsis])

/-- The text in the length of a description. -/
def clip (s : String) : String := clipTo maxDescription s

/-- The last place not behind `k` where no sequence continues, or the start. -/
def cutAt (bytes : List UInt8) : Nat → Nat
  | 0 => 0
  | k + 1 => if Text.startsAt bytes (k + 1) then k + 1 else cutAt bytes k

/-- `clipTo` of any byte string. -/
def clipBytes (n : Nat) (bytes : List UInt8) : List UInt8 :=
  if bytes.length ≤ n then bytes
  else bytes.take (cutAt bytes (n - ellipsis.utf8Size)) ++ String.utf8EncodeChar ellipsis

/-- Opens a block of code. -/
def fenceOpen : String := "```\n"

/-- Closes a block of code. -/
def fenceClose : String := "\n```"

/-- The text as a block of code in the length of a description. -/
def codeBlock (s : String) : String :=
  fenceOpen ++ clipTo (maxDescription - fenceOpen.utf8ByteSize - fenceClose.utf8ByteSize) s ++ fenceClose

/-- `codeBlock` of any byte string. -/
def codeBlockBytes (bytes : List UInt8) : List UInt8 :=
  Text.bytesOf fenceOpen.toList
    ++ clipBytes (maxDescription - fenceOpen.utf8ByteSize - fenceClose.utf8ByteSize) bytes
    ++ Text.bytesOf fenceClose.toList

/-- A card that says what was found. -/
def success (title description : String) : Card :=
  { title, description := clip description, color := 0x8E6CE0 }

/-- A card that says what went wrong. -/
def failure (title description : String) : Card :=
  { title, description := clip description, color := 0xE0475B }

/-- What the custom id of the retracting button starts with. -/
def cleanupName : String := "clean"

/-- The custom id of the button that retracts a reply to this user. -/
def cleanupId (issuer : String) : String := cleanupName ++ ";" ++ issuer

/-- The button that retracts a reply to this user. -/
def cleanupButton (issuer : String) : Button :=
  { label := "Clean up", emoji := "🗑️", customId := cleanupId issuer }

/-- Why a custom id means nothing. -/
inductive ComponentError where
  | malformed (id : String)
  | unknown (id : String)
  deriving DecidableEq, Repr

/-- The wording of an error. -/
def ComponentError.message : ComponentError → String
  | .malformed id => "malformed component id: " ++ Text.quoted id
  | .unknown id => "unknown component: " ++ Text.quoted id

/-- The user that a custom id of the retracting button names. -/
def parseCustomId (id : String) : Except ComponentError String :=
  match (Text.splitAt ';' id.toList).map String.ofList with
  | name :: args =>
    if name ≠ cleanupName then .error (.unknown id)
    else
      match args with
      | [issuer] => if issuer = "" then .error (.malformed id) else .ok issuer
      | _ => .error (.malformed id)
  | [] => .error (.unknown id)

end TermBot.Bot
