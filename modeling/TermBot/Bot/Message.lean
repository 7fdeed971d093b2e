import TermBot.Config.Basic

/-!
# Messages

What comes in from a chat and what goes out to it.
-/

namespace TermBot.Bot

/-- A user of the chat. -/
structure User where
  id : String := ""
  tag : String := ""
  isBot : Bool := false
  deriving DecidableEq, Repr

/-- A message that came in. Times count nanoseconds from a common start. -/
structure Message where
  id : String
  channel : String
  /-- Empty for a direct message. -/
  guild : String
  author : User
  content : String
  time : Int
  deriving DecidableEq, Repr

/-- The message was sent to the bot alone. -/
def Message.isDirect (m : Message) : Bool := m.guild = ""

/-- A named part of a card. -/
structure Field where
  name : String
  value : String
  inLine : Bool := false
  deriving DecidableEq, Repr

/-- A card in a message. -/
structure Card where
  title : String := ""
  description : String := ""
  color : Int := 0
  fields : List Field := []
  footer : String := ""
  deriving DecidableEq, Repr

/-- A button below a message. -/
structure Button where
  label : String
  emoji : String
  customId : String
  deriving DecidableEq, Repr

/-- A message that goes out, or the new form of one that did. -/
structure Outgoing where
  content : String := ""
  cards : List Card := []
  buttons : List Button := []
  /-- The message in the same channel that this one answers, if any. -/
  replyTo : String := ""
  deriving DecidableEq, Repr

/-- A message that was delivered. -/
structure Sent where
  id : String
  channel : String
  time : Int
  deriving DecidableEq, Repr

/-- A press of a button below a message of the bot. -/
structure Press where
  interaction : String := ""
  token : String := ""
  customId : String := ""
  user : User := {}
  channel : String := ""
  message : String := ""
  /-- The user may delete the messages of others. -/
  moderates : Bool := false
  deriving DecidableEq, Repr

/-- A session that has finished connecting. -/
structure Ready where
  user : User
  guilds : Nat
  deriving DecidableEq, Repr

end TermBot.Bot
