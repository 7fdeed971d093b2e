import TermBot.Bot.Message

/-!
# Accounts and interactions

How the service describes users, presses and applications, and what the bot makes of them. A part
that is not described is `none`.
-/

namespace TermBot.Discord

open TermBot.Bot

/-- A user as the service describes one. -/
structure Account where
  id : String := ""
  username : String := ""
  /-- Tells users of one name apart; `0` for a name that is unique. -/
  discriminator : String := ""
  isBot : Bool := false
  deriving DecidableEq, Repr

/-- The name that is shown. -/
def Account.tag (a : Account) : String :=
  if a.discriminator = "0" then a.username else a.username ++ "#" ++ a.discriminator

/-- The user with this account. -/
def Account.user (a : Account) : User := { id := a.id, tag := a.tag, isBot := a.isBot }

/-- The user with an account that may not be described. -/
def userOf (a : Option Account) : User := (a.map Account.user).getD {}

/-- A user in a guild. -/
structure Member where
  account : Option Account := none
  permissions : Int64 := 0
  deriving DecidableEq

/-- The permission to delete the messages of others. -/
def manageMessages : Int64 := 0x2000

/-- The member may delete the messages of others. -/
def Member.moderates (m : Member) : Bool := m.permissions &&& manageMessages ≠ 0

/-- What an interaction is about. -/
inductive Subject where
  /-- A part of a message, by its custom id. -/
  | component (customId : String)
  | command
  deriving DecidableEq, Repr

/-- Something that a user does with the bot besides writing. -/
structure Interaction where
  id : String := ""
  token : String := ""
  channel : String := ""
  kind : Int := 0
  subject : Option Subject := none
  /-- The message that it belongs to. -/
  message : Option String := none
  member : Option Member := none
  account : Option Account := none
  deriving DecidableEq

/-- The kind of interactions with a part of a message. -/
def componentKind : Int := 3

/-- Who interacts: in a guild a member. -/
def Interaction.user (i : Interaction) : User :=
  match i.member with
  | some m => userOf m.account
  | none => userOf i.account

/-- The press that an interaction is, if it is one. -/
def Interaction.press? (i : Interaction) : Option Press :=
  if i.kind ≠ componentKind then none
  else
    match i.message, i.subject with
    | some message, some (.component customId) =>
      some {
        interaction := i.id, token := i.token, customId, user := i.user, channel := i.channel, message
        moderates := i.member.any Member.moderates }
    | _, _ => none

/-- The application of the bot: its owner, and the owner of its team if it belongs to one. -/
structure Application where
  owner : Option Account := none
  teamOwner : Option String := none
  deriving DecidableEq, Repr

/-- Says something. -/
def filled? (s : String) : Option String := if s = "" then none else some s

/-- The owner of an application: that of the team before its own. -/
def Application.owner? (a : Application) : Option String :=
  (a.teamOwner.bind filled?).or (a.owner.bind fun o => filled? o.id)

/-- The wording for an application without an owner. -/
def noOwner : String := "application has no owner"

/-- The number of a kind of activity. -/
def activityCode : ActivityKind → Nat
  | .playing => 0
  | .streaming => 1
  | .listening => 2
  | .watching => 3
  | .competing => 5

/-- The number of the kind of an activity; an unknown kind counts as playing. -/
def kindCode (a : Activity) : Nat :=
  activityCode ((ActivityKind.ofName? a.kind).getD .playing)

end TermBot.Discord
