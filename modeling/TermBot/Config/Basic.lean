import TermBot.Text.Blank
import TermBot.Text.Quoted

/-!
# Configurations

A configuration holds the credentials, the presence, the logging, the command dispatch and the width
of lines. Any values can stand in it; `Config.fault?` says what is wrong with them, and the first
thing that is wrong counts.
-/

namespace TermBot

/-- A presence: what the bot is shown to be doing. -/
structure Activity where
  name : String := ""
  kind : String := ""
  url : String := ""
  deriving DecidableEq, Repr

/-- The kinds of activity. -/
inductive ActivityKind where
  | playing
  | streaming
  | listening
  | watching
  | competing
  deriving DecidableEq, Repr

/-- All kinds of activity. -/
def ActivityKind.all : List ActivityKind := [.playing, .streaming, .listening, .watching, .competing]

/-- The name of a kind. -/
def ActivityKind.label : ActivityKind → String
  | .playing => "playing"
  | .streaming => "streaming"
  | .listening => "listening"
  | .watching => "watching"
  | .competing => "competing"

/-- The kind with a name. -/
def ActivityKind.ofName? (name : String) : Option ActivityKind := all.find? (·.label = name)

/-- The names of the levels of logging. -/
def logLevels : List String := ["debug", "info", "warn", "error"]

/-- The names of the formats of logging. -/
def logFormats : List String := ["json", "console"]

/-- What is wrong with a configuration. -/
inductive ConfigFault where
  | logLevel (name : String)
  | logFormat (name : String)
  | commandPrefix
  | width (value : Int)
  | unnamedActivity
  | activityKind (name : String)
  deriving DecidableEq, Repr

/-- The wording of a fault. -/
def ConfigFault.message : ConfigFault → String
  | .logLevel l => "invalid log level: " ++ Text.quoted l
  | .logFormat f => "invalid log format: " ++ Text.quoted f
  | .commandPrefix => "invalid command prefix"
  | .width w => s!"invalid render width: {w}"
  | .unnamedActivity => "invalid activity: empty name"
  | .activityKind k => "invalid activity: unknown type " ++ Text.quoted k

/-- What is wrong with an activity. -/
def Activity.fault? (a : Activity) : Option ConfigFault :=
  if a.name = "" then some .unnamedActivity
  else if (ActivityKind.ofName? a.kind).isNone then some (.activityKind a.kind)
  else none

/-- A configuration. -/
structure Config where
  token : String := ""
  appId : UInt64 := 0
  status : Activity := {}
  logLevel : String := ""
  logFormat : String := ""
  /-- What commands start with. -/
  commandPrefix : String := ""
  /-- Owners besides those of the application. -/
  owners : List String := []
  width : Int := 0
  deriving DecidableEq, Repr

namespace Config

/-- The presence when none is configured. -/
def standardStatus : Activity := { name := "🪐✨", kind := ActivityKind.playing.label }

/-- The configuration when nothing is configured. -/
def standard : Config where
  status := standardStatus
  logLevel := "info"
  logFormat := "console"
  commandPrefix := "calbot:"
  width := 80

/-- The first thing that is wrong with a configuration, credentials aside. -/
def fault? (c : Config) : Option ConfigFault :=
  if !logLevels.contains c.logLevel then some (.logLevel c.logLevel)
  else if !logFormats.contains c.logFormat then some (.logFormat c.logFormat)
  else if Text.trim c.commandPrefix = "" then some .commandPrefix
  else if c.width ≤ 0 then some (.width c.width)
  else c.status.fault?

/-- A credential that connecting needs. -/
inductive Credential where
  | token
  | appId
  deriving DecidableEq, Repr

/-- The wording for a missing credential. -/
def Credential.missing : Credential → String
  | .token => "missing discord token"
  | .appId => "missing discord application id"

/-- The first credential that is missing. -/
def missingCredential? (c : Config) : Option Credential :=
  if c.token = "" then some .token else if c.appId = 0 then some .appId else none

/-- The user is listed as an owner. -/
def isOwner (c : Config) (id : String) : Bool := c.owners.contains id

end Config

end TermBot
