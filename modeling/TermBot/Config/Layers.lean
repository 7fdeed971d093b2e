import TermBot.Config.Draft
import TermBot.Config.Memory
import TermBot.Text.Numeral

/-!
# The layers of a configuration

A configuration starts as a copy of the defaults. What a file says replaces them, and what the environment
says is then written over that, one variable after another. Only a configuration without fault is handed
out: `finish`.
-/

namespace TermBot.Config

/-- Puts what a file says over the defaults. The presence is taken as a whole, when it has a name. -/
def overlay (base : Config) (d : Draft) : Config where
  token := if d.token = "" then base.token else d.token
  appId := if d.appId = 0 then base.appId else d.appId
  status :=
    if d.status.name = "" then base.status
    else if d.status.kind = "" then { d.status with kind := ActivityKind.playing.label }
    else d.status
  logLevel := if d.logLevel = "" then base.logLevel else d.logLevel
  logFormat := if d.logFormat = "" then base.logFormat else d.logFormat
  commandPrefix := if d.commandPrefix = "" then base.commandPrefix else d.commandPrefix
  owners := d.owners.getD base.owners
  width := if d.width = 0 then base.width else d.width

/-- The values of environment variables. -/
abbrev Environment := String → Option String

/-- A variable that is set to something. -/
def Environment.value? (env : Environment) (name : String) : Option String :=
  (env name).filter (· ≠ "")

/-- A variable that holds no number in range. -/
structure EnvFault where
  name : String
  reader : String
  text : String
  fault : Text.NumeralFault
  deriving DecidableEq, Repr

/-- The wording of a fault. -/
def EnvFault.message (f : EnvFault) : String :=
  "environment variable error: " ++ f.name ++ ": " ++ f.fault.message f.reader f.text

/-- The words of a list that is separated by commas and spaces. -/
def listed (s : String) : List String :=
  let cs := s.toList.map fun c => if c = ' ' then ',' else c
  ((Text.splitAt ',' cs).filter (!·.isEmpty)).map String.ofList

/-- A setting that a variable of the environment may give. -/
structure Setting where
  /-- The name of the variable behind the scope. -/
  name : String
  /-- Takes over the text of the variable of that full name. -/
  take : (name text : String) → Config → Except EnvFault Config

/-- A setting that takes over every text. -/
def Setting.ofText (name : String) (put : String → Config → Config) : Setting where
  name
  take _ text c := .ok (put text c)

/-- A setting that takes over the number in a text. -/
def Setting.ofNumber {α : Type} (name reader : String) (read : String → Except Text.NumeralFault α)
    (put : α → Config → Config) : Setting where
  name
  take name text c :=
    match read text with
    | .error fault => .error { name, reader, text, fault }
    | .ok value => .ok (put value c)

/-- The settings in the order in which they are looked up. -/
def settings : List Setting :=
  [.ofText "DISCORD_TOKEN" fun text c => { c with token := text },
   .ofNumber "DISCORD_APPID" "strconv.ParseUint" Text.unsignedDecimal fun appId c => { c with appId },
   .ofText "LOG_LEVEL" fun text c => { c with logLevel := Text.lowerText text },
   .ofText "LOG_FORMAT" fun text c => { c with logFormat := Text.lowerText text },
   .ofText "PREFIX" fun text c => { c with commandPrefix := text },
   .ofText "OWNERS" fun text c => { c with owners := listed text },
   .ofNumber "RENDER_WIDTH" "strconv.Atoi" Text.decimal fun width c => { c with width }]

section

variable (env : Environment) (scope : String)

/-- Writes a setting over the configuration at an address, when its variable is set to something. The names
of the variables start with `scope`. -/
def takeOver (p : Address) (s : Setting) : Loading EnvFault Unit := do
  let name := scope ++ "_" ++ s.name
  match env.value? name with
  | none => return
  | some text =>
    let c ← Memory.read p
    Memory.write p (← s.take name text c)

/-- Writes what the environment says over the configuration at an address. -/
def override (p : Address) : Loading EnvFault Unit := settings.forM (takeOver env scope p)

end

/-- Why the layers give no configuration. -/
inductive LayerError where
  | unreadable
  | environment (f : EnvFault)
  | invalid (f : ConfigFault)
  deriving DecidableEq, Repr

/-- A copy of the defaults; without any it is the standard configuration. -/
def copyDefaults (defaults : Option Address) : StateM Memory Address := do
  match defaults with
  | none => Memory.keep standard
  | some p => Memory.keep (← Memory.read p)

/-- Writes the environment over the configuration at an address, which is handed out if it then has no
fault. -/
def complete (env : Environment) (scope : String) (p : Address) : Loading LayerError Address := do
  ExceptT.adapt .environment (override env scope p)
  match (← Memory.read p).fault? with
  | some f => throw (.invalid f)
  | none => return p

/-- The configuration that the defaults and the environment give. -/
def bare (defaults : Option Address) (env : Environment) (scope : String) : Loading LayerError Address := do
  complete env scope (← copyDefaults defaults)

/-- The configuration that all layers give; without a draft the file does not decode. -/
def finish (defaults : Option Address) (draft : Option Draft) (env : Environment) (scope : String) :
    Loading LayerError Address := do
  match draft with
  | none => throw .unreadable
  | some d =>
    let base ← Memory.read (← copyDefaults defaults)
    complete env scope (← Memory.keep (overlay base d))

end TermBot.Config
