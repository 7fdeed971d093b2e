import TermBot.Config.Basic
import TermBot.Json.Reader
import TermBot.Json.Shape

/-!
# What a configuration file says

A draft is a decoded file. An empty text and a zero say nothing; a list of owners says something even
when it is empty. `Draft.ofJson?` decodes a JSON value: names of members match up to case, a later
member wins over an earlier one, `null` says nothing, and a value of another shape than expected
spoils the file.
-/

namespace TermBot.Config

open Json (Mismatch memberOf? shapeName)

/-- What a file says. -/
structure Draft where
  token : String := ""
  appId : UInt64 := 0
  status : Activity := {}
  logLevel : String := ""
  logFormat : String := ""
  commandPrefix : String := ""
  owners : Option (List String) := none
  /-- What longer lists of owners said behind the end of the one that counts. -/
  pastOwners : List String := []
  width : Int := 0
  deriving DecidableEq, Repr

/-- Takes over the members of an object one by one; `null` has none. -/
def overMembers? {α : Type} (take : String → Json → α → Option α) (j : Json) (a : α) : Option α :=
  match j with
  | .null => some a
  | .obj ms => ms.foldlM (fun a (k, v) => take k v a) a
  | _ => none

/-- A text, or the earlier one for `null`. -/
def textOver? (j : Json) (old : String) : Option String :=
  match j with
  | .null => some old
  | .str s => some s
  | _ => none

/-- An integer of 64 signed bits, or the earlier one for `null`. -/
def intOver? (j : Json) (old : Int) : Option Int :=
  match j with
  | .null => some old
  | .num l => (Text.decimal l).toOption
  | _ => none

/-- An integer of 64 unsigned bits, or the earlier one for `null`. -/
def wordOver? (j : Json) (old : UInt64) : Option UInt64 :=
  match j with
  | .null => some old
  | .num l => (Text.unsignedDecimal l).toOption
  | _ => none

/-- A list of texts; `null` inside it keeps what an earlier list said at that place, and a list that is
empty or `null` forgets the earlier ones. -/
def ownersOver? (j : Json) (d : Draft) : Option Draft :=
  match j with
  | .null => some { d with owners := none, pastOwners := [] }
  | .arr [] => some { d with owners := some [], pastOwners := [] }
  | .arr items => do
    let past := d.owners.getD [] ++ d.pastOwners
    let owners ← items.zipIdx.mapM fun (item, i) => textOver? item (past[i]?.getD "")
    return { d with owners := some owners, pastOwners := past.drop items.length }
  | _ => none

/-- One member of an activity. -/
def activityMember? (name : String) (v : Json) (a : Activity) : Option Activity :=
  match memberOf? ["name", "type", "url"] name with
  | some "name" => do return { a with name := ← textOver? v a.name }
  | some "type" => do return { a with kind := ← textOver? v a.kind }
  | some "url" => do return { a with url := ← textOver? v a.url }
  | _ => some a

/-- One member of the section on credentials and presence. -/
def discordMember? (name : String) (v : Json) (d : Draft) : Option Draft :=
  match memberOf? ["token", "appid", "status"] name with
  | some "token" => do return { d with token := ← textOver? v d.token }
  | some "appid" => do return { d with appId := ← wordOver? v d.appId }
  | some "status" => do
    return { d with status := ← overMembers? activityMember? v d.status }
  | _ => some d

/-- One member of the section on logging and dispatch. -/
def generalMember? (name : String) (v : Json) (d : Draft) : Option Draft :=
  match memberOf? ["log", "log_format", "prefix", "owners"] name with
  | some "log" => do return { d with logLevel := ← textOver? v d.logLevel }
  | some "log_format" => do return { d with logFormat := ← textOver? v d.logFormat }
  | some "prefix" => do return { d with commandPrefix := ← textOver? v d.commandPrefix }
  | some "owners" => ownersOver? v d
  | _ => some d

/-- One member of the section on layout. -/
def renderMember? (name : String) (v : Json) (d : Draft) : Option Draft :=
  match memberOf? ["width"] name with
  | some _ => do return { d with width := ← intOver? v d.width }
  | none => some d

/-- One section. -/
def sectionMember? (name : String) (v : Json) (d : Draft) : Option Draft :=
  match memberOf? ["discord", "general", "render"] name with
  | some "discord" => overMembers? discordMember? v d
  | some "general" => overMembers? generalMember? v d
  | some "render" => overMembers? renderMember? v d
  | _ => some d

/-- The draft that a JSON value is. -/
def Draft.ofJson? (j : Json) : Option Draft := overMembers? sectionMember? j {}

/-- Why a text is no activity. -/
inductive ActivityError where
  | unreadable (f : Json.Fault)
  | shape (m : Mismatch)
  | unknownField (name : String)
  | fault (f : ConfigFault)
  deriving DecidableEq, Repr

/-- The text does not even decode. -/
def ActivityError.isDecoding : ActivityError → Bool
  | .fault _ => false
  | _ => true

/-- The wording of an error. -/
def ActivityError.message : ActivityError → String
  | .unreadable f => f.message
  | .shape m => m.message
  | .unknownField name => "json: unknown field " ++ Text.quoted name
  | .fault f => f.message

/-- The first thing that keeps a member from being one of an activity. -/
def memberFault? (name : String) (v : Json) : Option ActivityError :=
  match memberOf? ["name", "type", "url"] name with
  | none => some (.unknownField name)
  | some field =>
    match v with
    | .null | .str _ => none
    | v =>
      some (.shape {
        found := shapeName v, root := "Activity", path := [.member name]
        wanted := if field = "type" then "config.ActivityType" else "string" })

/-- Decodes an activity that has no other members. -/
def decodeActivity (j : Json) : Except ActivityError Activity :=
  let decoded := overMembers? activityMember? j {}
  match j with
  | .obj ms =>
    match ms.findSome? fun (k, v) => memberFault? k v with
    | some e => .error e
    | none => .ok (decoded.getD {})
  | .null => .ok {}
  | j => .error (.shape { found := shapeName j, wanted := "config.Activity" })

/-- Reads an activity that is written as a JSON object. The kind is taken in lower case and is
`playing` when it is not given. -/
def readActivity (s : String) : Except ActivityError Activity := do
  let a ← decodeActivity (← (Json.readFirst s).mapError .unreadable)
  let a := { a with
    kind := if a.kind = "" then ActivityKind.playing.label else Text.lowerText a.kind }
  match a.fault? with
  | some f => .error (.fault f)
  | none => .ok a

end TermBot.Config
