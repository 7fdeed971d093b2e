import TermBot.Config.Draft
import TermBot.Yaml.Meaning

/-!
# Configurations in YAML

Decodes the first document of a YAML text into a draft. Keys match exactly and may not be repeated;
unknown ones are left alone, and so are fields whose value is null. A merge key adds the entries of
other mappings that are not there yet.
-/

namespace TermBot.Config

open Yaml (Node Meaning)

/-- The anchored nodes of a document. -/
abbrev Anchored := List (Nat × Node)

/-- The node itself, or the one that an alias points to. -/
def target? (anchored : Anchored) : Node → Option Node
  | .reference _ i => (anchored.find? (·.1 = i)).map (·.2)
  | n => some n

/-- What a key looks like: two keys of one mapping differ in it. -/
def keyLook : Node → Nat × String
  | .scalar _ _ s => (0, s)
  | .sequence _ => (1, "")
  | .mapping _ => (2, "")
  | .reference name _ => (3, name)

/-- The key that merges other mappings in. -/
def isMerge : Node → Bool
  | .scalar tag plain s => s = "<<" && ((plain && tag = "") || tag = "!!merge")
  | _ => false

/-- A text, or none for a null. Other nodes than scalars are no text. -/
def text? (anchored : Anchored) (n : Node) : Option (Option String) := do
  match ← target? anchored n with
  | .scalar tag plain s =>
    match ← Yaml.meaning? tag plain s with
    | .null => return none
    | .text t => return some t
    | _ => return some s
  | _ => none

/-- An integer between two bounds, or none for a null; a number with a fraction loses it. -/
def int64? (anchored : Anchored) (n : Node) : Option (Option Int) := do
  match ← target? anchored n with
  | .scalar tag plain s =>
    match ← Yaml.meaning? tag plain s with
    | .null => return none
    | .int i => if i < Nat.pow 2 63 then return some i else none
    | .float negative whole =>
      match negative, whole with
      | false, some w =>
        if w < Nat.pow 2 63 then return some (w : Int)
        else if w = Nat.pow 2 63 then return some (-Nat.pow 2 63)
        else none
      | true, some w => return some (-(min w (Nat.pow 2 63) : Nat))
      | false, none => none
      | true, none => return some (-Nat.pow 2 63)
    | _ => none
  | _ => none

/-- A word of 64 bits, or none for a null; a number with a fraction loses it. -/
def word64? (anchored : Anchored) (n : Node) : Option (Option UInt64) := do
  match ← target? anchored n with
  | .scalar tag plain s =>
    match ← Yaml.meaning? tag plain s with
    | .null => return none
    | .int i => if 0 ≤ i then return some i.toNat.toUInt64 else none
    | .float negative whole =>
      match negative, whole with
      | false, some w => if w ≤ Nat.pow 2 64 then return some w.toUInt64 else none
      | true, some w => return some (0 - (min w (Nat.pow 2 63)).toUInt64)
      | false, none => none
      | true, none => return some (Nat.pow 2 63).toUInt64
    | _ => none
  | _ => none

/-- A list of texts, or none for a null. A null inside it is an empty text. -/
def texts? (anchored : Anchored) (n : Node) : Option (Option (List String)) := do
  match ← target? anchored n with
  | .sequence items =>
    return some (← items.mapM fun item => do return (← text? anchored item).getD "")
  | .scalar tag plain s =>
    match ← Yaml.meaning? tag plain s with
    | .null => return none
    | _ => none
  | _ => none

/-- The entries of a mapping by name, own ones before merged ones. `taken` holds the names that may
not be merged in any more; without it a known name that comes twice is a fault. -/
def entries? (anchored : Anchored) (known : List String) : (limit : Nat) → Node →
    (taken : Option (List String)) → Option (List (String × Node))
  | 0, _, _ => none
  | n + 1, node, taken => do
    match ← target? anchored node with
    | .mapping es =>
      let looks := es.map fun (k, _) => keyLook k
      if !looks.Nodup then none
      else
        let named ← (es.filter fun (k, _) => !isMerge k).filterMapM fun (k, v) => do
          return (← text? anchored k).map fun name => (name, v)
        let own ← match taken with
          | none =>
            let names := (named.map (·.1)).filter known.contains
            if names.Nodup then some named else none
          | some ns =>
            some (named.foldl (fun acc (name, v) =>
              if ns.contains name || (acc.map (·.1)).contains name then acc
              else acc ++ [(name, v)]) [])
        let names := taken.getD [] ++ own.map (·.1)
        match (es.filter fun (k, _) => isMerge k).getLast? with
        | none => return own
        | some (_, v) =>
          let parts ← match v with
            | .sequence parts => some parts
            | v => some [v]
          parts.foldlM (fun acc part => do
            return acc ++ (← entries? anchored known n part (some (names ++ acc.map (·.1))))) own
    | _ => none

/-- The entries of a section; a null has none. -/
def sectionEntries? (anchored : Anchored) (known : List String) (n : Node) (size : Nat) :
    Option (List (String × Node)) := do
  match ← target? anchored n with
  | .scalar tag plain s =>
    match ← Yaml.meaning? tag plain s with
    | .null => return []
    | _ => none
  | _ => entries? anchored known size n none

/-- Decodes the fields of a section. -/
def overEntries? {α : Type} (anchored : Anchored) (known : List String) (size : Nat)
    (take : String → Node → α → Option α) (n : Node) (a : α) : Option α := do
  (← sectionEntries? anchored known n size).foldlM (fun a (name, v) => take name v a) a

section

variable (anchored : Anchored) (size : Nat)

/-- One field of an activity. -/
def activityField? (name : String) (v : Node) (a : Activity) : Option Activity :=
  match name with
  | "name" => do return { a with name := (← text? anchored v).getD a.name }
  | "type" => do return { a with kind := (← text? anchored v).getD a.kind }
  | "url" => do return { a with url := (← text? anchored v).getD a.url }
  | _ => some a

/-- One field of the section on credentials and presence. -/
def discordField? (name : String) (v : Node) (d : Draft) : Option Draft :=
  match name with
  | "token" => do return { d with token := (← text? anchored v).getD d.token }
  | "appid" => do return { d with appId := (← word64? anchored v).getD d.appId }
  | "status" => do
    return { d with status :=
      ← overEntries? anchored ["name", "type", "url"] size (activityField? anchored) v d.status }
  | _ => some d

/-- One field of the section on logging and dispatch. -/
def generalField? (name : String) (v : Node) (d : Draft) : Option Draft :=
  match name with
  | "log" => do return { d with logLevel := (← text? anchored v).getD d.logLevel }
  | "log_format" => do return { d with logFormat := (← text? anchored v).getD d.logFormat }
  | "prefix" => do return { d with commandPrefix := (← text? anchored v).getD d.commandPrefix }
  | "owners" => do return { d with owners := ← texts? anchored v }
  | _ => some d

/-- One field of the section on layout. -/
def renderField? (name : String) (v : Node) (d : Draft) : Option Draft :=
  match name with
  | "width" => do return { d with width := (← int64? anchored v).getD d.width }
  | _ => some d

/-- One section. -/
def sectionField? (name : String) (v : Node) (d : Draft) : Option Draft :=
  match name with
  | "discord" =>
    overEntries? anchored ["token", "appid", "status"] size (discordField? anchored size) v d
  | "general" =>
    overEntries? anchored ["log", "log_format", "prefix", "owners"] size (generalField? anchored) v d
  | "render" => overEntries? anchored ["width"] size (renderField? anchored) v d
  | _ => some d

end

/-- The draft that a YAML text is. -/
def Draft.ofYaml? (s : String) : Option Draft := do
  match ← Yaml.read? s with
  | none => return {}
  | some doc =>
    let size := s.length + 1
    overEntries? doc.anchored ["discord", "general", "render"] size
      (sectionField? doc.anchored size) doc.root {}

end TermBot.Config
