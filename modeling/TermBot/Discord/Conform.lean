import TermBot.Discord.Schema
import TermBot.Json.Shape
import TermBot.Text.Real
import TermBot.Text.Timestamp

/-!
# Values of the shapes that are expected

`conform` asks whether a value has a shape, and says what is wrong with the first part that has not,
in the order in which the parts are written.
-/

namespace TermBot.Discord

open Json (Members Mismatch Step shapeName)

/-- Why a value is not what the service should describe. -/
inductive Refusal where
  | mismatch (m : Mismatch)
  | time (f : Text.TimeFault)
  | unknownComponent (type : Nat)
  deriving DecidableEq, Repr

/-- The wording of a refusal. -/
def Refusal.message : Refusal → String
  | .mismatch m => m.message
  | .time f => f.message
  | .unknownComponent n => "unknown component type: " ++ toString n

/-- The value of a string of decimal digits. -/
def natural? (ds : List Char) : Option Nat :=
  ds.foldlM (fun n c => if c.isDigit then some (10 * n + (c.toNat - '0'.toNat)) else none) 0

/-- The literal is a number of the type, written without point and exponent. -/
def Whole.holds (w : Whole) (literal : String) : Bool :=
  match literal.toList with
  | '-' :: ds => w.signed && (natural? ds).any (· ≤ Nat.pow 2 (w.bits - 1))
  | ds => (natural? ds).any (· < Nat.pow 2 (if w.signed then w.bits - 1 else w.bits))

/-- The type that messages name for a shape. -/
def Shape.type : Shape → String
  | .text t | .list t _ | .table t _ => t
  | .truth => "bool"
  | .whole w | .quoted w => w.name
  | .real => "float64"
  | .time => "time.Time"
  | .object k | .separate k => k.type
  | .component => Kind.component.type
  | .anything => "interface \x7b\x7d"

/-- A value of another shape than expected. One that is read on its own is a whole. -/
def misfit (root : String) (path : List Step) (s : Shape) (found : String) : Except Refusal Unit :=
  match s with
  | .anything => .ok ()
  | .separate k => .error (.mismatch { found, root := k.name, wanted := s.type })
  | .component => .error (.mismatch { found, wanted := s.type })
  | s => .error (.mismatch { found, root, path, wanted := s.type })

/-- Asks whether a value without parts has a shape. A number that is no number of its type is quoted
in the refusal. -/
def conformPlain (root : String) (path : List Step) (s : Shape) (j : Json) : Except Refusal Unit :=
  match s, j with
  | .text _, .str _ | .truth, .bool _ => .ok ()
  | .whole w, .num l => if w.holds l then .ok () else misfit root path s ("number " ++ l)
  | .quoted _, .str t =>
    if t = "null" || (Text.decimal t).toOption.isSome then .ok ()
    else misfit root path s ("number " ++ t)
  | .real, .num l =>
    if (Text.Decimal.ofLiteral l).fitsReal then .ok () else misfit root path s ("number " ++ l)
  | .time, .str t => ((Text.timestamp t).mapError .time).map fun _ => ()
  | s, j => misfit root path s (shapeName j)

/-- The type of a component. -/
def componentType (ms : Members) : Nat :=
  (Json.lastOf? (fun v => v.int?.map Int.toNat) "type" ms).getD 0

mutual

/-- Asks whether a value has a shape. The path leads to the value from a whole of the named type. -/
def conform (root : String) (path : List Step) (s : Shape) : Json → Except Refusal Unit
  | .null =>
    match s with
    | .component => .error (.unknownComponent 0)
    | _ => .ok ()
  | .arr items =>
    match s with
    | .list _ item => conformItems root path item 0 items
    | s => misfit root path s "array"
  | .obj ms =>
    match s with
    | .object k => conformMembers root path k.members ms
    | .separate k => conformMembers k.name [] k.members ms
    | .table _ item => conformEntries root path item ms
    | .component => do
      conformMembers "" [] Kind.component.members ms
      match componentKind? (componentType ms) with
      | some k => conformMembers k.name [] k.members ms
      | none => .error (.unknownComponent (componentType ms))
    | s => misfit root path s "object"
  | .bool b => conformPlain root path s (.bool b)
  | .num l => conformPlain root path s (.num l)
  | .str t => conformPlain root path s (.str t)

/-- Asks whether all items from a place on have a shape. -/
def conformItems (root : String) (path : List Step) (s : Shape) (i : Nat) :
    List Json → Except Refusal Unit
  | [] => .ok ()
  | j :: rest => do
    conform root (path ++ [.item i]) s j
    conformItems root path s (i + 1) rest

/-- Asks whether the members that are listed have their shapes. -/
def conformMembers (root : String) (path : List Step) (listed : List (String × Shape)) :
    Members → Except Refusal Unit
  | [] => .ok ()
  | (k, v) :: rest => do
    match listed.find? fun (name, _) => Text.sameFold name.toList k.toList with
    | some (_, s) => conform root (path ++ [.member k]) s v
    | none => .ok ()
    conformMembers root path listed rest

/-- Asks whether all members have a shape. -/
def conformEntries (root : String) (path : List Step) (s : Shape) : Members → Except Refusal Unit
  | [] => .ok ()
  | (k, v) :: rest => do
    conform root (path ++ [.member k]) s v
    conformEntries root path s rest

end

/-- Asks whether a whole value is an object of a kind. -/
def conformWhole (k : Kind) (j : Json) : Except Refusal Unit := conform k.name [] (.separate k) j

end TermBot.Discord
