import TermBot.Json.Basic
import TermBot.Text.Case

/-!
# Shapes of JSON values

A decoder expects values of certain shapes at certain places. Names of members match up to case, and
of two members that match the later counts: `null` and a value of another shape than expected leave a
plain member as it is, and the members of two objects add up.
-/

namespace TermBot.Json

/-- The members of an object. -/
abbrev Members := List (String × Json)

/-- What messages call the shape of a value. -/
def shapeName : Json → String
  | .null => "null"
  | .bool _ => "bool"
  | .num _ => "number"
  | .str _ => "string"
  | .arr _ => "array"
  | .obj _ => "object"

/-- A step from a value to one of its parts. -/
inductive Step where
  | member (name : String)
  | item (index : Nat)
  deriving DecidableEq, Repr

/-- How a step is written. -/
def Step.text : Step → String
  | .member name => name
  | .item index => toString index

/-- A value of the wrong shape: what it is, the steps to it from the whole value, the name of the type
of the whole, and the type that should stand there. -/
structure Mismatch where
  found : String
  root : String := ""
  path : List Step := []
  wanted : String
  deriving DecidableEq, Repr

/-- Where the value stands: it is the whole, an item of a list, or a member. -/
def Mismatch.place (m : Mismatch) : String :=
  let dotted := m.root ++ "." ++ ".".intercalate (m.path.map Step.text)
  match m.path.getLast? with
  | none => "Go value"
  | some (.item _) => dotted
  | some (.member _) => "Go struct field " ++ dotted

/-- The wording of a mismatch. -/
def Mismatch.message (m : Mismatch) : String :=
  "json: cannot unmarshal " ++ m.found ++ " into " ++ m.place ++ " of type " ++ m.wanted

/-- The member that a name means: the same name up to case. -/
def memberOf? (known : List String) (name : String) : Option String :=
  known.find? fun k => Text.sameFold k.toList name.toList

/-- The values of the members that a name means, in their order. -/
def valuesOf (name : String) (ms : Members) : List Json :=
  (ms.filter fun (k, _) => (memberOf? [name] k).isSome).map (·.2)

/-- The last member of an object that a name means, unless it is `null`. -/
def member? (name : String) : Json → Option Json
  | .obj ms =>
    match (valuesOf name ms).getLast? with
    | some .null | none => none
    | some v => some v
  | _ => none

/-- What the last member that says something says; `read?` is what one says. -/
def lastOf? {α : Type} (read? : Json → Option α) (name : String) (ms : Members) : Option α :=
  (valuesOf name ms).reverse.findSome? read?

/-- The text of a member. -/
def textOf (name : String) (ms : Members) : String := (lastOf? str? name ms).getD ""

/-- The truth value of a member. -/
def boolOf (name : String) (ms : Members) : Bool := (lastOf? bool? name ms).getD false

/-- One value more for a part that may be missing: `null` takes it away, and the members of an object
come after those that are there. -/
def pushPart (part : Option Members) : Json → Option Members
  | .null => none
  | .obj ms => some (part.getD [] ++ ms)
  | _ => some (part.getD [])

/-- The members of a part that may be missing. -/
def partOf? (name : String) (ms : Members) : Option Members := (valuesOf name ms).foldl pushPart none

/-- The members of a value, of which only an object has any. -/
def membersOf (j : Json) : Members := j.obj?.getD []

end TermBot.Json
