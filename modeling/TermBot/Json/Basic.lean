import TermBot.Text.Numeral

/-!
# JSON values

A number keeps its spelling, because its readers decide what they accept. An object keeps its
members in order, repeated names included.
-/

namespace TermBot

/-- A JSON value. -/
inductive Json where
  | null
  | bool (b : Bool)
  | num (literal : String)
  | str (s : String)
  | arr (items : List Json)
  | obj (members : List (String × Json))
  deriving Repr, Inhabited

namespace Json

/-- The number of an integer. -/
def int (n : Int) : Json := num (toString n)

/-- The number of a natural. -/
def nat (n : Nat) : Json := num (toString n)

/-- A list of texts. -/
def strs (ss : List String) : Json := arr (ss.map str)

/-- A text is a value. -/
instance : Coe String Json := ⟨str⟩

/-- A truth value is a value. -/
instance : Coe Bool Json := ⟨bool⟩

/-- A natural number is a value. -/
instance : Coe Nat Json := ⟨nat⟩

/-- An integer is a value. -/
instance : Coe Int Json := ⟨int⟩

/-- A list of values is a value. -/
instance : Coe (List Json) Json := ⟨arr⟩

/-- A list of texts is a value. -/
instance : Coe (List String) Json := ⟨strs⟩

/-- What there is, else `null`. -/
def orNull {α : Type} (toJson : α → Json) (x : Option α) : Json := (x.map toJson).getD null

/-- The first member of this name. -/
def get? (name : String) : Json → Option Json
  | obj ms => (ms.find? (·.1 = name)).map (·.2)
  | _ => none

/-- The text of a string value. -/
def str? : Json → Option String
  | str s => some s
  | _ => none

/-- The value of an integer written without point and exponent. -/
def int? : Json → Option Int
  | num l => (Text.decimal l).toOption
  | _ => none

/-- The value of a truth value. -/
def bool? : Json → Option Bool
  | bool b => some b
  | _ => none

/-- The items of an array. -/
def arr? : Json → Option (List Json)
  | arr xs => some xs
  | _ => none

/-- The members of an object. -/
def obj? : Json → Option (List (String × Json))
  | obj ms => some ms
  | _ => none

end Json

end TermBot
