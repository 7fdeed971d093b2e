import TermBot.Text.Quoted

/-!
# How far a run goes

A depth is a level: 1 parses, 2 also resolves, 3 also infers. Every level is allowed; what is not
above a stage ends with it.
-/

namespace TermBot.Pipeline

/-- How far a run goes. -/
structure Depth where
  level : Int
  deriving DecidableEq, Repr

/-- Parse only. -/
def Depth.parse : Depth := ⟨1⟩

/-- Parse and resolve. -/
def Depth.resolve : Depth := ⟨2⟩

/-- All stages. -/
def Depth.infer : Depth := ⟨3⟩

/-- The name of a depth. -/
def Depth.label (d : Depth) : String :=
  if d = .parse then "parse"
  else if d = .resolve then "resolve"
  else if d = .infer then "infer"
  else s!"depth({d.level})"

/-- The depth with a name. -/
def Depth.ofName? : String → Option Depth
  | "parse" => some .parse
  | "resolve" => some .resolve
  | "infer" | "typeck" | "typecheck" | "tc" => some .infer
  | _ => none

/-- The wording for a name of no depth. -/
def unknownStage (name : String) : String := "unknown stage " ++ Text.quoted name

end TermBot.Pipeline
