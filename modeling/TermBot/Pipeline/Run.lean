import TermBot.Pipeline.Depth
import TermBot.Pipeline.Trim
import TermBot.Render.Value
import TermBot.Scoped.Resolve
import TermBot.Surface.Parser
import TermBot.Typing.Checker

/-!
# Running a term through the stages

A run parses, resolves and infers. Each stage renders what it found before the next one starts. A
term that does not parse or resolve is reported once, and the run ends with that. The collaborators
act on a world of type `σ` and fail with errors of type `ρ`; every call of one is written down, so
the journal of a run shows what happened in which order.
-/

namespace TermBot.Pipeline

open Surface (Term Fault)
open Text (Measure)
open Scoped (Expr Ty)
open Typing (Context)

/-- A piece of text with a title; `code` says that it is shown as code. -/
structure Section where
  title : String
  body : String
  code : Bool := false
  deriving DecidableEq, Repr

/-- Why a text is not parsed. -/
inductive ParseError where
  | fault (f : Fault) (source : String)
  | plain (message : String)
  deriving DecidableEq, Repr

/-- The wording of a parse error. -/
def ParseError.message : ParseError → String
  | .fault f _ => f.message
  | .plain m => m

/-- What a reader sees of a parse error. -/
def ParseError.body [Measure] : ParseError → String
  | .fault f src => f.diagnostic (Text.scalarsOf src)
  | .plain m => m

/-- What works on terms. -/
structure Engine (σ : Type) where
  parse : String → σ → Except ParseError Term × σ
  resolve : Term → σ → Option Expr × σ
  infer : Expr → σ → (Option Ty × Context) × σ

/-- The collaborators of a run. -/
structure Collaborators (σ ρ : Type) where
  engine : Engine σ
  render : Render.Value → σ → Except ρ String × σ
  report : Section → σ → Except ρ Unit × σ

/-- A call of a collaborator. -/
inductive Call where
  | parse
  | resolve
  | infer
  | render (kind : String)
  | report (r : Section)
  deriving DecidableEq, Repr

/-- The world and the calls made so far. -/
structure Journal (σ : Type) where
  world : σ
  calls : List Call := []

/-- What a rendering was for. -/
inductive Stage where
  | parsed
  | resolved
  | inferred
  deriving DecidableEq, Repr

/-- How messages call what a stage renders. -/
def Stage.label : Stage → String
  | .parsed => "parsed term"
  | .resolved => "resolved term"
  | .inferred => "inferred type"

/-- Why a run ends early. -/
inductive RunError (ρ : Type) where
  /-- The text does not parse; this has been reported. -/
  | unparsed (e : ParseError)
  /-- The term does not resolve; this has been reported. -/
  | unresolved
  | reportUnparsed (e : ρ)
  | reportUnresolved (e : ρ)
  | render (stage : Stage) (e : ρ)

variable {σ ρ : Type}

/-- The wording of an error. -/
def RunError.message (describe : ρ → String) : RunError ρ → String
  | .unparsed e => "syntax error: " ++ e.message
  | .unresolved => "resolution error"
  | .reportUnparsed e => "report syntax error: " ++ describe e
  | .reportUnresolved e => "report resolution error: " ++ describe e
  | .render s e => "render " ++ s.label ++ ": " ++ describe e

/-- The error was reported before the run ended. -/
def RunError.reported : RunError ρ → Bool
  | .unparsed _ | .unresolved => true
  | _ => false

/-- The outcome of inference; without a type the term is uninferrable, which is no error. -/
structure Inference where
  type : Option Ty
  text : String
  context : Context

/-- What a run found, in the order of the stages. -/
structure Result where
  sections : List Section := []
  parsed : Option Term := none
  resolved : Option Expr := none
  inference : Option Inference := none

/-- What is said about a term that does not resolve. -/
def unresolvedDetail : String := "(More detail in resolution errors is to come soon.)"

/-- What is said about a term without a type. -/
def uninferrable : String := "Uninferrable."

/-- Makes a call of a collaborator and writes it down. -/
def calling {α : Type} (c : Call) (act : σ → α × σ) : StateM (Journal σ) α := fun j =>
  let (a, w) := act j.world
  (a, ⟨w, j.calls ++ [c]⟩)

section

variable (c : Collaborators σ ρ)

/-- Renders a value. -/
def rendering (stage : Stage) (v : Render.Value) :
    StateM (Journal σ) (Except (RunError ρ) String) := do
  match ← calling (.render v.kind) (c.render v) with
  | .ok text => return .ok text
  | .error e => return .error (.render stage e)

/-- Parses what a message holds and renders it. -/
def parseStage [Measure] (raw : String) : StateM (Journal σ) (Except (RunError ρ) (Term × String)) := do
  match ← calling .parse (c.engine.parse (trimInput raw)) with
  | .error e =>
    let r : Section := ⟨"Syntax Error", e.body, true⟩
    match ← calling (.report r) (c.report r) with
    | .error re => return .error (.reportUnparsed re)
    | .ok _ => return .error (.unparsed e)
  | .ok t =>
    match ← rendering c .parsed (.parsed t) with
    | .error e => return .error e
    | .ok text => return .ok (t, text)

/-- Resolves a term and renders it. -/
def resolveStage (t : Term) : StateM (Journal σ) (Except (RunError ρ) (Expr × String)) := do
  match ← calling .resolve (c.engine.resolve t) with
  | none =>
    let r : Section := ⟨"Resolution Error", unresolvedDetail, false⟩
    match ← calling (.report r) (c.report r) with
    | .error re => return .error (.reportUnresolved re)
    | .ok _ => return .error .unresolved
  | some e =>
    match ← rendering c .resolved (.resolved e) with
    | .error err => return .error err
    | .ok text => return .ok (e, text)

/-- Infers the type of a term and renders it. -/
def inferStage (e : Expr) : StateM (Journal σ) (Except (RunError ρ) Inference) := do
  match ← calling .infer (c.engine.infer e) with
  | (none, cx) => return .ok ⟨none, uninferrable, cx⟩
  | (some t, cx) =>
    let t := cx.apply t
    match ← rendering c .inferred (.inferred t) with
    | .error err => return .error err
    | .ok text => return .ok ⟨some t, text, cx⟩

/-- Runs the stages up to a depth. A term that does not resolve still gives the section of the parsed
term; with any other error there is no result. -/
def run [Measure] (raw : String) (depth : Depth) :
    StateM (Journal σ) (Option Result × Option (RunError ρ)) := do
  match ← parseStage c raw with
  | .error e => return (none, some e)
  | .ok (t, text) =>
    let res : Result := { sections := [⟨"Parsed Term", text, true⟩], parsed := some t }
    if depth.level ≤ Depth.parse.level then return (some res, none)
    match ← resolveStage c t with
    | .error .unresolved => return (some res, some .unresolved)
    | .error e => return (none, some e)
    | .ok (e, text) =>
      let res := { res with
        sections := res.sections ++ [⟨"Resolved Term", text, true⟩]
        resolved := some e }
      if depth.level ≤ Depth.resolve.level then return (some res, none)
      match ← inferStage c e with
      | .error err => return (none, some err)
      | .ok inf =>
        let res := { res with
          sections := res.sections ++
            [⟨"Inferred Type", inf.text, inf.type.isSome⟩, ⟨"TyCtxt", inf.context.render, true⟩]
          inference := some inf }
        return (some res, none)

end

/-- The engine for System F, with a bound on the depth of inference. -/
def systemF (depth : Nat) : Engine σ where
  parse s w := ((Surface.parse s).mapError (.fault · s), w)
  resolve t w := (Scoped.resolve t, w)
  infer e w :=
    match (Typing.infer depth e).run {} with
    | (.ok t, cx) => ((some t, cx), w)
    | (.error _, cx) => ((none, cx), w)

/-- A collaborator that a pipeline cannot do without. -/
inductive Part where
  | engine
  | renderer
  deriving DecidableEq, Repr

/-- The wording for a missing part. -/
def Part.missing (p : Part) : String :=
  "pipeline: missing dependency: " ++ match p with
    | .engine => "engine"
    | .renderer => "renderer"

/-- The first part that is missing. -/
def missingPart? (hasEngine hasRenderer : Bool) : Option Part :=
  if !hasEngine then some .engine else if !hasRenderer then some .renderer else none

end TermBot.Pipeline
