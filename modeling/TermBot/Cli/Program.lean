import TermBot.Cli.Command
import TermBot.Config.Load
import TermBot.Files.Watch
import TermBot.Log
import TermBot.Pipeline.Run
import TermBot.Render.Service
import TermBot.Text.Width

/-!
# The program

What the program prints and how it ends, from its arguments, its input, the files and the environment.
Terms are run through the stages here, without a chat; what the stages report goes to the error
output.
-/

namespace TermBot.Cli

/-- What is printed, and the code that the program ends with. -/
structure Output where
  code : Nat := 0
  stdout : String := ""
  stderr : String := ""
  deriving DecidableEq, Repr

/-- What the program finds when it starts. -/
structure Surroundings where
  stdin : String := ""
  files : Files.Tree := {}
  env : Config.Environment := fun _ => none
  /-- The directory that paths start from. -/
  home : String

/-- How a call of the program goes on. -/
inductive Outcome where
  | ended (o : Output)
  | help
  /-- Something was printed, and the file at `path` is watched from now on. -/
  | watching (path : String) (o : Output)
  /-- The bot connects to the chat. -/
  | serving (c : Config)

/-- Ends with an error. -/
def failing (message : String) : Outcome :=
  .ended { code := 1, stderr := "Error: " ++ message ++ "\n" }

/-- A text with all its lines moved in. -/
def indented (s : String) : String := "  " ++ s.replace "\n" "\n  "

/-- A section as it is printed. -/
def printed (s : Pipeline.Section) : String := s.title ++ ":\n" ++ indented s.body ++ "\n"

/-- What the stages act on here: the rendering, and the reports printed so far. -/
structure Desk where
  renderer : Render.RenderSystem
  reports : String := ""

/-- The stages with lines of a width. -/
def localStages [Text.Measure] (width : Int64) : Pipeline.Collaborators Desk Render.RequestError where
  engine := Pipeline.systemF Typing.ampleDepth
  render v d :=
    let h := Render.handler Render.standardBuilder width false
    let (r, renderer) := Render.render h 0 v false d.renderer
    (r, { d with renderer })
  report s d := (.ok (), { d with reports := d.reports ++ printed s })

/-- A desk with a renderer of its own. -/
def Desk.new [Text.Measure] (width : Int64) : Desk :=
  { renderer := (Render.start (Render.handler Render.standardBuilder width false) {}).2 }

/-- Runs a term through the stages. -/
def runTerm [Text.Measure] (width : Int) (raw : String) (depth : Pipeline.Depth) : Output :=
  let width := Int64.ofInt (Render.lineWidth width)
  let ((res, err), journal) :=
    (Pipeline.run (localStages width) raw depth).run { world := Desk.new width }
  let stdout := String.join (((res.map (·.sections)).getD []).map printed)
  let stderr := journal.world.reports
  match err with
  | none => { stdout, stderr }
  | some e =>
    let shown := if e.reported then "" else "Error: " ++ e.message (·.message) ++ "\n"
    { code := 1, stdout, stderr := stderr ++ shown }

/-- How deep terms are run, unless a flag says so. -/
def standardStage : String := "infer"

/-- Runs what follows with the depth and the width that the flags give. -/
def withStage (p : Parsed) (k : Pipeline.Depth → Int → Outcome) : Outcome :=
  let name := (p.value? "stage").getD standardStage
  match Pipeline.Depth.ofName? name with
  | none => failing (Pipeline.unknownStage name)
  | some depth =>
    k depth (((p.value? "width").bind fun v => (Text.integer v).toOption).getD Render.defaultWidth)

/-- Runs the arguments, or else the input, through the stages. -/
def evalTerm [Text.Measure] (p : Parsed) (s : Surroundings) : Outcome :=
  withStage p fun depth width =>
    .ended (runTerm width (if p.args.isEmpty then s.stdin else " ".intercalate p.args) depth)

/-- Runs the term in a file, if it can be read, as one of the times that it changes. -/
def runFile [Text.Measure] (width : Int) (depth : Pipeline.Depth) (path : String) (files : Files.Tree) : Output :=
  match files.read path with
  | .error _ => {}
  | .ok text =>
    let o := runTerm width text depth
    { stdout := "--- " ++ path ++ "\n" ++ o.stdout, stderr := o.stderr }

/-- Runs the term in a file and goes on to watch the file. -/
def watchFile [Text.Measure] (p : Parsed) (s : Surroundings) : Outcome :=
  withStage p fun depth width =>
    let path := p.args.head?.getD ""
    match Files.Watch.start s.files s.home path with
    | .error e => failing e
    | .ok _ => .watching path (runFile width depth path s.files)

/-- Where configurations are searched for. -/
def searchPaths : List String := [".", "./config", "/etc/calbot"]

/-- The wording for a configuration that is to be watched and is not named. -/
def watchNeedsFile : String := "--watch-config needs an explicit --config file"

/-- Loads the configuration and checks the credentials. -/
def serve (p : Parsed) (s : Surroundings) : Outcome :=
  let path := (p.value? "config").getD ""
  if p.isOn "watch-config" && path = "" then failing watchNeedsFile
  else
    match (({ searchPaths, env := s.env } : Config.Loader).perform (·.load s.files path)).1 with
    | .error e => failing e.message
    | .ok c =>
      match c.missingCredential? with
      | some m => failing m.missing
      | none => .serving c

/-- What is wrong with the logging that the flags ask for. -/
def loggingFault? (p : Parsed) : Option Log.LogError :=
  match Log.levelFor ((p.value? "log-level").getD "info") ((p.value? "log-format").getD "console") with
  | .ok _ => none
  | .error e => some e

/-- Carries the call out. -/
def program [Text.Measure] (args : List String) (s : Surroundings) : Outcome :=
  match invocation args with
  | .error e => failing e.message
  | .ok none => .help
  | .ok (some i) =>
    match loggingFault? i.parsed with
    | some e => failing e.message
    | none =>
      match i.command with
      | .run => serve i.parsed s
      | .eval => evalTerm i.parsed s
      | .watch => watchFile i.parsed s
      | .help | .completion => .help

/-- The program measures texts as a terminal does. -/
instance : Text.Measure := Text.terminal

end TermBot.Cli
