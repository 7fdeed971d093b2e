import TermBot.Cli.Program

/-!
# The command line

Reads the input, the files that a call may need and the environment, and prints what the program says.
-/

namespace TermBot.Cli

/-- The text of a file, if it can be read. -/
def readText? (path : String) : IO (Option String) := do
  try return some (← IO.FS.readFile path) catch _ => return none

/-- The paths that a call may read. -/
def candidates (args : List String) : List String :=
  let named := match invocation args with
    | .ok (some i) => i.parsed.args ++ (i.parsed.value? "config").toList
    | _ => []
  named ++ searchPaths.flatMap fun dir => Config.fileNames.map (Files.join dir)

/-- The files that a call may read, and the directories that they lie in. -/
def findFiles (args : List String) : IO Files.Tree := do
  let paths := candidates args
  let files ← paths.filterMapM fun p => do return (← readText? p).map (p, ·)
  let dirs ← (paths.map Files.parentOf).filterMapM fun (d : String) => do
    try return if ← (← IO.FS.realPath d).isDir then some d else none catch _ => return none
  return { files, dirs }

/-- The variables of the environment that a configuration may take values from. -/
def variableNames : List String :=
  ["DISCORD_TOKEN", "DISCORD_APPID", "LOG_LEVEL", "LOG_FORMAT", "PREFIX", "OWNERS",
   "RENDER_WIDTH"].map ("CALBOT_" ++ ·)

/-- The values of these variables. -/
def findEnvironment : IO Config.Environment := do
  let values ← variableNames.filterMapM fun n => do return (← IO.getEnv n).map (n, ·)
  return fun n => values.lookup n

/-- Prints an output. -/
def display (o : Output) : IO Unit := do
  IO.print o.stdout
  IO.eprint o.stderr
  (← IO.getStdout).flush

/-- Runs the term in a file again whenever its text has changed. -/
partial def follow (args : List String) (s : Surroundings) (path : String)
    (old : Option String) : IO Unit := do
  IO.sleep 200
  let text ← readText? path
  if text ≠ old && text.isSome then
    match program args { s with files := ← findFiles args } with
    | .watching _ o => display o
    | _ => pure ()
  follow args s path text

end TermBot.Cli

open TermBot.Cli in
/-- Runs the program. -/
def main (args : List String) : IO UInt32 := do
  let readsInput : Bool := match invocation args with
    | .ok (some i) => i.command = .eval && i.parsed.args.isEmpty
    | _ => false
  let stdin ← if readsInput then (← IO.getStdin).readToEnd else pure ""
  let s : Surroundings := {
    stdin, files := ← findFiles args, env := ← findEnvironment
    home := toString (← IO.currentDir) }
  match program args s with
  | .ended o => display o; return o.code.toUInt32
  | .help => IO.println "usage: calbot run | eval [term] | watch file"; return 0
  | .watching path o => display o; follow args s path (← readText? path); return 0
  | .serving _ => IO.eprintln "Error: open discord session: no connection"; return 1
