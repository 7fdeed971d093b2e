import TermBot.Cli.Flag
import TermBot.Text.Case

/-!
# Commands

The first argument that is neither a flag nor the value of one names the command. A name that is not
known is answered with names that it may have meant.
-/

namespace TermBot.Cli

/-- The commands. -/
inductive Command where
  /-- Connects to the chat and serves commands there. -/
  | run
  /-- Runs a term through the stages. -/
  | eval
  /-- Runs the term in a file through the stages whenever it changes. -/
  | watch
  | help
  | completion
  deriving DecidableEq, Repr

/-- The name of the program. -/
def programName : String := "calbot"

/-- All commands, in the order in which they are suggested. -/
def Command.all : List Command := [.run, .eval, .watch, .help, .completion]

/-- The name of a command. -/
def Command.name : Command → String
  | .run => "run"
  | .eval => "eval"
  | .watch => "watch"
  | .help => "help"
  | .completion => "completion"

/-- The flags of all commands. -/
def sharedFlags : List Flag :=
  [{ name := "config", letter := some 'c' }, { name := "log-level" }, { name := "log-format" }]

/-- Asks for help. -/
def helpFlag : Flag := { name := "help", letter := some 'h', kind := .switch }

/-- The flags of a command besides the shared ones. -/
def Command.ownFlags : Command → List Flag
  | .run => [{ name := "watch-config", kind := .switch }]
  | .eval | .watch =>
    [{ name := "stage", letter := some 's' },
     { name := "width", letter := some 'w', kind := .integer }]
  | .help | .completion => []

/-- The flags that a command understands. -/
def Command.flags (c : Command) : List Flag := helpFlag :: c.ownFlags ++ sharedFlags

/-- The argument is a flag that is followed by its value. A flag that is not known counts as one. -/
def takesNext (flags : List Flag) (arg : String) : Bool :=
  match arg.toList with
  | '-' :: '-' :: name =>
    !name.contains '=' && !flags.any fun f => f.name = String.ofList name && f.kind = .switch
  | ['-', c] =>
    c ≠ '=' && c.utf8Size = 1 && !flags.any fun f => f.letter = some c && f.kind = .switch
  | _ => false

/-- The arguments that are neither flags nor their values. A flag that is followed by one argument at
most ends them. -/
def positionals (flags : List Flag) : List String → List String
  | [] => []
  | [arg] => if isFlag arg then [] else [arg]
  | arg :: next :: rest =>
    if arg = "--" then []
    else if takesNext flags arg then
      if rest.isEmpty then [] else positionals flags rest
    else if isFlag arg then positionals flags (next :: rest)
    else arg :: positionals flags (next :: rest)
where
  /-- Counts as no argument. -/
  isFlag (arg : String) : Bool := arg = "" || arg.startsWith "-"

/-- The arguments without the first one that names the command. -/
def withoutName (flags : List Flag) (name : String) : List String → List String
  | [] => []
  | [arg] => if arg = name then [] else [arg]
  | arg :: next :: rest =>
    if arg = "--" then arg :: next :: rest
    else if takesNext flags arg then arg :: next :: withoutName flags name rest
    else if arg = name && !arg.startsWith "-" then next :: rest
    else arg :: withoutName flags name (next :: rest)

/-- One row of the table of distances: those of the beginnings of `t` to one more byte of the other
text, from the row before. -/
def distanceRow (b : UInt8) : (left : Nat) → (t : List UInt8) → (above : List Nat) → List Nat
  | left, c :: t, diagonal :: up :: above =>
    let d := if b = c then diagonal else min (min up left) diagonal + 1
    d :: distanceRow b d t (up :: above)
  | _, _, _ => []

/-- How many bytes have to be inserted, removed or replaced to get from one text to the other. -/
def distance (s t : List UInt8) : Nat :=
  let first := List.range (t.length + 1)
  let last := s.zipIdx.foldl (fun (row : List Nat) (b, i) => (i + 1) :: distanceRow b (i + 1) t row) first
  last.getLast?.getD 0

/-- Names differ by this much at most from those that are suggested for them. -/
def maxDistance : Nat := 2

/-- The commands that a name may have meant: the name is close, or the start of theirs. -/
def suggestions (typed : String) : List Command :=
  let typed := Text.lowerText typed
  (Command.all.filter (· ≠ .help)).filter fun c =>
    distance typed.toUTF8.toList c.name.toUTF8.toList ≤ maxDistance || c.name.startsWith typed

/-- Why there is no command to carry out. -/
inductive UsageError where
  | flag (e : FlagError)
  | unknownCommand (name : String)
  /-- The command takes no arguments. -/
  | unexpectedArgument (c : Command) (arg : String)
  | wrongCount (wanted given : Nat)
  deriving DecidableEq, Repr

/-- The wording of an error. -/
def UsageError.message : UsageError → String
  | .flag e => e.message
  | .unknownCommand name =>
    let found := suggestions name
    "unknown command " ++ Text.quoted name ++ " for " ++ Text.quoted programName ++
      if found.isEmpty then ""
      else "\n\nDid you mean this?\n" ++ String.join (found.map fun c => "\t" ++ c.name ++ "\n")
  | .unexpectedArgument c arg =>
    "unknown command " ++ Text.quoted arg ++ " for " ++ Text.quoted (programName ++ " " ++ c.name)
  | .wrongCount wanted given => s!"accepts {wanted} arg(s), received {given}"

/-- What is wrong with the number of arguments. -/
def Command.argsFault? (c : Command) (args : List String) : Option UsageError :=
  match c with
  | .run => args.head?.map (.unexpectedArgument c)
  | .watch => if args.length = 1 then none else some (.wrongCount 1 args.length)
  | _ => none

/-- A command with what was said about it. -/
structure Invocation where
  command : Command
  parsed : Parsed

/-- The command that is called, or none when help is asked for. -/
def invocation (args : List String) : Except UsageError (Option Invocation) := do
  match (positionals sharedFlags args).head? with
  | none =>
    let _ ← (Parsed.ofArgs (helpFlag :: sharedFlags) args).mapError .flag
    return none
  | some name =>
    match Command.all.find? (·.name = name) with
    | none => .error (.unknownCommand name)
    | some c =>
      let parsed ← (Parsed.ofArgs c.flags (withoutName sharedFlags name args)).mapError .flag
      if parsed.isOn helpFlag.name || c = .help || c = .completion then return none
      else
        match c.argsFault? parsed.args with
        | some e => .error e
        | none => return some ⟨c, parsed⟩

end TermBot.Cli
