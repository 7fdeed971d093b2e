import TermBot.Text.Case
import TermBot.Text.Quoted

/-!
# Logging

A logger is made from the name of a format and of a level. A level lets messages of its own severity
and above through.
-/

namespace TermBot.Log

/-- The severity of a message, from the least to the most. -/
inductive Level where
  | debug
  | info
  | warn
  | error
  | dpanic
  | panic
  | fatal
  deriving DecidableEq, Repr

/-- The levels from the least severe on. -/
def Level.all : List Level := [.debug, .info, .warn, .error, .dpanic, .panic, .fatal]

/-- The name of a level. -/
def Level.label : Level → String
  | .debug => "debug"
  | .info => "info"
  | .warn => "warn"
  | .error => "error"
  | .dpanic => "dpanic"
  | .panic => "panic"
  | .fatal => "fatal"

/-- The level with a name, which may be in any case. -/
def Level.ofName? (name : String) : Option Level :=
  let name := Text.lowerText name
  if name = "warning" then some .warn else all.find? (·.label = name)

/-- The levels that a logger of this level lets through. -/
def Level.enabled (l : Level) : List Level := all.dropWhile (· ≠ l)

/-- Why there is no logger. -/
inductive LogError where
  | format (name : String)
  | level (name : String)
  deriving DecidableEq, Repr

/-- The wording of an error. -/
def LogError.message : LogError → String
  | .format f => "unknown log format " ++ Text.quoted f
  | .level l => "invalid log level: unrecognized level: " ++ Text.quoted l

/-- The level of a logger of this format when none is given. -/
def standardLevel? (format : String) : Option Level :=
  match Text.lowerText format with
  | "" | "json" => some .info
  | "console" | "text" => some .debug
  | _ => none

/-- The level of the logger with these names. The format is looked at first. -/
def levelFor (level format : String) : Except LogError Level :=
  match standardLevel? format with
  | none => .error (.format format)
  | some standard =>
    if level = "" then .ok standard
    else
      match Level.ofName? level with
      | some l => .ok l
      | none => .error (.level level)

/-- Which logger a message goes to. -/
inductive Sink where
  | stored
  | fallback
  | discard
  deriving DecidableEq, Repr

/-- The name of a sink. -/
def Sink.label : Sink → String
  | .stored => "stored"
  | .fallback => "fallback"
  | .discard => "nop"

/-- The logger stored last, else the fallback, else none. A store without a logger hides an earlier
one. -/
def choose (stores : List Bool) (fallback : Bool) : Sink :=
  if stores.getLast? = some true then .stored else if fallback then .fallback else .discard

end TermBot.Log
