import TermBot.Bot.Suggest
import TermBot.Pipeline.Depth
import TermBot.Text.Blank

/-!
# Commands

Commands stand in groups, some behind a word that all commands of the group share. A command is named
at the start of a text, up to case; the word of a group goes before plain commands.
-/

namespace TermBot.Bot

/-- What a command does. -/
inductive Action where
  | ping
  | help
  | stop
  | status
  | stage (depth : Pipeline.Depth)
  deriving DecidableEq, Repr

/-- A named command. -/
structure Command where
  name : String
  aliases : List String := []
  description : String := ""
  /-- What its arguments are, if it takes some. -/
  usage : String := ""
  ownersOnly : Bool := false
  action : Action
  deriving DecidableEq, Repr

/-- A group of commands. -/
structure Group where
  name : String
  /-- The word before its commands, if they have one. -/
  word : String := ""
  summary : String := ""
  ownersOnly : Bool := false
  /-- Help does not show the group. -/
  isHidden : Bool := false
  commands : List Command
  deriving DecidableEq, Repr

/-- Equal up to case. -/
def sameWord (a b : String) : Bool := Text.sameFold a.toList b.toList

/-- The word names the command. -/
def Command.isNamed (c : Command) (word : String) : Bool := (c.name :: c.aliases).any (sameWord · word)

/-- The command of a group that a word names. -/
def Group.find? (g : Group) (word : String) : Option Command := g.commands.find? (·.isNamed word)

/-- The full name of a command of a group. -/
def Group.qualified (g : Group) (c : Command) : String :=
  if g.word = "" then c.name else g.word ++ " " ++ c.name

/-- Separates words in a message. -/
def isBlank (c : Char) : Bool := c = ' ' || c = '\t' || c = '\r' || c = '\n'

/-- The first word of a text and what follows, both without blanks before them. -/
def nextWord (s : String) : String × String :=
  let cs := s.toList.dropWhile isBlank
  (String.ofList (cs.takeWhile (!isBlank ·)),
    String.ofList ((cs.dropWhile (!isBlank ·)).dropWhile isBlank))

/-- The command named at the start of a text, with its group and its arguments. -/
def lookup? (groups : List Group) (s : String) : Option (Group × Command × String) :=
  let (word, rest) := nextWord s
  if word = "" then none
  else
    match groups.find? fun g => g.word ≠ "" && sameWord g.word word with
    | some g =>
      let (sub, args) := nextWord rest
      (g.find? sub).map fun c => (g, c, args)
    | none =>
      (groups.filter (·.word = "")).findSome? fun g => (g.find? word).map fun c => (g, c, rest)

/-- The command that help is asked for, by its full name or by its own. -/
def helpTarget? (groups : List Group) (query : String) : Option (Group × Command) :=
  match lookup? groups query with
  | some (g, c, _) => some (g, c)
  | none =>
    let (word, rest) := nextWord query
    if rest ≠ "" then none
    else groups.findSome? fun g => (g.find? word).map fun c => (g, c)

/-- The text in code. -/
def inCode (s : String) : String := "`" ++ s ++ "`"

/-- At most this many suggestions are made. -/
def maxSuggestions : Nat := 3

/-- The answer to a query for a command that is not there. -/
def notFound (groups : List Group) (query : String) : String :=
  let names := groups.flatMap fun g => g.commands.map g.qualified
  let found := (suggestions query names).take maxSuggestions
  "Could not find command " ++ inCode query ++ "." ++
    if found.isEmpty then ""
    else "\nDid you mean " ++ ", ".intercalate (found.map inCode) ++ "?"

/-- The commands for everyone. -/
def generalGroup : Group where
  name := "General"
  commands := [
    { name := "ping"
      aliases := ["pingpong", "pong"]
      description := "Ping the bot to test it. Helpful for making sure the bot's not broken."
      action := .ping },
    { name := "help"
      description := "List the commands, or show details about one of them."
      usage := "[command]"
      action := .help }]

/-- The commands for owners. -/
def ownerGroup : Group where
  name := "Owner"
  ownersOnly := true
  isHidden := true
  commands := [
    { name := "stop"
      aliases := ["sd", "shutdown", "quit", "exit"]
      description := "Shut down the bot."
      ownersOnly := true
      action := .stop },
    { name := "status"
      aliases := ["act", "activity"]
      description := "Set the bot's status."
      usage := "\x7b\"name\": \"...\", \"type\": \"playing\"\x7d"
      ownersOnly := true
      action := .status }]

/-- The commands on terms. -/
def termGroup : Group where
  name := "SysF"
  word := "sysf"
  summary := "Bidirectionally typed impredicative System F w/ higher-rank polymorphism"
  commands := [
    { name := "parse"
      description := "Parse a single term and show the result."
      usage := "<term>"
      action := .stage .parse },
    { name := "resolve"
      description := "Parse and resolve a single term and show the result."
      usage := "<term>"
      action := .stage .resolve },
    { name := "infer"
      aliases := ["typeck", "typecheck", "tc"]
      description := "Parse, resolve, and typecheck a single term and show the result."
      usage := "<term>"
      action := .stage .infer }]

/-- All groups. -/
def groups : List Group := [generalGroup, ownerGroup, termGroup]

/-- The groups and commands that help shows. -/
def visibleGroups : List Group :=
  ((groups.filter fun g => !g.isHidden && !g.ownersOnly).map fun g =>
    { g with commands := g.commands.filter (!·.ownersOnly) }).filter (!·.commands.isEmpty)

end TermBot.Bot
