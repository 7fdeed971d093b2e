import TermBot.Files.Tree

/-!
# Watching a file

The directory of the file is watched, so that a file that is moved into its place counts as changed.
A change has settled when it is told: what happens to other files, and the file going away, tells
nothing.
-/

namespace TermBot.Files

/-- Something that happens to a file. -/
inductive Change where
  | write (path text : String)
  | remove (path : String)
  | rename (source destination : String)
  deriving DecidableEq, Repr

/-- The tree after a change. -/
def Tree.apply (t : Tree) : Change → Tree
  | .write p text => t.write p text
  | .remove p => t.remove p
  | .rename a b =>
    match t.read a with
    | .ok text => (t.remove a).write b text
    | .error _ => t

/-- How a watch has ended. -/
inductive WatchEnd where
  | canceled
  | closed
  deriving DecidableEq, Repr

/-- A watch on one file. -/
structure Watch where
  /-- The parts of the path. -/
  place : List String
  ended : Option WatchEnd := none
  deriving DecidableEq, Repr

/-- The wording for a watch that was closed. -/
def closedMessage : String := "watcher closed"

/-- The wording for a directory that cannot be watched; `home` is the directory that paths start
from. -/
def unwatchable (home : String) (place : List String) : String :=
  "failed to watch " ++ "/".intercalate (home :: place) ++ ": no such file or directory"

namespace Watch

/-- Starts to watch a path, if there is the directory that it lies in. -/
def start (t : Tree) (home path : String) : Except String Watch :=
  let place := cleanParts path
  if (t.at? place.dropLast).isNone then .error (unwatchable home place.dropLast)
  else .ok { place }

/-- The path below the directory that paths start from. -/
def path (w : Watch) : String := String.join (w.place.map ("/" ++ ·))

/-- A change is told while the watch runs: the file is written, created or moved into its place. -/
def fires (w : Watch) (c : Change) : Bool :=
  w.ended.isNone &&
    match c with
    | .write p _ => cleanParts p = w.place
    | .remove _ => false
    | .rename _ p => cleanParts p = w.place

/-- Ends the watch, unless it has ended. -/
def finish (w : Watch) (e : WatchEnd) : Watch := { w with ended := w.ended.or (some e) }

end Watch

end TermBot.Files
