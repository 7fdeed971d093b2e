import TermBot.Files.Path

/-!
# A tree of files

The files below one directory, by their paths from it. Reading a path walks from part to part, so
that every part but the last has to be a directory that is there.
-/

namespace TermBot.Files

/-- The files and the directories below a directory. -/
structure Tree where
  files : List (String × String) := []
  dirs : List String := []
  deriving DecidableEq, Repr

/-- Why a path is not read. -/
inductive ReadError where
  | missing
  | notDirectory (path : String)
  | isDirectory (path : String)
  deriving DecidableEq, Repr

/-- The wording of an error. -/
def ReadError.message : ReadError → String
  | .missing => "no such file or directory"
  | .notDirectory p => "open " ++ p ++ ": not a directory"
  | .isDirectory p => "read " ++ p ++ ": is a directory"

/-- What stands at a place. -/
inductive Entry where
  | file (text : String)
  | directory
  deriving DecidableEq, Repr

namespace Tree

/-- What stands at the place with these parts. A directory also is what files and directories lie
in. -/
def at? (t : Tree) (place : List String) : Option Entry :=
  match t.files.find? fun (p, _) => cleanParts p = place with
  | some (_, text) => some (.file text)
  | none =>
    let inside := t.files.map (cleanParts ·.1) ++ t.dirs.map cleanParts
    if place.isEmpty || inside.any place.isPrefixOf then some .directory else none

/-- Walks along the parts of a path from a place. -/
def walk (t : Tree) (path : String) : List String → (place : List String) →
    Except ReadError (List String)
  | [], place => .ok place
  | part :: rest, place =>
    match t.at? place with
    | some .directory =>
      if part = "" || part = "." then walk t path rest place
      else if part = ".." then
        if place.isEmpty then .error .missing else walk t path rest place.dropLast
      else walk t path rest (place ++ [part])
    | some (.file _) => .error (.notDirectory path)
    | none => .error .missing

/-- What a path leads to. -/
def find (t : Tree) (path : String) : Except ReadError Entry := do
  if isAbsolute path || path = "" then .error .missing
  else
    match t.at? (← t.walk path (parts path) []) with
    | some e => .ok e
    | none => .error .missing

/-- The text of the file at a path. -/
def read (t : Tree) (path : String) : Except ReadError String := do
  match ← t.find path with
  | .file text => .ok text
  | .directory => .error (.isDirectory path)

/-- Something stands at a path. -/
def has (t : Tree) (path : String) : Bool := (t.find path).toOption.isSome

/-- Removes the file at a path. -/
def remove (t : Tree) (path : String) : Tree :=
  { t with files := t.files.filter fun (p, _) => cleanParts p ≠ cleanParts path }

/-- Writes a file, which replaces the one that was there. -/
def write (t : Tree) (path text : String) : Tree :=
  let t := t.remove path
  { t with files := (path, text) :: t.files }

end Tree

end TermBot.Files
