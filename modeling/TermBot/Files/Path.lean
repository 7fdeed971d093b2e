import TermBot.Text.Blank

/-!
# Paths

A path is a text; its parts stand between slashes. Cleaning a path removes empty parts and single
dots, and lets two dots take back the part before them.
-/

namespace TermBot.Files

/-- The parts of a path between its slashes. -/
def parts (path : String) : List String := (Text.splitAt '/' path.toList).map String.ofList

/-- The path starts at the root. -/
def isAbsolute (path : String) : Bool := path.startsWith "/"

/-- One more part of a clean path, which is kept with its last part first. Two dots at the root are
dropped. -/
def pushPart (rooted : Bool) (acc : List String) (part : String) : List String :=
  if part = "" || part = "." then acc
  else if part = ".." then
    match acc with
    | [] => if rooted then [] else [".."]
    | last :: before => if last = ".." then ".." :: acc else before
  else part :: acc

/-- The parts of a clean path. -/
def cleanParts (path : String) : List String :=
  ((parts path).foldl (pushPart (isAbsolute path)) []).reverse

/-- The shortest path that means the same, two dots taken at their word. -/
def clean (path : String) : String :=
  let body := "/".intercalate (cleanParts path)
  if isAbsolute path then "/" ++ body else if body = "" then "." else body

/-- A path inside a directory; without a directory it stays as it is. -/
def join (dir name : String) : String := clean (if dir = "" then name else dir ++ "/" ++ name)

/-- The directory that a path lies in. -/
def parentOf (path : String) : String :=
  let slashes := (parts path).dropLast
  clean ("/".intercalate slashes ++ if slashes.isEmpty then "" else "/")

/-- The ending of a path, from the last dot of its last part on. -/
def extension (path : String) : String :=
  let last := (((parts path).getLast?).getD "").toList
  if last.contains '.' then String.ofList ('.' :: (last.reverse.takeWhile (· ≠ '.')).reverse) else ""

end TermBot.Files
