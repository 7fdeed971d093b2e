import TermBot.Config.Reload
import TermBot.Files.Watch

/-!
# Watched files

A watch on a file that may hold a configuration. The configuration is loaded again whenever the watch
tells of a change.
-/

namespace TermBot.Config

/-- A watch, with the configuration in its file if it holds one. -/
structure Watched where
  watch : Files.Watch
  reloader : Option Reloader := none

/-- Why a file is not watched. -/
inductive WatchError where
  | load (e : LoadError)
  /-- The directory of the file cannot be watched. -/
  | watch (message : String)

namespace Watched

/-- Starts to watch a file. With a loader, the configuration in it is loaded first. -/
def start (loader : Option Loader) (tree : Files.Tree) (home path : String) :
    Except WatchError Watched := do
  let reloader ← loader.mapM fun l => (Reloader.start l tree path).mapError .load
  return { watch := ← (Files.Watch.start tree home path).mapError .watch, reloader }

/-- Takes note of a change, after which the files are those of `tree`. Says whether anyone is told: a
configuration that does not load is not told of. -/
def notice (w : Watched) (c : Files.Change) (tree : Files.Tree) : Bool × Watched :=
  if w.watch.fires c then
    match w.reloader with
    | none => (true, w)
    | some r =>
      let (heard, r) := r.reload tree
      (heard.toOption.isSome, { w with reloader := some r })
  else (false, w)

/-- Ends the watch, unless it has ended. -/
def finish (w : Watched) (e : Files.WatchEnd) : Watched := { w with watch := w.watch.finish e }

/-- The prefix of the configuration, or the path of a file that holds none. -/
def current (w : Watched) : String :=
  match w.reloader with
  | some r => r.current.commandPrefix
  | none => w.watch.path

end Watched

end TermBot.Config
