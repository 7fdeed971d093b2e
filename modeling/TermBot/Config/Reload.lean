import TermBot.Config.Load

/-!
# Reloading configurations

A reload that succeeds replaces the current configuration and tells the listeners, in the order in
which they were added; one that fails changes nothing. A listener that panics does not keep the ones
after it from hearing.
-/

namespace TermBot.Config

/-- A configuration that follows its file. -/
structure Reloader where
  loader : Loader
  path : String
  current : Config
  /-- For every listener whether it panics. -/
  listeners : List Bool := []

/-- What a listener hears: its number from 1 on among those that do not panic, the old and the new
configuration. -/
structure Heard where
  listener : Nat
  old : Config
  new : Config

/-- The wording of a failure to load the first configuration. -/
def initialMessage (e : LoadError) : String := "failed to load initial config: " ++ e.message

namespace Reloader

/-- Loads the first configuration. -/
def start (loader : Loader) (tree : Files.Tree) (path : String) : Except LoadError Reloader := do
  let (made, loader) := loader.perform (·.ofFile tree path)
  return { loader, path, current := ← made }

/-- Adds a listener. -/
def listen (r : Reloader) (panics : Bool) : Reloader :=
  { r with listeners := r.listeners ++ [panics] }

/-- Loads the file again. -/
def reload (r : Reloader) (tree : Files.Tree) : Except LoadError (List Heard) × Reloader :=
  match r.loader.perform (·.ofFile tree r.path) with
  | (.error e, loader) => (.error e, { r with loader })
  | (.ok c, loader) =>
    let heard := (r.listeners.filter (!·)).zipIdx.map fun (_, i) => ⟨i + 1, r.current, c⟩
    (.ok heard, { r with loader, current := c })

end Reloader

end TermBot.Config
