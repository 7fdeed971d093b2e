/-!
# Directories of actors

A directory keeps actors in the order in which they were added and finds them by number and by name.
An actor has one name at most, and a name one actor.
-/

namespace TermBot.Actor

/-- Actors of type `α` by number and by name. -/
structure Directory (α : Type) where
  nextId : UInt32 := 0
  order : List UInt32 := []
  byId : List (UInt32 × α) := []
  byName : List (String × UInt32) := []

/-- Why a directory is left as it is. -/
inductive DirectoryError where
  | noActor
  | idTaken (id : UInt32)
  | nameTaken (name : String)
  | unknownId (id : UInt32)
  deriving DecidableEq, Repr

/-- The wording of an error. -/
def DirectoryError.message : DirectoryError → String
  | .noActor => "cannot register nil actor"
  | .idTaken id => s!"actor with ID {id} already registered"
  | .nameTaken name => "service '" ++ name ++ "' already exists"
  | .unknownId id => s!"actor with ID {id} not found"

namespace Directory

variable {α : Type}

/-- The next unused number. -/
def allocate (d : Directory α) : UInt32 × Directory α :=
  (d.nextId + 1, { d with nextId := d.nextId + 1 })

/-- Adds an actor, with a name unless it is empty. -/
def add (d : Directory α) (actor : Option (UInt32 × α)) (name : String) :
    Except DirectoryError Unit × Directory α :=
  match actor with
  | none => (.error .noActor, d)
  | some (id, a) =>
    if (d.byId.lookup id).isSome then (.error (.idTaken id), d)
    else if name.isEmpty then
      (.ok (), { d with byId := (id, a) :: d.byId, order := d.order ++ [id] })
    else if (d.byName.lookup name).isSome then (.error (.nameTaken name), d)
    else
      (.ok (), { d with
        byId := (id, a) :: d.byId
        byName := (name, id) :: d.byName
        order := d.order ++ [id] })

/-- Takes an actor and its name out. -/
def remove (d : Directory α) (id : UInt32) : Except DirectoryError Unit × Directory α :=
  if (d.byId.lookup id).isSome then
    (.ok (), { d with
      byId := d.byId.filter (·.1 ≠ id)
      byName := d.byName.filter (·.2 ≠ id)
      order := d.order.erase id })
  else (.error (.unknownId id), d)

/-- What an operation leaves behind, where an error is taken to leave nothing. -/
instance : Coe (Except DirectoryError Unit × Directory α) (Except DirectoryError (Directory α)) :=
  ⟨fun (result, d) => result.map fun _ => d⟩

/-- What is wrong with an actor is found before anything is changed. -/
theorem add_eq_error {d d' : Directory α} {actor : Option (UInt32 × α)} {name : String} {e : DirectoryError}
    (failed : d.add actor name = (.error e, d')) : d' = d := by
  unfold add at failed
  repeat' split at failed
  all_goals cases failed
  all_goals rfl

theorem remove_eq_error {d d' : Directory α} {id : UInt32} {e : DirectoryError}
    (failed : d.remove id = (.error e, d')) : d' = d := by
  unfold remove at failed
  split at failed
  · cases failed
  · cases failed
    rfl

/-- The actor with a name, and its number. -/
def named? (d : Directory α) (name : String) : Option (UInt32 × α) := do
  let id ← d.byName.lookup name
  let a ← d.byId.lookup id
  return (id, a)

/-- The actors, oldest first. -/
def actors (d : Directory α) : List α := d.order.filterMap fun id => d.byId.lookup id

end Directory

end TermBot.Actor
