/-!
# Start order

Services with dependencies are placed one after the other, each after all it depends on. For every service it is
counted how many of its dependencies are not placed yet, and when a service is placed it is ready what waits for
no other one. What becomes ready is placed behind what is ready already, in the order of names, so the order
depends only on the dependencies.
-/

namespace TermBot.Lifecycle

/-- A service and the services it depends on. -/
structure Node where
  name : String
  deps : List String
  deriving DecidableEq, Repr

/-- Why there is no start order. -/
inductive OrderError where
  | unknownDependency (service dep : String)
  | cycle
  deriving DecidableEq, Repr

/-- The wording of an error. -/
def OrderError.message : OrderError → String
  | .unknownDependency s d => "dependency not registered: " ++ s ++ " needs " ++ d
  | .cycle => "circular dependency detected"

/-- Names in increasing order. -/
def sortNames (names : List String) : List String :=
  names.mergeSort fun a b => decide (a ≤ b)

/-- A dependency that is no service. -/
def unknown? (services : List String) (nodes : List Node) : Option (String × String) :=
  nodes.findSome? fun n =>
    (n.deps.find? fun d => !services.contains d).map fun d => (n.name, d)

/-- The dependencies with the services that have them, each as often as it is listed. -/
def edges (nodes : List Node) : List (String × String) :=
  nodes.flatMap fun n => n.deps.map fun d => (d, n.name)

/-- The services that depend on `dep`, each as often as it lists it. -/
def dependents (nodes : List Node) (dep : String) : List String :=
  ((edges nodes).filter (·.1 = dep)).map (·.2)

/-- For every service the number of dependencies it waits for. -/
abbrev Degrees := String → Int

/-- All dependencies that are listed. -/
def degrees (nodes : List Node) : Degrees := fun s => (edges nodes).countP (·.2 = s)

/-- One dependency less for a service. -/
def Degrees.lower (degree : Degrees) (s : String) : Degrees :=
  fun x => if x = s then degree x - 1 else degree x

/-- One dependency less for each of the services, and those that wait for none then. -/
def release (degree : Degrees) : List String → List String × Degrees
  | [] => ([], degree)
  | s :: rest =>
    let lowered := degree.lower s
    let (ready, degree) := release lowered rest
    (if lowered s = 0 then s :: ready else ready, degree)

/-- Places the ready services and what becomes ready by them, at most `limit` services. -/
def place (nodes : List Node) :
    (limit : Nat) → (degree : Degrees) → (ready placed : List String) → List String
  | 0, _, _, placed => placed
  | _ + 1, _, [], placed => placed
  | n + 1, degree, current :: ready, placed =>
    let (freed, degree) := release degree (dependents nodes current)
    place nodes n degree (ready ++ sortNames freed) (placed ++ [current])

/-- The order in which services start, when they are met as `services` and their dependencies as `nodes`. -/
def startOrderOf (services : List String) (nodes : List Node) : Except OrderError (List String) :=
  match unknown? services nodes with
  | some (s, d) => .error (.unknownDependency s d)
  | none =>
    let roots := sortNames (services.filter fun s => degrees nodes s = 0)
    let order := place nodes services.length (degrees nodes) roots []
    if order.length = services.length then .ok order else .error .cycle

/-- The order in which services start. -/
def startOrder (nodes : List Node) : Except OrderError (List String) :=
  startOrderOf (nodes.map (·.name)) nodes

end TermBot.Lifecycle
