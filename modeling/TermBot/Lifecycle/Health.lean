import TermBot.Actor.System

/-!
# Health reports

A report has a state, a message and details. A service can take work only when it is healthy.
-/

namespace TermBot.Lifecycle

/-- A detail of a report. -/
inductive Detail where
  | count (n : Nat)
  | text (s : String)
  | texts (ss : List String)
  deriving DecidableEq, Repr

/-- The state of a service that can take work. -/
def healthy : String := "healthy"

/-- The state of a service that could not be asked. -/
def unhealthy : String := "unhealthy"

/-- The state of a service that will not recover. -/
def critical : String := "critical"

/-- A report on a service. -/
structure Health where
  state : String
  message : String := ""
  data : List (String × Detail) := []
  deriving DecidableEq, Repr

/-- The service can take work. -/
def Health.ok (h : Health) : Bool := h.state == healthy

/-- The report on a system of actors: critical when an actor has failed. -/
def systemHealth {P R E S : Type} (sys : Actor.System P R E S) : Health :=
  let count := ("actors", Detail.count sys.registered.length)
  match sys.failedNames with
  | [] => ⟨healthy, "Actor system running", [count]⟩
  | names => ⟨critical, "actors failed", [count, ("failed", .texts names)]⟩

/-- The report on one actor that does the rendering. -/
def rendererHealth {P R E S : Type} (c : Actor.Cell P R E S) : Health :=
  let data := [("processed", Detail.count c.processed), ("queue_depth", .count c.mailbox.size),
    ("state", .text c.state.label)]
  match c.state with
  | .failed => ⟨critical, "formatter panicked; rendering is unavailable", data⟩
  | .stopping => ⟨"stopping", "", data⟩
  | .stopped => ⟨"stopped", "", data⟩
  | _ => ⟨healthy, "", data⟩

end TermBot.Lifecycle
