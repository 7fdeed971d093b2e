import TermBot.Lifecycle.Manager

/-!
# Applications

An application runs its services until its context ends, then stops them. A run and a shutdown
advance by atomic steps: entering a critical section, or one call of the manager. Their steps may
interleave in any order.
-/

namespace TermBot.Lifecycle

variable {σ ε : Type}

/-- A manager that is running or not. -/
structure Application (σ ε : Type) where
  manager : Manager σ ε
  running : Bool := false

/-- Why a run or a shutdown fails. -/
inductive ApplicationError (ε : Type) where
  | alreadyRunning
  | startFailed (errors : List (LifecycleError ε))
  | stopFailed (errors : List (LifecycleError ε))

/-- The wording of an error. -/
def ApplicationError.message (describe : ε → String) : ApplicationError ε → String
  | .alreadyRunning => "application is already running"
  | .startFailed es => "failed to start services: " ++ joinMessages describe es
  | .stopFailed es => "failed to stop services: " ++ joinMessages describe es

/-- Where a run or a shutdown stands; a shutdown begins at `shutEnter`. -/
inductive Phase (ε : Type) where
  /-- About to mark the application as running. -/
  | enter
  /-- About to start the services. -/
  | starting
  /-- The services failed to start; about to mark the application as not running. -/
  | abandoning (errors : List (LifecycleError ε))
  /-- Waiting for the end of the context. -/
  | waiting
  /-- About to mark the application as not running. -/
  | shutEnter
  /-- About to stop the services. -/
  | stopping
  | returned (result : Except (ApplicationError ε) Unit)

namespace Application

/-- One step of a run or shutdown whose context has ended or not; `stopCanceled` says whether the
services being stopped are told so. -/
def step (app : Application σ ε) (ended stopCanceled : Bool) :
    Phase ε → Option (Application σ ε × Phase ε)
  | .enter =>
    if app.running then some (app, .returned (.error .alreadyRunning))
    else some ({ app with running := true }, .starting)
  | .starting =>
    match app.manager.start ended with
    | (.error es, m) => some ({ app with manager := m }, .abandoning es)
    | (.ok _, m) => some ({ app with manager := m }, .waiting)
  | .abandoning es => some ({ app with running := false }, .returned (.error (.startFailed es)))
  | .waiting => if ended then some (app, .shutEnter) else none
  | .shutEnter =>
    if app.running then some ({ app with running := false }, .stopping)
    else some (app, .returned (.ok ()))
  | .stopping =>
    match app.manager.stop stopCanceled with
    | (.error es, m) => some ({ app with manager := m }, .returned (.error (.stopFailed es)))
    | (.ok _, m) => some ({ app with manager := m }, .returned (.ok ()))
  | .returned _ => none

/-- Takes steps until none can be taken; six are the most. -/
def advance (app : Application σ ε) (ended stopCanceled : Bool) (p : Phase ε) :
    Application σ ε × Phase ε :=
  steps 6 app p
where
  /-- Takes at most `limit` steps. -/
  steps : (limit : Nat) → Application σ ε → Phase ε → Application σ ε × Phase ε
    | 0, app, p => (app, p)
    | n + 1, app, p =>
      match app.step ended stopCanceled p with
      | some (app, p) => steps n app p
      | none => (app, p)

/-- Runs until the services are started or the run returns; with an ended context, to its end. What
stops the services then is not told that the context has ended. -/
def run (app : Application σ ε) (ended : Bool) : Application σ ε × Phase ε :=
  app.advance ended false .enter

/-- Ends the context of a run. -/
def finish (app : Application σ ε) (p : Phase ε) : Application σ ε × Phase ε :=
  app.advance true false p

/-- Shuts the application down. -/
def shutdown (app : Application σ ε) (canceled : Bool) : Application σ ε × Phase ε :=
  app.advance canceled canceled .shutEnter

end Application

end TermBot.Lifecycle
