/-!
The life cycle of the sync engine.

An engine is created idle. Starting it launches the scheduler loop and makes it running;
starting it again while the loop runs changes nothing. Shutting it down stops the loop, after
its current tick, and leaves it stopped; shutting down an engine whose loop does not run only
marks it stopped. A stopped engine can be started again. Shutting down passes through an
intermediate state that no caller sees once the call has returned.
-/

namespace RosterSync

inductive EngineState where
  | created
  | running
  | shuttingDown
  | stopped
deriving DecidableEq, Repr

def EngineState.name : EngineState → String
  | .created => "Created"
  | .running => "Running"
  | .shuttingDown => "ShuttingDown"
  | .stopped => "Stopped"

def EngineState.all : List EngineState := [.created, .running, .shuttingDown, .stopped]

/-- An engine: the state it reports and whether its scheduler loop runs. -/
structure Engine where
  state : EngineState := .created
  looping : Bool := false
deriving DecidableEq, Repr

namespace Engine

def start (e : Engine) : Engine :=
  if e.looping then e else { state := .running, looping := true }

/-- Stops the scheduler loop, if any, and marks the engine stopped. -/
def shutdown (_ : Engine) : Engine := { state := .stopped, looping := false }

end Engine

end RosterSync
