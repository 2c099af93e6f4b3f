import DemandLoad.Action
import DemandLoad.Text.Quoted
import DemandLoad.Transition

/-!
The events of a loader, in the order in which they happen.
-/

namespace DemandLoad

inductive Level where
  | debug
  | warn
  deriving DecidableEq, Repr

inductive Channel where
  | loader
  | transitions
  deriving DecidableEq, Repr

inductive LogEntry where
  | announced (transition : Transition)
  | redeclaredLoading (library : String) (previous dependencies : List String)
  | redeclaredLoaded (library : String) (previous dependencies : List String)
  | targetMissing (library : String)
  | targetFailed (failure : TargetFailure) (abandoned : Nat)
  | neverDeclared (missing stalled : List String)
  deriving DecidableEq, Repr

namespace LogEntry

def level : LogEntry → Level
  | redeclaredLoading .. | targetFailed .. | neverDeclared .. => .warn
  | announced _ | redeclaredLoaded .. | targetMissing _ => .debug

def channel : LogEntry → Channel
  | announced _ => .transitions
  | _ => .loader

def message : LogEntry → String
  | announced transition => transition.text
  | redeclaredLoading .. =>
    "Library re-registered with different dependencies while loading; " ++
      "the load in progress keeps the original dependencies"
  | redeclaredLoaded .. =>
    "Library re-registered after loading; new dependencies are not loaded retroactively"
  | targetMissing _ => "No load target to run"
  | targetFailed .. => "Load target failed"
  | neverDeclared .. => "Requested libraries were never registered"

def fields : LogEntry → List (String × String)
  | announced transition => [("library", transition.library)]
  | redeclaredLoading library previous dependencies
  | redeclaredLoaded library previous dependencies =>
    [("library", library), ("previous", Text.quotedList previous),
      ("dependencies", Text.quotedList dependencies)]
  | targetMissing library => [("library", library)]
  | targetFailed failure abandoned =>
    [("library", failure.library), ("error", failure.cause), ("abandoned", toString abandoned)]
  | neverDeclared missing stalled =>
    [("missing", Text.quotedList missing), ("stalled", Text.quotedList stalled)]

end LogEntry

/-- A transition given to the observer, a log entry, the start of a program, or an action performed by a
program, with its answer. -/
inductive Event where
  | observed (transition : Transition)
  | logged (entry : LogEntry)
  | started (library : String)
  | performed (library : String) (action : Action) (answer : Answer)
  deriving Repr

end DemandLoad
