import DemandLoad.Action
import DemandLoad.Config
import DemandLoad.Registry
import DemandLoad.Text.Shape
import DemandLoad.Transition

namespace DemandLoad

open Text

def Target.inspected : String := wrapped "Initialiser" (quoted "<closure>")

def Library.inspect {τ : Type} (showTarget : τ → String) (library : Library τ) : String :=
  record "Library" [field "name" (quoted library.name),
    field "target" (optional (library.target.map showTarget)),
    field "dependencies" (quotedList library.dependencies)]

def Registry.inspect {τ : Type} (showTarget : τ → String) (registry : Registry τ) : String :=
  record "Registry" [field "libraries"
    (mapOf (registry.libraries.entries.map fun row => (row.1, row.2.inspect showTarget)))]

def Status.inspect : Status → String
  | .unloaded => "Unloaded"
  | .loading => "Loading"
  | .loaded => "Loaded"

def Tracker.inspect (tracker : Tracker) : String :=
  record "LoadTracker" [
    field "statuses" (mapOf (tracker.statuses.entries.map fun row => (row.1, row.2.inspect))),
    field "pending" (mapOf (tracker.queues.entries.map fun row => (row.1, quotedList row.2))),
    field "failed" (setOf (tracker.failed.map quoted)),
    field "load_order" (quotedList tracker.loadOrder)]

def Config.inspect (config : Config) : String :=
  record "LoaderConfig" [field "trace_transitions" (if config.traced then "true" else "false")]

def Refusal.inspect (refusal : Refusal) : String :=
  record "InvalidTransition" [field "library" (quoted refusal.library),
    field "from" refusal.current.inspect, field "to" refusal.wanted.inspect]

def LoadError.inspect : LoadError → String
  | unknown first others stalled =>
    record "UnknownLibrary" [field "missing" (quotedList (first :: others)),
      field "stalled" (quotedList stalled)]
  | loadFailed failure =>
    record "LoadFailed" [field "library" (quoted failure.library),
      field "source" (wrapped "Failure" (quoted failure.cause))]
  | alreadyFailed library => wrapped "AlreadyFailed" (quoted library)
  | dependencyFailed library dependency =>
    record "DependencyFailed" [field "library" (quoted library),
      field "dependency" (quoted dependency)]
  | dependencyCycle path => wrapped "DependencyCycle" (quotedList path)
  | refused refusal => wrapped "InvalidTransition" refusal.inspect

def waitInspect (name library blocker : String) : String :=
  record name [field "library" (quoted library), field "blocker" (quoted blocker)]

def Transition.inspect : Transition → String
  | requested library => wrapped "Requested" (quoted library)
  | deferred library blocker => waitInspect "Deferred" library blocker
  | loading library => wrapped "Loading" (quoted library)
  | loaded library => wrapped "Loaded" (quoted library)
  | resumed library => wrapped "Resumed" (quoted library)
  | failed library => wrapped "Failed" (quoted library)
  | abandoned library blocker => waitInspect "Abandoned" library blocker

end DemandLoad
