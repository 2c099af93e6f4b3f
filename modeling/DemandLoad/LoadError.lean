import DemandLoad.Tracker

namespace DemandLoad

structure TargetFailure where
  library : String
  cause : String
  deriving DecidableEq, Repr

/-- `unknown` lists at least one missing name, and the requests that waited behind the missing names. -/
inductive LoadError where
  | unknown (first : String) (others stalled : List String)
  | loadFailed (failure : TargetFailure)
  | alreadyFailed (library : String)
  | dependencyFailed (library dependency : String)
  | dependencyCycle (path : List String)
  | refused (refusal : Refusal)
  deriving DecidableEq, Repr

namespace LoadError

def listed (names : List String) : String := ", ".intercalate names

def message : LoadError → String
  | unknown first others stalled =>
    s!"Unknown libraries [{listed (first :: others)}] required by [{listed stalled}]"
  | loadFailed failure => s!"Failed to load '{failure.library}': {failure.cause}"
  | alreadyFailed library => s!"'{library}' previously failed to load"
  | dependencyFailed library dependency =>
    s!"Cannot load '{library}': dependency '{dependency}' failed to load"
  | dependencyCycle path => "Dependency cycle detected: " ++ " -> ".intercalate path
  | refused refusal => refusal.message

def library : LoadError → String
  | unknown first _ _ => first
  | loadFailed failure => failure.library
  | alreadyFailed library => library
  | dependencyFailed library _ => library
  | dependencyCycle path => path.headD ""
  | refused refusal => refusal.library

def failedLibrary? : LoadError → Option String
  | loadFailed failure => some failure.library
  | _ => none

def cause? : LoadError → Option String
  | loadFailed failure => some failure.cause
  | refused refusal => some refusal.message
  | _ => none

def involves (name : String) : LoadError → Bool
  | unknown first others stalled => (first :: others ++ stalled).contains name
  | _ => false

/-- `errors` without the target failures that `reported` already contains. -/
def unreported (errors reported : List LoadError) : List LoadError :=
  errors.filter fun error =>
    error.failedLibrary?.all fun library =>
      reported.all fun other => other.failedLibrary? ≠ some library

end LoadError

end DemandLoad
