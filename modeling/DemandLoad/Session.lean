import DemandLoad.Machine.Run

namespace DemandLoad

/-- `events` are those that the action set off, in the order in which they happened. -/
structure StepReport where
  answer : Answer
  events : List Event
  loaded : List String
  failed : List String
  waiting : Nat
  deriving Repr

structure LibraryReport where
  name : String
  dependencies : List String
  holdsTarget : Bool
  status : Status
  failed : Bool
  queued : List String
  deriving DecidableEq, Repr

structure SessionReport where
  steps : List StepReport
  libraries : List LibraryReport
  graph : String
  deriving Repr

namespace Loader

def failedNames (loader : Loader) : List String := loader.registry.names.filter loader.isFailed

def reportStep (before after : Loader) (answer : Answer) : StepReport where
  answer := answer
  events := after.journal.drop before.journal.length
  loaded := after.loaded
  failed := after.failedNames
  waiting := after.tracker.waitingCount

def reportLibrary (loader : Loader) (library : Library Target) : LibraryReport where
  name := library.name
  dependencies := library.dependencies
  holdsTarget := library.target.isSome
  status := loader.status library.name
  failed := loader.isFailed library.name
  queued := loader.tracker.queue library.name

def performAll (loader : Loader) : List Action → Loader × List StepReport
  | [] => (loader, [])
  | action :: actions =>
    let (after, answer) := loader.perform action
    let (last, reports) := after.performAll actions
    (last, loader.reportStep after answer :: reports)

end Loader

def Session.run (config : Config) (observed : Bool) (actions : List Action) : SessionReport :=
  let (loader, steps) := (Loader.create config observed).performAll actions
  ⟨steps, loader.registry.records.map loader.reportLibrary, loader.graph⟩

end DemandLoad
