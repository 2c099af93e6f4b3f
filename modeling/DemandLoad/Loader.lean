import DemandLoad.Graph
import DemandLoad.Inspect
import DemandLoad.Journal

/-!
The state of a loader, and the changes made in a single step. Which of them are made, and in what order, is
decided by the machine.
-/

namespace DemandLoad

/-- `unresolved` are the undeclared names that were requested, in order. `failures` and `orphaned` are the
errors of the present pass that its outermost request has still to report: failed targets, and the errors of
requests whose caller has already gone on. -/
structure Loader where
  registry : Registry Target
  tracker : Tracker
  config : Config
  observed : Bool
  unresolved : List String
  failures : List TargetFailure
  orphaned : List LoadError
  journal : List Event
  deriving Repr

namespace Loader

def create (config : Config) (observed : Bool) : Loader :=
  ⟨.empty, .empty, config, observed, [], [], [], []⟩

def status (loader : Loader) (name : String) : Status := loader.tracker.status name

def isFailed (loader : Loader) (name : String) : Bool := loader.tracker.isFailed name

def loaded (loader : Loader) : List String := loader.tracker.loadOrder

def dependencies (loader : Loader) (name : String) : List String :=
  (loader.registry.dependencies? name).getD []

def note (loader : Loader) (event : Event) : Loader :=
  { loader with journal := loader.journal ++ [event] }

def log (loader : Loader) (entry : LogEntry) : Loader := loader.note (.logged entry)

def announcement (loader : Loader) (transition : Transition) : List Event :=
  if loader.config.traced then
    .logged (.announced transition) :: if loader.observed then [.observed transition] else []
  else []

def announce (loader : Loader) (transition : Transition) : Loader :=
  { loader with journal := loader.journal ++ loader.announcement transition }

def announceAbandoned (loader : Loader) (dropped : List Waiter) : Loader :=
  { loader with journal := loader.journal ++
      dropped.flatMap fun waiter => loader.announcement (.abandoned waiter.library waiter.blocker) }

/-- A declaration loads nothing. If it changes the dependencies of a library that is loading or loaded, this is
logged. -/
def declare (loader : Loader) (name : String) (dependencies : List String) (target : Target) : Loader :=
  let declared := { loader with registry := loader.registry.insert (.declare name target dependencies) }
  match loader.registry.dependencies? name with
  | none => declared
  | some previous =>
    if previous = dependencies then declared
    else match loader.status name with
      | .unloaded => declared
      | .loading => declared.log (.redeclaredLoading name previous dependencies)
      | .loaded => declared.log (.redeclaredLoaded name previous dependencies)

def defer (loader : Loader) (name blocker : String) : Loader :=
  let (tracker, new) := loader.tracker.defer name blocker
  if new then { loader with tracker }.announce (.deferred name blocker) else { loader with tracker }

def dropBehind (loader : Loader) (name : String) : Loader :=
  let (tracker, dropped) := loader.tracker.drop [name]
  { loader with tracker }.announceAbandoned dropped

def remember (loader : Loader) (name : String) : Loader :=
  if loader.unresolved.contains name then loader
  else { loader with unresolved := loader.unresolved ++ [name] }

def forget (loader : Loader) (name : String) : Loader :=
  { loader with unresolved := loader.unresolved.filter (· ≠ name) }

def due (loader : Loader) : List String := loader.unresolved.filter loader.registry.contains

/-- Target failures are recorded in `failures` already, so only other errors are kept. -/
def orphan (loader : Loader) : Except LoadError Outcome → Loader
  | .ok _ => loader
  | .error error =>
    if error.failedLibrary?.isSome then loader
    else { loader with orphaned := loader.orphaned ++ [error] }

def failTarget (loader : Loader) (name cause : String) : Loader × LoadError :=
  match loader.tracker.fail name with
  | .error refusal => (loader, .refused refusal)
  | .ok (tracker, dropped) =>
    let failure := ⟨name, cause⟩
    let announced := { loader with tracker }.log (.targetFailed failure dropped.length)
      |>.announce (.failed name)
      |>.announceAbandoned dropped
    ({ announced with failures := announced.failures ++ [failure] }, .loadFailed failure)

/-- The names that are unresolved at the end of a pass are reported as undeclared, and what waits behind them is
dropped. -/
def giveUpUnresolved (loader : Loader) : Loader × Option LoadError :=
  match loader.unresolved with
  | [] => (loader, none)
  | first :: others =>
    let (tracker, dropped) := loader.tracker.drop (first :: others)
    let stalled := dropped.map Waiter.library
    let given := { loader with tracker, unresolved := [] }.announceAbandoned dropped
      |>.log (.neverDeclared (first :: others) stalled)
    (given, some (.unknown first others stalled))

def takeErrors (loader : Loader) : Loader × List LoadError :=
  ({ loader with failures := [], orphaned := [] },
    loader.failures.map .loadFailed ++ loader.orphaned)

def graph (loader : Loader) : String := (Drawing.ofLibraries loader.registry loader.tracker).render

/-- Actions are only performed where no walk is open, so the walk shown is always empty. -/
def inspect (loader : Loader) : String :=
  "Loader \x7b " ++ Text.joined [
    Text.field "registry" (loader.registry.inspect fun _ => Target.inspected),
    Text.field "tracker" loader.tracker.inspect,
    Text.field "config" loader.config.inspect,
    Text.field "observer" (Text.optional (if loader.observed then some (Text.quoted "<closure>") else none)),
    Text.field "walk_stack" (Text.quotedList []),
    Text.field "unresolved" (Text.setOf (loader.unresolved.map Text.quoted)),
    ".."] ++ " \x7d"

/-- Statuses are unordered, so with two or more of them the inspected text is not determined. -/
def hasOneText (loader : Loader) : Bool :=
  (loader.registry.names.filter fun name => loader.status name ≠ .unloaded).length ≤ 1

def inspect? (loader : Loader) : Subject → Option String
  | .registry => some (loader.registry.inspect fun _ => Target.inspected)
  | .library name => (loader.registry.lookup? name).map (Library.inspect fun _ => Target.inspected)
  | .config => some loader.config.inspect
  | .tracker => if loader.hasOneText then some loader.tracker.inspect else none
  | .loader => if loader.hasOneText then some loader.inspect else none

def write (text : String) (room : Option Nat) : Except Nat String :=
  match room with
  | none => .ok text
  | some room => if text.utf8ByteSize ≤ room then .ok text else .error room

def answer (loader : Loader) : Query → Reply
  | .status name => .status (loader.status name) (loader.isFailed name)
  | .loaded => .list loader.loaded
  | .waiting => .count loader.tracker.waitingCount
  | .queued name => .list (loader.tracker.queue name)
  | .names => .names loader.registry.names
  | .lookup name => .record ((loader.registry.lookup? name).map fun library =>
      (library.dependencies, library.target.isSome))
  | .graph => .text (some loader.graph)
  | .writeGraph room => .written (write loader.graph room)
  | .inspect subject => .text (loader.inspect? subject)

end Loader

end DemandLoad
