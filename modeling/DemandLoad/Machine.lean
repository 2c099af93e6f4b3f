import DemandLoad.Loader

/-!
The scheduler as a machine. A state is a loader, what happens next, and a stack of frames: the requests, walks
and resumptions that wait for an answer. A walk is the run of walking frames on top of the stack, so the
requests of a running target begin a walk of their own.
-/

namespace DemandLoad

/-- Who made a request: the outermost caller, or the program of a target, which goes on with `rest`. -/
inductive Caller where
  | outermost
  | program (library : String) (action : Action) (rest : List Action)
  deriving Repr

/-- The result of an outermost request, before its pass is settled. -/
inductive Verdict where
  | request (name : String) (result : Except LoadError Outcome)
  | sweep (before : Nat) (errors : List LoadError)
  deriving Repr

/-- A frame waits for the request on top of it: a walk for a dependency, a requester for its own library, a
sweep for one of many, a loaded library for what it resumes, a pass for what it settles. -/
inductive Frame where
  | walking (library dependency : String) (rest : List String)
  | requesting (caller : Caller) (name : String)
  | sweeping (caller : Caller) (before : Nat) (rest : List String) (errors : List LoadError)
  | resuming (library : String) (rest : List String)
  | settling (verdict : Verdict) (rest : List String)
  deriving Repr

/-- What happens next: a request is driven, a walk or a program goes on, waiting requests are resumed, or an
answer goes to the frame on top. -/
inductive Control where
  | drive (name : String)
  | walk (library : String) (dependencies : List String)
  | perform (library : String) (actions : List Action)
  | resume (library : String) (waiting : List String)
  | sweep (caller : Caller) (before : Nat) (names : List String) (errors : List LoadError)
  | settle (verdict : Verdict) (due : List String)
  | answered (result : Except LoadError Outcome)
  | done (answer : Answer)
  deriving Repr

structure Machine where
  loader : Loader
  frames : List Frame
  control : Control
  deriving Repr

/-- The libraries whose dependencies are being walked, innermost first. -/
def walkOf : List Frame → List String
  | .walking library _ _ :: frames => library :: walkOf frames
  | _ => []

/-- From the first mention of `name` on the walk down to the name that closes the cycle. -/
def cyclePath (walk : List String) (name : String) : List String :=
  name :: (walk.takeWhile (· ≠ name)).reverse ++ [name]

namespace Machine

def goto (machine : Machine) (control : Control) : Machine := { machine with control }

def withLoader (machine : Machine) (loader : Loader) : Machine := { machine with loader }

def push (machine : Machine) (frame : Frame) (control : Control) : Machine :=
  { machine with frames := frame :: machine.frames, control }

def succeed (machine : Machine) (outcome : Outcome) : Machine :=
  machine.goto (.answered (.ok outcome))

def reject (machine : Machine) (name : String) (error : LoadError) : Machine :=
  (machine.withLoader (machine.loader.dropBehind name)).goto (.answered (.error error))

def postpone (machine : Machine) (name blocker : String) : Machine :=
  (machine.withLoader (machine.loader.defer name blocker)).succeed .deferred

def postponeUnknown (machine : Machine) (name : String) : Machine :=
  (machine.withLoader (machine.loader.remember name)).succeed .deferred

/-- A request for a library whose load has begun is answered at once; one for a library that is loading waits
for that library. -/
def unlessBegun (machine : Machine) (name : String) (whenLoaded : Outcome) (next : Machine) : Machine :=
  match machine.loader.status name with
  | .unloaded => next
  | .loaded => machine.succeed whenLoaded
  | .loading =>
    if machine.loader.isFailed name then machine.reject name (.alreadyFailed name)
    else machine.postpone name name

def beginWalk (machine : Machine) (name : String) : Machine :=
  if name ∈ walkOf machine.frames then
    machine.reject name (.dependencyCycle (cyclePath (walkOf machine.frames) name))
  else machine.goto (.walk name (machine.loader.dependencies name))

def drive (machine : Machine) (name : String) : Machine :=
  let announced := machine.withLoader (machine.loader.announce (.requested name))
  announced.unlessBegun name .alreadyLoaded <|
    if announced.loader.registry.contains name then
      (announced.withLoader (announced.loader.forget name)).beginWalk name
    else announced.postponeUnknown name

def runTarget (machine : Machine) (name : String) : Option Target → Machine
  | none => (machine.withLoader (machine.loader.log (.targetMissing name))).goto (.perform name [])
  | some .noop => machine.goto (.perform name [])
  | some (.program actions) =>
    (machine.withLoader (machine.loader.note (.started name))).goto (.perform name actions)

/-- The status is checked again: a request resumed during the walk may have loaded the library already. -/
def load (machine : Machine) (name : String) : Machine :=
  machine.unlessBegun name .loaded <|
    match machine.loader.registry.takeTarget? name, machine.loader.tracker.start name with
    -- Only declared libraries are walked and records are never removed, so that no machine comes here. A load
    -- without a record would find no target and end at once; but it would lower no part of the measure.
    | none, _ => machine.postponeUnknown name
    | some _, .error refusal => machine.reject name (.refused refusal)
    | some (target, registry), .ok tracker =>
      let started := { machine.loader with registry, tracker }.announce (.loading name)
      (machine.withLoader started).runTarget name target

def walk (machine : Machine) (library : String) : List String → Machine
  | [] => machine.load library
  | dependency :: rest =>
    match machine.loader.status dependency with
    | .loaded => machine.goto (.walk library rest)
    | .loading =>
      if machine.loader.isFailed dependency then
        machine.reject library (.dependencyFailed library dependency)
      else machine.postpone library dependency
    | .unloaded => machine.push (.walking library dependency rest) (.drive dependency)

def failTarget (machine : Machine) (library cause : String) : Machine :=
  let (loader, error) := machine.loader.failTarget library cause
  (machine.withLoader loader).reject library error

def finishTarget (machine : Machine) (library : String) : Machine :=
  match machine.loader.tracker.finish library with
  | .error refusal => machine.reject library (.refused refusal)
  | .ok (tracker, waiting) =>
    (machine.withLoader ({ machine.loader with tracker }.announce (.loaded library))).goto
      (.resume library (waiting.filter (· ≠ library)))

def reply (machine : Machine) (caller : Caller) (answer : Answer) : Machine :=
  match caller with
  | .outermost => machine.goto (.done answer)
  | .program library action rest =>
    let noted := machine.withLoader (machine.loader.note (.performed library action answer))
    match action.failure? answer with
    | none => noted.goto (.perform library rest)
    | some cause => noted.failTarget library cause

def swept (loader : Loader) (start : String) : List String :=
  loader.registry.names.filter fun name => start.toList.isPrefixOf name.toList

theorem swept_eq (loader : Loader) (start : String) :
    swept loader start = loader.registry.names.filter fun name => start.toList <+: name.toList :=
  List.filter_congr fun _ _ => Bool.eq_iff_iff.mpr (List.isPrefixOf_iff_prefix.trans decide_eq_true_iff.symm)

def perform (machine : Machine) (caller : Caller) (action : Action) : Machine :=
  match action with
  | .register name dependencies target =>
    (machine.withLoader (machine.loader.declare name dependencies target)).reply caller .nothing
  | .request name _ => machine.push (.requesting caller name) (.drive name)
  | .requestAll start _ =>
    machine.goto (.sweep caller machine.loader.loaded.length (swept machine.loader start) [])
  | .fail _ => machine.reply caller .nothing
  | .query query => machine.reply caller (.told (machine.loader.answer query))

/-- A failure that the request itself returns is not listed a second time. -/
def verdictAnswer (loader : Loader) (errors : List LoadError) (unknown : Option LoadError) :
    Verdict → Answer
  | .request _ (.error error) =>
    .requested (.error error) (LoadError.unreported errors [error] ++ unknown.toList)
  | .request name (.ok .deferred) =>
    if loader.status name = .loaded then .requested (.ok .loaded) (errors ++ unknown.toList)
    else match unknown with
      | none => .requested (.ok .deferred) errors
      | some error =>
        if error.involves name then .requested (.error error) errors
        else .requested (.ok .deferred) (errors ++ [error])
  | .request _ (.ok outcome) => .requested (.ok outcome) (errors ++ unknown.toList)
  | .sweep before direct =>
    .swept (loader.loaded.drop before)
      (direct ++ LoadError.unreported errors direct ++ unknown.toList)

def conclude (machine : Machine) (verdict : Verdict) : Machine :=
  let (taken, errors) := machine.loader.takeErrors
  let (given, unknown) := taken.giveUpUnresolved
  (machine.withLoader given).goto (.done (verdictAnswer given errors unknown verdict))

/-- A pass is settled in rounds; each takes up the unresolved names that are declared when it begins. -/
def settle (machine : Machine) (verdict : Verdict) : List String → Machine
  | name :: rest =>
    (machine.withLoader ((machine.loader.forget name).announce (.resumed name))).push
      (.settling verdict rest) (.drive name)
  | [] =>
    match machine.loader.due with
    | [] => machine.conclude verdict
    | due => machine.goto (.settle verdict due)

def sweep (machine : Machine) (caller : Caller) (before : Nat) (errors : List LoadError) :
    List String → Machine
  | name :: rest => machine.push (.sweeping caller before rest errors) (.drive name)
  | [] =>
    match caller with
    | .outermost => machine.goto (.settle (.sweep before errors) [])
    | .program .. => machine.reply caller (.swept (machine.loader.loaded.drop before) errors)

def resume (machine : Machine) (library : String) : List String → Machine
  | name :: rest =>
    (machine.withLoader (machine.loader.announce (.resumed name))).push
      (.resuming library rest) (.drive name)
  | [] => machine.succeed .loaded

def errorOf : Except LoadError Outcome → List LoadError
  | .ok _ => []
  | .error error => [error]

def receive (machine : Machine) (result : Except LoadError Outcome) : Frame → Machine
  | .walking library dependency rest =>
    match result with
    | .error error => machine.reject library error
    | .ok _ =>
      if machine.loader.status dependency = .loaded then machine.goto (.walk library rest)
      else machine.postpone library dependency
  | .requesting .outermost name => machine.goto (.settle (.request name result) [])
  | .requesting caller _ => machine.reply caller (.requested result [])
  | .sweeping caller before rest errors =>
    machine.goto (.sweep caller before rest (errors ++ errorOf result))
  | .resuming library rest =>
    (machine.withLoader (machine.loader.orphan result)).goto (.resume library rest)
  | .settling verdict rest =>
    (machine.withLoader (machine.loader.orphan result)).goto (.settle verdict rest)

/-- One step; `none` once the outermost action has its answer. -/
def step? (machine : Machine) : Option Machine :=
  match machine.control with
  | .drive name => some (machine.drive name)
  | .walk library dependencies => some (machine.walk library dependencies)
  | .perform library [] => some (machine.finishTarget library)
  | .perform library (action :: rest) =>
    some (machine.perform (.program library action rest) action)
  | .resume library waiting => some (machine.resume library waiting)
  | .sweep caller before names errors => some (machine.sweep caller before errors names)
  | .settle verdict due => some (machine.settle verdict due)
  | .done _ => none
  | .answered result =>
    match machine.frames with
    | [] => none
    | frame :: frames => some ({ machine with frames }.receive result frame)

def start (loader : Loader) (action : Action) : Machine :=
  perform ⟨loader, [], .done .nothing⟩ .outermost action

end Machine

end DemandLoad
