import DemandLoad.Machine.Run

/-!
One step of the machine, said once. The rules are grouped by what they do to the loader; the relations
`Succeeds`, `Rejects`, `Postpones` and `Remembers` say why. Every invariant is shown by cases on these rules,
and no part of the machine is unfolded after this.
-/

namespace DemandLoad

def Target.actions : Option Target → List Action
  | some (.program actions) => actions
  | _ => []

namespace Loader

def beginLoad (loader : Loader) (name : String) (registry : Registry Target) : Loader :=
  { loader with registry, tracker := loader.tracker.setStatus name .loading }.announce (.loading name)

def noteTarget (loader : Loader) (name : String) : Option Target → Loader
  | none => loader.log (.targetMissing name)
  | some .noop => loader
  | some (.program _) => loader.note (.started name)

def endLoad (loader : Loader) (name : String) (tracker : Tracker) : Loader :=
  { loader with tracker }.announce (.loaded name)

end Loader

namespace Machine

/-- A request for `name` that finds the library loaded. -/
inductive Succeeds : Machine → Loader → List Frame → String → Outcome → Prop
  | loadedBefore {loader frames name} (loaded : loader.status name = .loaded) :
      Succeeds ⟨loader, frames, .drive name⟩ (loader.announce (.requested name)) frames name .alreadyLoaded
  | loadedMeanwhile {loader frames name} (loaded : loader.status name = .loaded) :
      Succeeds ⟨loader, frames, .walk name []⟩ loader frames name .loaded
  | resumedAll {loader frames name} :
      Succeeds ⟨loader, frames, .resume name []⟩ loader frames name .loaded

/-- A request for `name` that ends in an error without running its target. -/
inductive Rejects : Machine → Loader → List Frame → String → LoadError → Prop
  | failedBefore {loader frames name} (loading : loader.status name = .loading)
      (failed : loader.isFailed name = true) :
      Rejects ⟨loader, frames, .drive name⟩ (loader.announce (.requested name)) frames name
        (.alreadyFailed name)
  | cycle {loader frames name} (idle : loader.status name = .unloaded)
      (known : loader.registry.contains name = true) (walking : name ∈ walkOf frames) :
      Rejects ⟨loader, frames, .drive name⟩ ((loader.announce (.requested name)).forget name) frames
        name (.dependencyCycle (cyclePath (walkOf frames) name))
  | dependencyFailed {loader frames name dependency rest}
      (loading : loader.status dependency = .loading) (failed : loader.isFailed dependency = true) :
      Rejects ⟨loader, frames, .walk name (dependency :: rest)⟩ loader frames name
        (.dependencyFailed name dependency)
  | failedMeanwhile {loader frames name} (loading : loader.status name = .loading)
      (failed : loader.isFailed name = true) :
      Rejects ⟨loader, frames, .walk name []⟩ loader frames name (.alreadyFailed name)
  | refused {loader frames name refusal} (unfinished : loader.tracker.finish name = .error refusal) :
      Rejects ⟨loader, frames, .perform name []⟩ loader frames name (.refused refusal)
  | passedOn {loader frames name dependency rest error} :
      Rejects ⟨loader, .walking name dependency rest :: frames, .answered (.error error)⟩ loader
        frames name error

/-- A request for `name` that is queued until `blocker` is loaded. -/
inductive Postpones : Machine → Loader → List Frame → String → String → Prop
  | itself {loader frames name} (loading : loader.status name = .loading)
      (sound : loader.isFailed name = false) :
      Postpones ⟨loader, frames, .drive name⟩ (loader.announce (.requested name)) frames name name
  | itselfMeanwhile {loader frames name} (loading : loader.status name = .loading)
      (sound : loader.isFailed name = false) :
      Postpones ⟨loader, frames, .walk name []⟩ loader frames name name
  | dependencyLoading {loader frames name dependency rest}
      (loading : loader.status dependency = .loading) (sound : loader.isFailed dependency = false) :
      Postpones ⟨loader, frames, .walk name (dependency :: rest)⟩ loader frames name dependency
  | dependencyWaits {loader frames name dependency rest outcome}
      (waits : loader.status dependency ≠ .loaded) :
      Postpones ⟨loader, .walking name dependency rest :: frames, .answered (.ok outcome)⟩ loader
        frames name dependency

/-- A request for an undeclared name. -/
inductive Remembers : Machine → Loader → List Frame → String → Prop
  | undeclared {loader frames name} (idle : loader.status name = .unloaded)
      (unknown : loader.registry.contains name = false) :
      Remembers ⟨loader, frames, .drive name⟩ (loader.announce (.requested name)) frames name
  | vanished {loader frames name} (idle : loader.status name = .unloaded)
      (unknown : loader.registry.lookup? name = none) :
      Remembers ⟨loader, frames, .walk name []⟩ loader frames name

/-- A walk of `name` whose next dependency is loaded. -/
inductive Advances : Machine → List Frame → String → String → List String → Prop
  | loadedBefore {loader frames name dependency rest} (loaded : loader.status dependency = .loaded) :
      Advances ⟨loader, frames, .walk name (dependency :: rest)⟩ frames name dependency rest
  | loadedNow {loader frames name dependency rest outcome}
      (loaded : loader.status dependency = .loaded) :
      Advances ⟨loader, .walking name dependency rest :: frames, .answered (.ok outcome)⟩ frames name
        dependency rest

/-- The program of `library` has the answer of its action. Declarations are separate, since only they change the
registry. -/
inductive Answers : Machine → List Frame → String → Action → List Action → Answer → Prop
  | told {loader frames library query rest} :
      Answers ⟨loader, frames, .perform library (.query query :: rest)⟩ frames library (.query query)
        rest (.told (loader.answer query))
  | failing {loader frames library message rest} :
      Answers ⟨loader, frames, .perform library (.fail message :: rest)⟩ frames library (.fail message)
        rest .nothing
  | swept {loader frames library action rest before errors} :
      Answers ⟨loader, frames, .sweep (.program library action rest) before [] errors⟩ frames library
        action rest (.swept (loader.loaded.drop before) errors)
  | requested {loader frames library action rest name result} :
      Answers ⟨loader, .requesting (.program library action rest) name :: frames, .answered result⟩
        frames library action rest (.requested result [])

/-- What one step does, with its guards. -/
inductive Step : Machine → Machine → Prop
  | succeed {machine loader frames name outcome}
      (reason : Succeeds machine loader frames name outcome) :
      Step machine ⟨loader, frames, .answered (.ok outcome)⟩
  | reject {machine loader frames name error} (reason : Rejects machine loader frames name error) :
      Step machine ⟨loader.dropBehind name, frames, .answered (.error error)⟩
  | postpone {machine loader frames name blocker}
      (reason : Postpones machine loader frames name blocker) :
      Step machine ⟨loader.defer name blocker, frames, .answered (.ok .deferred)⟩
  | remember {machine loader frames name} (reason : Remembers machine loader frames name) :
      Step machine ⟨loader.remember name, frames, .answered (.ok .deferred)⟩
  | enter {loader frames name} (idle : loader.status name = .unloaded)
      (known : loader.registry.contains name = true) (fresh : name ∉ walkOf frames) :
      Step ⟨loader, frames, .drive name⟩
        ⟨(loader.announce (.requested name)).forget name, frames, .walk name (loader.dependencies name)⟩
  | advance {machine frames name dependency rest}
      (reason : Advances machine frames name dependency rest) :
      Step machine ⟨machine.loader, frames, .walk name rest⟩
  | descend {loader frames name dependency rest} (idle : loader.status dependency = .unloaded) :
      Step ⟨loader, frames, .walk name (dependency :: rest)⟩
        ⟨loader, .walking name dependency rest :: frames, .drive dependency⟩
  | begin {loader frames name target registry} (idle : loader.status name = .unloaded)
      (taken : loader.registry.takeTarget? name = some (target, registry)) :
      Step ⟨loader, frames, .walk name []⟩
        ⟨(loader.beginLoad name registry).noteTarget name target, frames, .perform name (Target.actions target)⟩
  | finish {loader frames name tracker waiting}
      (finished : loader.tracker.finish name = .ok (tracker, waiting)) :
      Step ⟨loader, frames, .perform name []⟩
        ⟨loader.endLoad name tracker, frames, .resume name (waiting.filter (· ≠ name))⟩
  | declare {loader frames library name dependencies target rest} :
      Step ⟨loader, frames, .perform library (.register name dependencies target :: rest)⟩
        ⟨(loader.declare name dependencies target).note
            (.performed library (.register name dependencies target) .nothing),
          frames, .perform library rest⟩
  | goOn {machine frames library action rest answer}
      (reason : Answers machine frames library action rest answer)
      (sound : action.failure? answer = none) :
      Step machine
        ⟨machine.loader.note (.performed library action answer), frames, .perform library rest⟩
  | fail {machine frames library action rest answer cause}
      (reason : Answers machine frames library action rest answer)
      (failing : action.failure? answer = some cause) :
      Step machine
        ⟨((machine.loader.note (.performed library action answer)).failTarget library cause).1.dropBehind
            library, frames,
          .answered (.error
            ((machine.loader.note (.performed library action answer)).failTarget library cause).2)⟩
  | call {loader frames library name strict rest} :
      Step ⟨loader, frames, .perform library (.request name strict :: rest)⟩
        ⟨loader, .requesting (.program library (.request name strict) rest) name :: frames, .drive name⟩
  | callAll {loader frames library start strict rest} :
      Step ⟨loader, frames, .perform library (.requestAll start strict :: rest)⟩
        ⟨loader, frames, .sweep (.program library (.requestAll start strict) rest)
          loader.loaded.length (swept loader start) []⟩
  | resumeNext {loader frames library name rest} :
      Step ⟨loader, frames, .resume library (name :: rest)⟩
        ⟨loader.announce (.resumed name), .resuming library rest :: frames, .drive name⟩
  | sweepNext {loader frames caller before name rest errors} :
      Step ⟨loader, frames, .sweep caller before (name :: rest) errors⟩
        ⟨loader, .sweeping caller before rest errors :: frames, .drive name⟩
  | sweepEnd {loader frames before errors} :
      Step ⟨loader, frames, .sweep .outermost before [] errors⟩
        ⟨loader, frames, .settle (.sweep before errors) []⟩
  | settleNext {loader frames verdict name rest} :
      Step ⟨loader, frames, .settle verdict (name :: rest)⟩
        ⟨(loader.forget name).announce (.resumed name), .settling verdict rest :: frames, .drive name⟩
  | settleRound {loader frames verdict} (pending : loader.due ≠ []) :
      Step ⟨loader, frames, .settle verdict []⟩ ⟨loader, frames, .settle verdict loader.due⟩
  | conclude {loader frames verdict} (settled : loader.due = []) :
      Step ⟨loader, frames, .settle verdict []⟩
        (Machine.conclude ⟨loader, frames, .settle verdict []⟩ verdict)
  | returned {loader frames name result} :
      Step ⟨loader, .requesting .outermost name :: frames, .answered result⟩
        ⟨loader, frames, .settle (.request name result) []⟩
  | sweptOne {loader frames caller before rest errors result} :
      Step ⟨loader, .sweeping caller before rest errors :: frames, .answered result⟩
        ⟨loader, frames, .sweep caller before rest (errors ++ errorOf result)⟩
  | resumedOne {loader frames library rest result} :
      Step ⟨loader, .resuming library rest :: frames, .answered result⟩
        ⟨loader.orphan result, frames, .resume library rest⟩
  | settledOne {loader frames verdict rest result} :
      Step ⟨loader, .settling verdict rest :: frames, .answered result⟩
        ⟨loader.orphan result, frames, .settle verdict rest⟩

variable {loader : Loader} {frames : List Frame}

theorem eq_of_parts {machine : Machine} {control : Control} (stack : machine.frames = frames)
    (next : machine.control = control) : machine = ⟨machine.loader, frames, control⟩ := by
  cases stack
  cases next
  rfl

theorem unlessBegun_cases {motive : Machine → Prop} (machine : Machine) (name : String)
    (whenLoaded : Outcome) (next : Machine)
    (idle : machine.loader.status name = .unloaded → motive next)
    (loaded : machine.loader.status name = .loaded → motive (machine.succeed whenLoaded))
    (failed : machine.loader.status name = .loading → machine.loader.isFailed name = true →
      motive (machine.reject name (.alreadyFailed name)))
    (loading : machine.loader.status name = .loading → machine.loader.isFailed name = false →
      motive (machine.postpone name name)) :
    motive (machine.unlessBegun name whenLoaded next) := by
  unfold unlessBegun
  split
  case h_1 status => exact idle status
  case h_2 status => exact loaded status
  case h_3 status =>
    split
    case isTrue holds => exact failed status holds
    case isFalse sound => exact loading status (Bool.eq_false_iff.mpr sound)

theorem step_drive (name : String) :
    Step ⟨loader, frames, .drive name⟩ (drive ⟨loader, frames, .drive name⟩ name) := by
  apply unlessBegun_cases
  · intro idle
    split
    case isTrue known =>
      unfold beginWalk
      split
      case isTrue walking => exact .reject (.cycle idle known walking)
      case isFalse fresh => exact .enter idle known fresh
    case isFalse unknown => exact .remember (.undeclared idle (Bool.eq_false_iff.mpr unknown))
  · exact fun loaded => .succeed (.loadedBefore loaded)
  · exact fun loading failed => .reject (.failedBefore loading failed)
  · exact fun loading sound => .postpone (.itself loading sound)

theorem runTarget_eq (machine : Machine) (name : String) (target : Option Target) :
    machine.runTarget name target =
      ⟨machine.loader.noteTarget name target, machine.frames, .perform name (Target.actions target)⟩ := by
  cases target with
  | none => rfl
  | some target => cases target <;> rfl

theorem step_load (name : String) :
    Step ⟨loader, frames, .walk name []⟩ (load ⟨loader, frames, .walk name []⟩ name) := by
  apply unlessBegun_cases
  · intro idle
    have begun : loader.tracker.start name = .ok (loader.tracker.setStatus name .loading) :=
      if_pos idle
    simp only [begun]
    cases taken : loader.registry.takeTarget? name with
    | none => exact .remember (.vanished idle (Option.map_eq_none_iff.mp taken))
    | some row =>
        obtain ⟨target, registry⟩ := row
        simp only [runTarget_eq]
        exact .begin idle taken
  · exact fun loaded => .succeed (.loadedMeanwhile loaded)
  · exact fun loading failed => .reject (.failedMeanwhile loading failed)
  · exact fun loading sound => .postpone (.itselfMeanwhile loading sound)

theorem step_walk (name : String) (dependencies : List String) :
    Step ⟨loader, frames, .walk name dependencies⟩
      (walk ⟨loader, frames, .walk name dependencies⟩ name dependencies) := by
  cases dependencies with
  | nil => exact step_load name
  | cons dependency rest =>
      simp only [walk]
      split
      case h_1 loaded => exact .advance (.loadedBefore loaded)
      case h_2 loading =>
        split
        case isTrue failed => exact .reject (.dependencyFailed loading failed)
        case isFalse sound =>
          exact .postpone (.dependencyLoading loading (Bool.eq_false_iff.mpr sound))
      case h_3 idle => exact .descend idle

theorem step_reply {machine : Machine} {library : String} {action : Action} {rest : List Action}
    {answer : Answer} (reason : Answers machine frames library action rest answer) :
    Step machine (reply ⟨machine.loader, frames, machine.control⟩ (.program library action rest) answer) := by
  simp only [reply]
  split
  case h_1 sound => exact .goOn reason sound
  case h_2 cause failing => exact .fail reason failing

theorem step_perform (library : String) (actions : List Action) (next : Machine)
    (step : step? ⟨loader, frames, .perform library actions⟩ = some next) :
    Step ⟨loader, frames, .perform library actions⟩ next := by
  cases actions with
  | nil =>
      cases step
      unfold finishTarget
      split
      case h_1 refusal unfinished => exact .reject (.refused unfinished)
      case h_2 tracker waiting finished => exact .finish finished
  | cons action rest =>
      cases step
      cases action with
      | register name dependencies target => exact .declare
      | request name strict => exact .call
      | requestAll start strict => exact .callAll
      | fail message => exact step_reply .failing
      | query query => exact step_reply .told

theorem step_receive (frame : Frame) (result : Except LoadError Outcome) :
    Step ⟨loader, frame :: frames, .answered result⟩
      (receive ⟨loader, frames, .answered result⟩ result frame) := by
  cases frame with
  | walking library dependency rest =>
      cases result with
      | error error => exact .reject .passedOn
      | ok outcome =>
          simp only [receive]
          split
          case isTrue loaded => exact .advance (.loadedNow loaded)
          case isFalse waits => exact .postpone (.dependencyWaits waits)
  | requesting caller name =>
      cases caller with
      | outermost => exact .returned
      | program library action rest => exact step_reply .requested
  | sweeping caller before rest errors => exact .sweptOne
  | resuming library rest => exact .resumedOne
  | settling verdict rest => exact .settledOne

/-- The machine follows the rules. -/
theorem step_of_step? {machine next : Machine} (step : machine.step? = some next) :
    Step machine next := by
  obtain ⟨loader, frames, control⟩ := machine
  cases control with
  | drive name => cases step; exact step_drive name
  | walk library dependencies => cases step; exact step_walk library dependencies
  | perform library actions => exact step_perform library actions next step
  | resume library waiting =>
      cases step
      cases waiting with
      | nil => exact .succeed .resumedAll
      | cons name rest => exact .resumeNext
  | sweep caller before names errors =>
      cases step
      cases names with
      | cons name rest => exact .sweepNext
      | nil =>
          cases caller with
          | outermost => exact .sweepEnd
          | program library action rest => exact step_reply .swept
  | settle verdict due =>
      cases step
      cases due with
      | cons name rest => exact .settleNext
      | nil =>
          simp only [settle]
          split
          case h_1 settled => exact .conclude settled
          case h_2 pending => exact .settleRound pending
  | done answer => cases step
  | answered result =>
      cases frames with
      | nil => cases step
      | cons frame frames => cases step; exact step_receive frame result

section Rules

variable {machine next again : Machine} {name blocker : String} {whenLoaded : Outcome}

theorem unlessBegun_idle (idle : machine.loader.status name = .unloaded) :
    machine.unlessBegun name whenLoaded next = next := by
  simp only [unlessBegun, idle]

theorem unlessBegun_loaded (loaded : machine.loader.status name = .loaded) :
    machine.unlessBegun name whenLoaded next = machine.succeed whenLoaded := by
  simp only [unlessBegun, loaded]

theorem unlessBegun_failed (loading : machine.loader.status name = .loading)
    (failed : machine.loader.isFailed name = true) :
    machine.unlessBegun name whenLoaded next = machine.reject name (.alreadyFailed name) := by
  simp only [unlessBegun, loading, failed, if_true]

theorem unlessBegun_loading (loading : machine.loader.status name = .loading)
    (sound : machine.loader.isFailed name = false) :
    machine.unlessBegun name whenLoaded next = machine.postpone name name := by
  simp only [unlessBegun, loading, sound, Bool.false_eq_true, if_false]

theorem Succeeds.step?_eq {outcome : Outcome} (reason : Succeeds machine loader frames name outcome) :
    machine.step? = some ⟨loader, frames, .answered (.ok outcome)⟩ := by
  cases reason with
  | loadedBefore loaded => exact congrArg some (unlessBegun_loaded loaded)
  | loadedMeanwhile loaded => exact congrArg some (unlessBegun_loaded loaded)
  | resumedAll => rfl

theorem step?_drive_idle (idle : loader.status name = .unloaded) : step? ⟨loader, frames, .drive name⟩ =
    some (if loader.registry.contains name then
        beginWalk ⟨(loader.announce (.requested name)).forget name, frames, .drive name⟩ name
      else postponeUnknown ⟨loader.announce (.requested name), frames, .drive name⟩ name) :=
  congrArg some (unlessBegun_idle idle)

theorem step?_load_idle (idle : loader.status name = .unloaded) : step? ⟨loader, frames, .walk name []⟩ =
    some (match loader.registry.takeTarget? name with
      | none => postponeUnknown ⟨loader, frames, .walk name []⟩ name
      | some (target, registry) =>
        runTarget ⟨loader.beginLoad name registry, frames, .walk name []⟩ name target) := by
  have begun : loader.tracker.start name = .ok (loader.tracker.setStatus name .loading) := if_pos idle
  simp only [step?, walk, load, unlessBegun, idle, begun]
  cases loader.registry.takeTarget? name <;> rfl

theorem Rejects.step?_eq {error : LoadError} (reason : Rejects machine loader frames name error) :
    machine.step? = some ⟨loader.dropBehind name, frames, .answered (.error error)⟩ := by
  cases reason with
  | failedBefore loading failed => exact congrArg some (unlessBegun_failed loading failed)
  | cycle idle known walking =>
      rw [step?_drive_idle idle, if_pos known, beginWalk, if_pos walking]
      rfl
  | dependencyFailed loading failed =>
      simp only [step?, walk, loading, failed, if_true]
      rfl
  | failedMeanwhile loading failed => exact congrArg some (unlessBegun_failed loading failed)
  | refused unfinished =>
      simp only [step?, finishTarget, unfinished]
      rfl
  | passedOn => rfl

theorem Postpones.step?_eq (reason : Postpones machine loader frames name blocker) :
    machine.step? = some ⟨loader.defer name blocker, frames, .answered (.ok .deferred)⟩ := by
  cases reason with
  | itself loading sound => exact congrArg some (unlessBegun_loading loading sound)
  | itselfMeanwhile loading sound => exact congrArg some (unlessBegun_loading loading sound)
  | dependencyLoading loading sound =>
      simp only [step?, walk, loading, sound]
      rfl
  | dependencyWaits waits =>
      simp only [step?, receive, waits, if_false]
      rfl

theorem Remembers.step?_eq (reason : Remembers machine loader frames name) :
    machine.step? = some ⟨loader.remember name, frames, .answered (.ok .deferred)⟩ := by
  cases reason with
  | undeclared idle unknown =>
      rw [step?_drive_idle idle, unknown]
      rfl
  | vanished idle unknown =>
      have nothing : loader.registry.takeTarget? name = none := Option.map_eq_none_iff.mpr unknown
      rw [step?_load_idle idle, nothing]
      rfl

theorem Advances.step?_eq {dependency : String} {rest : List String}
    (reason : Advances machine frames name dependency rest) :
    machine.step? = some ⟨machine.loader, frames, .walk name rest⟩ := by
  cases reason with
  | loadedBefore loaded =>
      simp only [step?, walk, loaded]
      rfl
  | loadedNow loaded =>
      simp only [step?, receive, loaded, if_true]
      rfl

theorem Answers.step?_eq {library : String} {action : Action} {rest : List Action} {answer : Answer}
    (reason : Answers machine frames library action rest answer) : machine.step? =
      some (reply ⟨machine.loader, frames, machine.control⟩ (.program library action rest) answer) := by
  cases reason <;> rfl

/-- The rules allow only what the machine does. -/
theorem Step.step?_eq (step : Step machine next) : machine.step? = some next := by
  cases step with
  | succeed reason => exact reason.step?_eq
  | reject reason => exact reason.step?_eq
  | postpone reason => exact reason.step?_eq
  | remember reason => exact reason.step?_eq
  | advance reason => exact reason.step?_eq
  | goOn reason sound =>
      rw [reason.step?_eq, reply, sound]
      rfl
  | fail reason failing =>
      rw [reason.step?_eq, reply, failing]
      rfl
  | enter idle known fresh =>
      rw [step?_drive_idle idle, if_pos known, beginWalk, if_neg fresh]
      rfl
  | descend idle =>
      simp only [step?, walk, idle]
      rfl
  | @begin loader frames name target registry idle taken =>
      rw [step?_load_idle idle, taken]
      exact congrArg some (runTarget_eq ..)
  | finish finished =>
      simp only [step?, finishTarget, finished]
      rfl
  | conclude settled => simp only [step?, settle, settled]
  | @settleRound loader _ _ pending =>
      obtain ⟨first, others, due⟩ := List.exists_cons_of_ne_nil pending
      simp only [step?, settle, due]
      rfl
  | declare | call | callAll | resumeNext | sweepNext | sweepEnd | settleNext | returned | sweptOne
    | resumedOne | settledOne => rfl

theorem Step.unique (step : Step machine next) (other : Step machine again) : next = again :=
  Option.some.inj (step.step?_eq.symm.trans other.step?_eq)

end Rules

end Machine

end DemandLoad
