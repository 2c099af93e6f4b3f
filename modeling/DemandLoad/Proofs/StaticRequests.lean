import DemandLoad.Proofs.LoadableLibraries
import DemandLoad.Proofs.TrackerCallSafety
import DemandLoad.Proofs.UndeclaringPasses

/-!
Requests over targets that only fail or query. Up to the first library that cannot be loaded the stack consists
of walks, and all that was requested is loaded or on the walk. After that the walk returns to the request, and
nothing more is loaded.
-/

namespace DemandLoad

def Climbs (goal : String) : List Frame → Prop
  | .walking _ _ _ :: frames => Climbs goal frames
  | .requesting .outermost name :: frames => name = goal ∧ frames = []
  | _ => False

theorem Climbs.running {goal : String} {frames : List Frame} (climbs : Climbs goal frames) :
    frames.flatMap Frame.running = [] := by
  induction frames with
  | nil => rfl
  | cons frame frames ih =>
      cases frame with
      | walking => exact ih climbs
      | requesting caller name =>
          cases caller with
          | outermost => rw [climbs.2]; rfl
          | program => cases climbs
      | sweeping | resuming | settling => cases climbs

def Control.Climbs : Control → Prop
  | .drive _ | .walk _ _ | .perform _ _ | .resume _ [] => True
  | .answered (.ok outcome) => outcome ≠ .deferred
  | _ => False

namespace Loader

/-- The library has failed, is undeclared, or has a first blocker that was requested or has failed. -/
def Explained (loader : Loader) (asked : List String) (name : String) : Prop :=
  loader.isFailed name = true ∨ loader.status name = .unloaded ∧ (loader.registry.contains name = false ∨
    ∃ blocker, loader.firstBlocker? name = some blocker ∧
      (blocker ∈ asked ∨ loader.isFailed blocker = true))

theorem Explained.not_loaded {machine : Machine} {asked : List String} {name : String}
    (active : machine.Active) (explained : machine.loader.Explained asked name) :
    machine.loader.status name ≠ .loaded := by
  rcases explained with failed | ⟨idle, -⟩
  · simp [active.loading_of_failed name failed]
  · simp [idle]

theorem firstBlocker?_congr {loader next : Loader} {name : String}
    (dependencies : next.dependencies name = loader.dependencies name)
    (status : ∀ dependency, next.status dependency = loader.status dependency) :
    next.firstBlocker? name = loader.firstBlocker? name := by
  simp only [firstBlocker?, dependencies, status]

structure Calm (loader : Loader) : Prop where
  queue : ∀ blocker, loader.tracker.queue blocker = []
  unresolved : loader.unresolved = []
  buffers : loader.buffers = ([], [])

theorem Calm.of_same {loader next : Loader} (calm : loader.Calm)
    (queue : next.tracker.queue = loader.tracker.queue) (unresolved : next.unresolved = loader.unresolved)
    (buffers : next.buffers = loader.buffers) : next.Calm :=
  ⟨queue ▸ calm.queue, unresolved.trans calm.unresolved, buffers.trans calm.buffers⟩

structure Explored (origin : Loader) (goal : String) (asked : List String) (loader : Loader) : Prop where
  attempted : ∀ name ∈ asked, origin.Attempted (· = goal) name
  loadable : ∀ name, loader.status name = .loaded → origin.Loadable name
  failed : ∀ name, loader.isFailed name = true → origin.isFailed name = true ∨ origin.Fails name

theorem Explored.of_same {origin loader next : Loader} {goal : String} {asked : List String}
    (explored : origin.Explored goal asked loader) (same : loader.tracker.SameProgress next.tracker) :
    origin.Explored goal asked next where
  attempted := explored.attempted
  loadable name loaded := explored.loadable name ((same.status name).symm.trans loaded)
  failed name failed := explored.failed name ((same.isFailed name).symm.trans failed)

theorem explained_congr {loader next : Loader} {asked : List String} (registry : next.registry = loader.registry)
    (same : loader.tracker.SameProgress next.tracker) (name : String) :
    next.Explained asked name ↔ loader.Explained asked name := by
  have blocked : next.firstBlocker? name = loader.firstBlocker? name :=
    firstBlocker?_congr (by rw [dependencies, registry]; rfl) same.status
  simp only [Explained, isFailed, status, same.isFailed, same.status, registry, blocked]

end Loader

namespace Machine

variable {machine next : Machine} {loader origin : Loader} {frames : List Frame} {name goal : String}
  {asked : List String}

structure Static (origin : Loader) (machine : Machine) : Prop where
  sound : machine.Sound
  walks : machine.Walks
  passive : machine.Confined Action.Passive
  dependencies : ∀ name, machine.loader.dependencies name = origin.dependencies name
  contains : ∀ name, machine.loader.registry.contains name = origin.registry.contains name
  lookup : ∀ name, machine.loader.status name = .unloaded →
    machine.loader.registry.lookup? name = origin.registry.lookup? name
  founded : ∀ name, origin.status name = .unloaded → machine.loader.status name ≠ .unloaded →
    ∀ dependency ∈ origin.dependencies name, machine.loader.status dependency = .loaded
  walked : ∀ name rest, machine.control = .walk name rest → origin.status name = .unloaded
  standing : ∀ name dependency rest, .walking name dependency rest ∈ machine.frames →
    origin.status name = .unloaded

theorem Static.idle_of_blocked {blocker : String} (static : machine.Static origin)
    (idle : origin.status name = .unloaded) (blocked : machine.loader.firstBlocker? name = some blocker) :
    machine.loader.status name = .unloaded := by
  obtain ⟨waits, past, rest, split, -⟩ := Loader.firstBlocker?_eq_some.mp blocked
  rw [static.dependencies] at split
  apply Classical.byContradiction
  intro begun
  exact waits (static.founded name idle begun blocker (by simp [split]))

def path (machine : Machine) : List String := machine.control.subject?.toList ++ walkOf machine.frames

/-- The invariant of a request for which every library requested so far can be loaded. -/
structure Underway (origin : Loader) (goal : String) (asked : List String) (machine : Machine) : Prop where
  frames : Climbs goal machine.frames
  control : machine.control.Climbs
  calm : machine.loader.Calm
  explored : origin.Explored goal asked machine.loader
  met : ∀ name ∈ machine.path, name ∈ asked
  left : ∀ name ∈ asked, machine.loader.status name = .loaded ∨ name ∈ machine.path
  tried : ∀ library actions, machine.control = .perform library actions →
    origin.status library = .unloaded ∧ ∃ record past, origin.registry.lookup? library = some record ∧
      Target.actions record.target = past ++ actions ∧ ∀ message, .fail message ∉ past

/-- The invariant of a request that has found a library that cannot be loaded, and returns. -/
structure Falling (origin : Loader) (goal : String) (asked : List String) (machine : Machine) : Prop where
  frames : Climbs goal machine.frames
  control : ∃ result, machine.control = .answered result ∧
    ∀ outcome, result = .ok outcome → outcome = .deferred
  explored : origin.Explored goal asked machine.loader
  met : ∀ name ∈ walkOf machine.frames, name ∈ asked
  explained : ∀ name ∈ asked, machine.loader.status name = .loaded ∨ machine.loader.Explained asked name
  top : TopAwaits (fun name => name ∈ asked ∧ machine.loader.Explained asked name) machine.frames

def Onward (origin : Loader) (goal : String) (asked : List String) (next : Machine) : Prop :=
  next.Underway origin goal (asked ++ next.driven?.toList) ∨
    next.Falling origin goal (asked ++ next.driven?.toList)

theorem Step.ended_of_loaded (active : machine.Active) (step : Step machine next)
    (loaded : next.loader.status name = .loaded) :
    machine.loader.status name = .loaded ∨ machine.control = .perform name [] := by
  cases step.progress active with
  | still same running => exact .inl ((same.status name).symm.trans loaded)
  | failed failing same running => exact .inl ((same.status name).symm.trans loaded)
  | begun started control idle same running =>
      have status := (same.status_begun name).symm.trans loaded
      split at status
      · cases status
      · exact .inl status
  | ended ending control same drained running =>
      have status := (same.status_ended name).symm.trans loaded
      split at status
      case isTrue equal => exact .inr (equal ▸ control)
      case isFalse => exact .inl status

section Underway

variable (static : machine.Static origin) (underway : machine.Underway origin goal asked)

include underway in
theorem Underway.control_of_answers {library : String} {action : Action} {rest : List Action}
    {answer : Answer} (reason : Answers machine frames library action rest answer) :
    machine.control = .perform library (action :: rest) := by
  have climbs := underway.frames
  have control := underway.control
  cases reason with
  | told | failing => rfl
  | swept => cases control
  | requested => cases climbs

include static underway in
theorem Underway.loadable_dependencies {library : String} {actions : List Action}
    (control : machine.control = .perform library actions) :
    ∀ dependency ∈ origin.dependencies library, origin.Loadable dependency := by
  have idle := (underway.tried library actions control).1
  have runs : library ∈ machine.running := by
    rw [running, control]
    exact List.mem_cons_self ..
  have begun := (static.sound.active.mem_running library).mp runs
  intro dependency member
  exact underway.explored.loadable dependency
    (static.founded library idle (by simp [begun.1]) dependency member)

include static underway in
theorem Underway.fails_of_answers {action : Action} {rest : List Action} {answer : Answer} {cause : String}
    (reason : Answers machine frames name action rest answer) (failing : action.failure? answer = some cause) :
    origin.Fails name := by
  have control := underway.control_of_answers reason
  obtain ⟨idle, record, past, known, split, -⟩ := underway.tried name _ control
  refine ⟨idle, underway.loadable_dependencies static control, record, known, ?_⟩
  have permitted := static.passive.programs name _ (.inl (by rw [control]; rfl)) action (List.mem_cons_self ..)
  have listed : action ∈ Target.actions record.target := by simp [split]
  intro succeeds
  cases action with
  | fail message => exact succeeds message listed
  | query => cases failing
  | register | request | requestAll => cases permitted

include static underway in
theorem Underway.explored_step (step : Step machine next)
    (attempted : ∀ name ∈ next.driven?, origin.Attempted (· = goal) name) :
    origin.Explored goal (asked ++ next.driven?.toList) next.loader where
  attempted name member := by
    rcases List.mem_append.mp member with old | new
    · exact underway.explored.attempted name old
    · exact attempted name (Option.mem_toList.mp new)
  loadable name loaded := by
    rcases step.ended_of_loaded static.sound.active loaded with before | control
    · exact underway.explored.loadable name before
    · obtain ⟨idle, record, past, known, split, sound⟩ := underway.tried name [] control
      rw [List.append_nil] at split
      have succeeds : Target.Succeeds record.target := by
        rw [Target.Succeeds, split]
        exact sound
      exact .loads idle known succeeds (underway.loadable_dependencies static control)
  failed name failed := by
    rcases step.failed_cases static.sound.active failed with before | ⟨_, _, _, _, _, reason, failing⟩
    · exact underway.explored.failed name before
    · exact .inr (underway.fails_of_answers static reason failing)

include static underway in
theorem Underway.keep (step : Step machine next) (frames : Climbs goal next.frames)
    (control : next.control.Climbs) (calm : next.loader.Calm)
    (attempted : ∀ name ∈ next.driven?, origin.Attempted (· = goal) name)
    (met : ∀ name ∈ next.path, name ∈ machine.path ∨ name ∈ next.driven?)
    (left : ∀ name ∈ machine.path, next.loader.status name = .loaded ∨ name ∈ next.path)
    (tried : ∀ library actions, next.control = .perform library actions →
      origin.status library = .unloaded ∧ ∃ record past, origin.registry.lookup? library = some record ∧
        Target.actions record.target = past ++ actions ∧ ∀ message, .fail message ∉ past) :
    next.Underway origin goal (asked ++ next.driven?.toList) where
  frames := frames
  control := control
  calm := calm
  explored := underway.explored_step static step attempted
  met name member := by
    rcases met name member with old | new
    · exact List.mem_append_left _ (underway.met name old)
    · exact List.mem_append_right _ (Option.mem_toList.mpr new)
  left name member := by
    rcases List.mem_append.mp member with old | new
    · rcases underway.left name old with loaded | walked
      · exact .inl (step.loaded_mono static.sound.active loaded)
      · exact left name walked
    · have driven := driven?_eq_some.mp (Option.mem_toList.mp new)
      right
      rw [path, driven]
      exact List.mem_cons_self ..
  tried := tried

include static in
theorem Static.blocked_of_path (control : machine.control.subject? = some name)
    (waits : machine.loader.status name ≠ .loaded) {member : String} (inside : member ∈ walkOf machine.frames) :
    machine.loader.status member = .unloaded ∧ ∃ further ∈ machine.path,
      machine.loader.firstBlocker? member = some further := by
  have unloaded : ∀ library dependency rest, .walking library dependency rest ∈ machine.frames →
      machine.loader.firstBlocker? library = some dependency → machine.loader.status library ≠ .loaded := by
    intro library dependency rest standing blocked
    simp [static.idle_of_blocked (static.standing _ _ _ standing) blocked]
  obtain ⟨further, within, blocked⟩ := static.walks.blocked_of_mem unloaded static.sound.stacked.frames
    (List.Subset.refl _) (static.sound.stacked.control name control) waits inside
  obtain ⟨dependency, rest, standing⟩ := exists_walking inside
  refine ⟨static.idle_of_blocked (static.standing _ _ _ standing) blocked, further, ?_, blocked⟩
  rw [path, control]
  exact List.mem_cons.mpr within

include static underway in
theorem Underway.fall (step : Step machine next) (subject : machine.control.subject? = some name)
    (same : next.frames = machine.frames)
    (control : ∃ result, next.control = .answered result ∧ ∀ outcome, result = .ok outcome → outcome = .deferred)
    (registry : next.loader.registry = machine.loader.registry)
    (statuses : next.loader.tracker.statuses = machine.loader.tracker.statuses)
    (explained : next.loader.Explained asked name) : next.Falling origin goal (asked ++ next.driven?.toList) := by
  have unasked : next.driven? = none := by
    obtain ⟨result, answered, -⟩ := control
    rw [driven?, answered]
  have status : ∀ other, next.loader.status other = machine.loader.status other := by
    intro other
    rw [Loader.status, Tracker.status, statuses]
    rfl
  have within : name ∈ asked := by
    refine underway.met name ?_
    rw [path, subject]
    exact List.mem_cons_self ..
  have waits : machine.loader.status name ≠ .loaded := by
    rw [← status]
    exact explained.not_loaded (static.sound.active.step step)
  have onWalk : ∀ other ∈ walkOf machine.frames, next.loader.Explained asked other := by
    intro other member
    obtain ⟨idle, further, walked, blocked⟩ := static.blocked_of_path subject waits member
    refine .inr ⟨(status other).trans idle, .inr ⟨further, ?_, .inl (underway.met further walked)⟩⟩
    rw [← blocked]
    exact Loader.firstBlocker?_congr (by rw [Loader.dependencies, registry]; rfl) status
  have explored := underway.explored_step static step (by simp [unasked])
  rw [unasked, Option.toList_none, List.append_nil] at explored ⊢
  refine ⟨same ▸ underway.frames, control, explored, ?_, ?_, ?_⟩
  · intro other member
    rw [same] at member
    exact underway.met other (List.mem_append_right _ member)
  · intro other member
    rw [status]
    refine (underway.left other member).imp_right ?_
    rw [path, subject]
    intro walked
    rcases List.mem_cons.mp walked with rfl | below
    · exact explained
    · exact onWalk other below
  · rw [same]
    exact (static.sound.stacked.control name subject).of_eq ⟨within, explained⟩

end Underway

end Machine

end DemandLoad
