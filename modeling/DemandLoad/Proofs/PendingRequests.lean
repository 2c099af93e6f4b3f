import DemandLoad.Proofs.RunningTargets

/-!
No waiting request is forgotten. Every name with a queue is pending: its own request is part way through, or it
is undeclared, or it waits behind such a name. It stops being pending only when it is loaded, when a request
that it waits behind fails, or when the pass gives up the undeclared names; then nothing waits on it any more.
-/

namespace DemandLoad

def Frame.agenda : Frame → List String
  | .walking library _ _ => [library]
  | .requesting caller _ | .sweeping caller _ _ _ => caller.library?.toList
  | .resuming _ rest | .settling _ rest => rest

def Control.agenda : Control → List String
  | .drive name | .walk name _ | .perform name _ => [name]
  | .resume _ waiting => waiting
  | .sweep caller _ _ _ => caller.library?.toList
  | .settle _ due => due
  | .answered _ | .done _ => []

namespace Tracker

/-- A request for `name` waits until another library is loaded. -/
def WaitsOn (tracker : Tracker) (name blocker : String) : Prop :=
  name ∈ tracker.queue blocker ∧ name ≠ blocker

theorem queue_defer (tracker : Tracker) (name blocker other : String) :
    (tracker.defer name blocker).1.queue other =
      if other = blocker ∧ name ∉ tracker.queue blocker then tracker.queue blocker ++ [name]
      else tracker.queue other := by
  unfold defer
  split
  case isTrue known =>
    have present : name ∈ tracker.queue blocker := by simpa using known
    simp [present]
  case isFalse new =>
    have absent : name ∉ tracker.queue blocker := by simpa using new
    refine (queueIn_insert tracker.queues blocker _ other).trans ?_
    simp only [absent, not_false_eq_true, and_true]
    rfl

theorem mem_queue_defer (tracker : Tracker) (name blocker other waiter : String) :
    waiter ∈ (tracker.defer name blocker).1.queue other ↔
      waiter ∈ tracker.queue other ∨ other = blocker ∧ waiter = name := by
  rw [queue_defer]
  split
  case isTrue new =>
    obtain ⟨rfl, -⟩ := new
    simp
  case isFalse old =>
    constructor
    · exact .inl
    · rintro (queued | ⟨rfl, rfl⟩)
      · exact queued
      · exact Classical.not_not.mp fun absent => old ⟨rfl, absent⟩

end Tracker

namespace Machine

variable {machine next : Machine} {loader : Loader} {frames : List Frame} {name blocker : String}

def agenda (machine : Machine) : List String :=
  machine.control.agenda ++ machine.frames.flatMap Frame.agenda

def roots (machine : Machine) : List String := machine.agenda ++ machine.loader.unresolved

/-- A request for the name is on the stack, unresolved or queued. -/
def Pending (machine : Machine) (name : String) : Prop :=
  Behind machine.loader.tracker.queue machine.roots name

def Anchored (machine : Machine) (name : String) : Prop :=
  Behind machine.loader.tracker.queue (machine.running ++ machine.loader.unresolved) name

structure Sound (machine : Machine) : Prop where
  stacked : machine.Stacked
  active : machine.Active
  drained : ∀ name, machine.loader.status name = .loaded → machine.loader.tracker.queue name = []
  resumed : ∀ name waiting, machine.control = .resume name waiting → machine.loader.status name = .loaded
  resuming : ∀ name rest, .resuming name rest ∈ machine.frames → machine.loader.status name = .loaded
  rooted : ∀ blocker waiter, waiter ∈ machine.loader.tracker.queue blocker → machine.Pending blocker
  answered : ∀ outcome, machine.control = .answered (.ok outcome) →
    TopAwaits (fun name => machine.loader.status name = .loaded ∨
      outcome = .deferred ∧ machine.Anchored name) machine.frames

/-- The step ends the request for `culprit` in an error. -/
inductive Ends (machine next : Machine) (culprit : String) : Prop
  | rejected {loader : Loader} {frames : List Frame} {error : LoadError}
      (reason : Rejects machine loader frames culprit error)
  | failed (failed : next.loader.isFailed culprit = true)

/-- The step ends some request in an error, and `name` waits behind it. -/
def Drops (machine next : Machine) (name : String) : Prop :=
  ∃ culprit, machine.Ends next culprit ∧ Behind machine.loader.tracker.queue [culprit] name

inductive Departs (machine next : Machine) (name : String) : Prop
  | loaded (loaded : next.loader.status name = .loaded)
  | dropped (drops : machine.Drops next name)
  | givenUp (verdict : Verdict) (control : machine.control = .settle verdict [])
      (settled : machine.loader.due = [])

section Roots

variable {root : String}

theorem mem_roots : root ∈ machine.roots ↔
    (root ∈ machine.control.agenda ∨ root ∈ machine.frames.flatMap Frame.agenda) ∨
      root ∈ machine.loader.unresolved := by
  simp only [roots, agenda, List.mem_append]

theorem running_subset_roots : machine.running ++ machine.loader.unresolved ⊆ machine.roots := by
  have control : machine.control.running ⊆ machine.control.agenda := by
    cases machine.control <;> simp [Control.running, Control.agenda]
  have frame : ∀ frame : Frame, frame.running ⊆ frame.agenda := by
    intro frame
    cases frame <;> simp [Frame.running, Frame.agenda]
  intro name member
  rw [mem_roots]
  simp only [running, List.mem_append, List.mem_flatMap] at member ⊢
  rcases member with (top | ⟨below, inside, member⟩) | unresolved
  · exact .inl (.inl (control top))
  · exact .inl (.inr ⟨below, inside, frame below member⟩)
  · exact .inr unresolved

theorem Anchored.pending (anchored : machine.Anchored name) : machine.Pending name :=
  anchored.mono (fun _ member => .root (running_subset_roots member)) fun _ _ queued => .waits queued

theorem Pending.mono (pending : machine.Pending name) (kept : ∀ root ∈ machine.roots, next.Pending root)
    (queues : ∀ blocker waiter, waiter ∈ machine.loader.tracker.queue blocker →
      waiter ∈ next.loader.tracker.queue blocker) : next.Pending name :=
  Behind.mono pending kept fun blocker waiter queued further => .waits (queues blocker waiter queued) further

theorem Pending.of_subset (pending : machine.Pending name)
    (kept : ∀ root ∈ machine.roots, root ∈ next.roots)
    (queues : next.loader.tracker.queue = machine.loader.tracker.queue) : next.Pending name :=
  pending.mono (fun root member => .root (kept root member)) fun _ _ queued => queues ▸ queued

end Roots

end Machine

end DemandLoad
