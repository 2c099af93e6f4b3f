import DemandLoad.Proofs.SessionMoments
import DemandLoad.Proofs.TrackerOperations

namespace DemandLoad

theorem Status.eq_unloaded_of_stage {status : Status} (early : status.stage = 0) : status = .unloaded := by
  cases status <;> first | rfl | cases early

namespace Loader

variable {first second third : Loader} {names : List String}

/-- No status has moved back, no failure is lost, and the load order was extended at its end. -/
structure Extends (earlier later : Loader) : Prop where
  status : ∀ name, (earlier.status name).stage ≤ (later.status name).stage
  failed : ∀ name, earlier.isFailed name = true → later.isFailed name = true
  loaded : earlier.loaded <+: later.loaded

theorem Extends.of_tracker (same : second.tracker = first.tracker) : first.Extends second where
  status name := by rw [Loader.status, Loader.status, same]
  failed name failed := by rwa [isFailed, same]
  loaded := ⟨[], (List.append_nil _).trans (congrArg Tracker.loadOrder same).symm⟩

theorem Extends.refl (loader : Loader) : loader.Extends loader := .of_tracker rfl

theorem Extends.trans (before : first.Extends second) (after : second.Extends third) :
    first.Extends third where
  status name := Nat.le_trans (before.status name) (after.status name)
  failed name failed := after.failed name (before.failed name failed)
  loaded := before.loaded.trans after.loaded

theorem Extends.begun (extended : first.Extends second) {name : String}
    (begun : first.status name ≠ .unloaded) : second.status name ≠ .unloaded := by
  intro idle
  have later := extended.status name
  rw [idle] at later
  exact begun (Status.eq_unloaded_of_stage (Nat.le_zero.mp later))

/-- The load order lists the loaded libraries, each once. -/
structure Tallied (loader : Loader) : Prop where
  nodup : loader.loaded.Nodup
  mem_iff : ∀ name, name ∈ loader.loaded ↔ loader.status name = .loaded

theorem Tallied.of_tracker (tallied : first.Tallied) (same : second.tracker = first.tracker) :
    second.Tallied where
  nodup := by
    rw [loaded, same]
    exact tallied.nodup
  mem_iff name := by
    rw [loaded, status, same]
    exact tallied.mem_iff name

/-- The names are those that were loaded between the two, in their order. -/
structure LoadedSince (earlier later : Loader) (names : List String) : Prop where
  bound : earlier.loaded.length ≤ later.loaded.length
  split : later.loaded = earlier.loaded ++ names
  mem_iff : ∀ name, name ∈ names ↔ earlier.status name ≠ .loaded ∧ later.status name = .loaded

theorem Extends.loadedSince (extended : first.Extends second) (before : first.Tallied)
    (after : second.Tallied) :
    first.LoadedSince second (second.loaded.drop first.loaded.length) := by
  obtain ⟨added, split⟩ := extended.loaded
  have names : second.loaded.drop first.loaded.length = added := by rw [← split, List.drop_left]
  rw [names]
  refine ⟨extended.loaded.length_le, split.symm, ?_⟩
  intro name
  have apart := (List.nodup_append.mp (split ▸ after.nodup)).2.2
  rw [← after.mem_iff, ← split, ne_eq, ← before.mem_iff, List.mem_append]
  constructor
  · intro member
    exact ⟨fun old => apart name old name member rfl, .inr member⟩
  · rintro ⟨new, old | member⟩
    · exact absurd old new
    · exact member

end Loader

namespace Machine

variable {machine next : Machine} {name : String}

theorem Step.stage (active : machine.Active) (step : Step machine next) (name : String) :
    (machine.loader.status name).stage ≤ (next.loader.status name).stage ∧
      (next.loader.status name).stage ≤ (machine.loader.status name).stage + 1 := by
  have kept : ∀ after : Status, after = machine.loader.status name →
      (machine.loader.status name).stage ≤ after.stage ∧
        after.stage ≤ (machine.loader.status name).stage + 1 := by
    rintro after rfl
    exact ⟨Nat.le_refl _, Nat.le_succ _⟩
  cases step.progress active with
  | still same running => exact kept _ (same.status name)
  | failed failing same running => exact kept _ (same.status name)
  | begun started control idle same running =>
      have status : next.loader.status name = _ := same.status_begun name
      split at status
      case isTrue equal =>
        rw [status, equal, idle]
        exact ⟨Nat.zero_le _, Nat.le_refl _⟩
      case isFalse => exact kept _ status
  | ended ending control same drained running =>
      have status : next.loader.status name = _ := same.status_ended name
      split at status
      case isTrue equal =>
        have busy := (active.mem_running ending).mp (running ▸ List.mem_cons_self ..)
        rw [status, equal, busy.1]
        exact ⟨Nat.le_succ _, Nat.le_refl _⟩
      case isFalse => exact kept _ status

theorem Step.loaded_cases (active : machine.Active) (step : Step machine next) :
    next.loader.loaded = machine.loader.loaded ∧
        (∀ name, next.loader.status name = .loaded ↔ machine.loader.status name = .loaded) ∨
      ∃ ending, machine.loader.status ending = .loading ∧
        next.loader.loaded = machine.loader.loaded ++ [ending] ∧
        ∀ name, next.loader.status name = .loaded ↔
          machine.loader.status name = .loaded ∨ name = ending := by
  cases step.progress active with
  | still same running => exact .inl ⟨same.loadOrder, fun name => by rw [Loader.status, same.status]; rfl⟩
  | failed failing same running =>
      exact .inl ⟨same.loadOrder, fun name => by rw [Loader.status, same.status]; rfl⟩
  | begun started control idle same running =>
      refine .inl ⟨same.loadOrder, ?_⟩
      intro name
      rw [Loader.status, same.status_begun]
      split
      case isTrue equal => simp [equal, idle]
      case isFalse => rfl
  | ended ending control same drained running =>
      have busy := (active.mem_running ending).mp (running ▸ List.mem_cons_self ..)
      refine .inr ⟨ending, busy.1, same.loadOrder, ?_⟩
      intro name
      rw [Loader.status, same.status_ended]
      split
      case isTrue equal => simp [equal]
      case isFalse apart =>
        simp only [apart, or_false]
        rfl

theorem Step.extends (active : machine.Active) (step : Step machine next) :
    machine.loader.Extends next.loader where
  status name := (step.stage active name).1
  failed _ failed := step.failed_mono active failed
  loaded := by
    rcases step.loaded_cases active with ⟨order, -⟩ | ⟨ending, -, order, -⟩
    · exact ⟨[], (List.append_nil _).trans order.symm⟩
    · exact order ▸ List.prefix_append ..

theorem Step.tallied (active : machine.Active) (step : Step machine next)
    (tallied : machine.loader.Tallied) : next.loader.Tallied := by
  rcases step.loaded_cases active with ⟨order, status⟩ | ⟨ending, loading, order, status⟩
  · exact ⟨order ▸ tallied.nodup, fun name => by rw [order, tallied.mem_iff, status]⟩
  · have fresh : ending ∉ machine.loader.loaded := by
      rw [tallied.mem_iff, loading]
      simp
    constructor
    · rw [order]
      refine List.nodup_append.mpr ⟨tallied.nodup, by simp, ?_⟩
      intro name old other new same
      rw [List.mem_singleton.mp new] at same
      exact fresh (same ▸ old)
    · intro name
      rw [order, List.mem_append, tallied.mem_iff, List.mem_singleton, status]

/-- The target of `name` joins those that run. -/
def Starts (machine next : Machine) (name : String) : Prop := next.running = name :: machine.running

theorem Step.of_starts (active : machine.Active) (step : Step machine next)
    (starts : machine.Starts next name) :
    machine.loader.status name = .unloaded ∧ next.loader.status name = .loading := by
  obtain ⟨idle, same⟩ := (step.progress active).begun_of_running starts
  exact ⟨idle, (same.status_begun name).trans (if_pos rfl)⟩

end Machine

theorem Pass.tallied_of_loader (pass : Pass) (before : pass.loader.Tallied) (count : Nat) :
    (pass.state count).loader.Tallied := by
  induction count with
  | zero => exact before.of_tracker pass.tracker_start
  | succ count ih =>
      rcases pass.state_cases count with same | step
      · rw [same]
        exact ih
      · exact step.tallied (pass.sound count).active ih

theorem Loader.Reachable.tallied {loader : Loader} (reachable : loader.Reachable) : loader.Tallied :=
  reachable.of_passes (fun _ _ => ⟨.nil, fun _ => iff_of_false nofun nofun⟩) Pass.tallied_of_loader

theorem Pass.tallied (pass : Pass) (count : Nat) : (pass.state count).loader.Tallied :=
  pass.tallied_of_loader pass.reachable.tallied count

namespace Session

variable {session : Session} {name : String} {earlier later moment : Moment}

theorem tracker_start (session : Session) (index : Nat) :
    (session.state ⟨index, 0⟩).loader.tracker = (session.loader index).tracker :=
  (session.pass index).tracker_start

/-- The first pass begins with an empty tracker, and each later one with the tracker that the pass before it
left. -/
structure TrackerHandedOn (session : Session) : Prop where
  fresh : (session.state ⟨0, 0⟩).loader.tracker = .empty
  left : ∀ index count answer, (session.state ⟨index, count⟩).control = .done answer →
    (session.loader (index + 1)).tracker = (session.state ⟨index, count⟩).loader.tracker
  taken : ∀ index, (session.state ⟨index, 0⟩).loader.tracker = (session.loader index).tracker

theorem trackerHandedOn (session : Session) : session.TrackerHandedOn where
  fresh := session.tracker_start 0
  left _ _ _ done := congrArg (fun final => final.1.tracker) (Pass.perform_of_done done)
  taken := session.tracker_start

theorem extends_next (session : Session) (moment : Moment) :
    (session.state moment).loader.Extends (session.state moment.next).loader := by
  rcases session.state_cases moment with same | step
  · rw [same]
    exact .refl _
  · exact step.extends (session.sound moment).active

theorem extends_later (order : earlier ≤ later) :
    (session.state earlier).loader.Extends (session.state later).loader := by
  refine carried (motive := fun loader => (session.state earlier).loader.Extends loader) ?_ ?_ order (.refl _)
  · intro moment extended
    exact extended.trans (session.extends_next moment)
  · intro index extended
    exact extended.trans (.of_tracker (session.tracker_start index))

theorem tallied (session : Session) (moment : Moment) : (session.state moment).loader.Tallied :=
  (session.pass moment.index).tallied moment.count

theorem extends_pass (session : Session) (index count : Nat) :
    (session.loader index).Extends (session.state ⟨index, count⟩).loader :=
  Loader.Extends.trans (.of_tracker (session.tracker_start index))
    (extends_later (.inr ⟨rfl, Nat.zero_le count⟩))

theorem tallied_loader (session : Session) (index : Nat) : (session.loader index).Tallied :=
  (session.reachable index).tallied

/-- The target of `name` starts at that moment. -/
def Starts (session : Session) (moment : Moment) (name : String) : Prop :=
  (session.state moment).Starts (session.state moment.next) name

theorem Starts.step (starts : session.Starts moment name) :
    Machine.Step (session.state moment) (session.state moment.next) := by
  rcases session.state_cases moment with same | step
  · have running : (session.state moment.next).running = name :: (session.state moment).running := starts
    rw [same] at running
    exact absurd running.symm (List.cons_ne_self _ _)
  · exact step

theorem Starts.idle (starts : session.Starts moment name) :
    (session.state moment).loader.status name = .unloaded :=
  (starts.step.of_starts (session.sound moment).active starts).1

theorem Starts.begun (starts : session.Starts moment name) :
    (session.state moment.next).loader.status name = .loading :=
  (starts.step.of_starts (session.sound moment).active starts).2

theorem not_starts_of_begun (order : earlier ≤ later)
    (begun : (session.state earlier).loader.status name ≠ .unloaded) : ¬ session.Starts later name :=
  fun starts => (extends_later order).begun begun starts.idle

theorem starts_once (first : session.Starts earlier name) (second : session.Starts later name) :
    earlier = later := by
  have apart : ∀ {before after : Moment}, session.Starts before name → session.Starts after name →
      before ≤ after → before = after := by
    intro before after starts again order
    apply Classical.byContradiction
    intro differ
    -- The first start leaves the library begun, from the next moment on.
    have begun : (session.state before.next).loader.status name ≠ .unloaded := by simp [starts.begun]
    exact not_starts_of_begun (Moment.next_le order differ) begun again
  rcases Moment.le_total earlier later with order | order
  · exact apart first second order
  · exact (apart second first order).symm

end Session

end DemandLoad
