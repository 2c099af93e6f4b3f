import DemandLoad.Proofs.TrackerOperations
import Mathlib.Algebra.BigOperators.Finprod

namespace DemandLoad

namespace Tracker

/-- The trackers agree name by name, in whatever order their tables hold the names. -/
structure Agrees (one other : Tracker) : Prop where
  status : ∀ name, other.status name = one.status name
  isFailed : ∀ name, other.isFailed name = one.isFailed name
  queue : ∀ blocker, other.queue blocker = one.queue blocker
  loadOrder : other.loadOrder = one.loadOrder

theorem waitingCount_eq (tracker : Tracker) :
    tracker.waitingCount = ∑ᶠ blocker, (tracker.queue blocker).length := by
  have rows : ∀ row ∈ tracker.queues.entries, row.2.length = (tracker.queue row.1).length := by
    intro row member
    rw [queue, Table.get?_of_mem _ member, Option.getD_some]
  have keyed : (fun blocker => (tracker.queue blocker).length).support ⊆ tracker.queues.keys.toFinset := by
    intro blocker waits
    rw [Finset.mem_coe, List.mem_toFinset]
    by_contra absent
    have unknown := (tracker.queues.get?_eq_none blocker).mpr absent
    exact waits (by simp [queue, unknown])
  calc
    tracker.waitingCount = (tracker.queues.entries.map fun row => row.2.length).sum := by
      simp [waitingCount, Table.values, List.length_flatten, Function.comp_def]
    _ = (tracker.queues.keys.map fun blocker => (tracker.queue blocker).length).sum := by
      rw [List.map_congr_left rows, Table.keys, List.map_map]
      rfl
    _ = ∑ blocker ∈ tracker.queues.keys.toFinset, (tracker.queue blocker).length :=
      (List.sum_toFinset _ tracker.queues.distinct).symm
    _ = ∑ᶠ blocker, (tracker.queue blocker).length := (finsum_eq_sum_of_support_subset _ keyed).symm

namespace Agrees

variable {one other next : Tracker} {name : String} {waiting : List String} {dropped : List Waiter}
  {refusal : Refusal}

theorem refl (tracker : Tracker) : tracker.Agrees tracker := ⟨fun _ => rfl, fun _ => rfl, fun _ => rfl, rfl⟩

variable (agrees : one.Agrees other)
include agrees

theorem waitingCount : other.waitingCount = one.waitingCount := by
  simp only [waitingCount_eq, agrees.queue]

theorem setStatus (name : String) (status : Status) :
    (one.setStatus name status).Agrees (other.setStatus name status) where
  status asked := by simp only [status_setStatus, agrees.status]
  isFailed := agrees.isFailed
  queue := agrees.queue
  loadOrder := agrees.loadOrder

theorem withFailure (name : String) : (one.withFailure name).Agrees (other.withFailure name) where
  status := agrees.status
  isFailed asked := by
    rw [Bool.eq_iff_iff, isFailed_withFailure, isFailed_withFailure, agrees.isFailed]
  queue := agrees.queue
  loadOrder := agrees.loadOrder

theorem defer (name blocker : String) : (other.defer name blocker).2 = (one.defer name blocker).2 ∧
    (one.defer name blocker).1.Agrees (other.defer name blocker).1 := by
  refine ⟨?_, ?_, ?_, ?_, ?_⟩
  · unfold Tracker.defer
    rw [agrees.queue]
    split <;> rfl
  · intro asked
    rw [Tracker.status, Tracker.status, statuses_defer, statuses_defer]
    exact agrees.status asked
  · intro asked
    rw [Tracker.isFailed, Tracker.isFailed, failed_defer, failed_defer]
    exact agrees.isFailed asked
  · intro asked
    rw [queue_defer, queue_defer, agrees.queue, agrees.queue]
  · rw [loadOrder_defer, loadOrder_defer, agrees.loadOrder]

theorem drop (roots : List String) : (other.drop roots).2 = (one.drop roots).2 ∧
    (one.drop roots).1.Agrees (other.drop roots).1 := by
  have queues : other.queue = one.queue := funext agrees.queue
  refine ⟨?_, agrees.status, agrees.isFailed, ?_, agrees.loadOrder⟩
  · have search := breadthFirst_drop other roots
    rw [queues] at search
    exact search.unique (breadthFirst_drop one roots)
  · intro blocker
    by_cases behind : Behind one.queue roots blocker
    · rw [queue_drop_of_behind one roots blocker behind]
      exact queue_drop_of_behind other roots blocker (queues ▸ behind)
    · rw [queue_drop_of_apart one roots blocker behind, ← agrees.queue]
      exact queue_drop_of_apart other roots blocker (queues ▸ behind)

theorem finish_ok (finished : one.finish name = .ok (next, waiting)) :
    ∃ later, other.finish name = .ok (later, waiting) ∧ next.Agrees later := by
  obtain ⟨loading, sound, rfl, rfl⟩ := finish_eq_ok finished
  refine ⟨{ other.finished name with queues := other.queues.erase name }, ?_, ?_⟩
  · rw [Tracker.finish, agrees.isFailed, sound, agrees.status, if_pos loading, agrees.queue]
    rfl
  · have moved := agrees.setStatus name .loaded
    refine ⟨moved.status, moved.isFailed, ?_, ?_⟩
    · intro blocker
      refine (queueIn_erase other.queues name blocker).trans (.trans ?_ (queueIn_erase one.queues name blocker).symm)
      exact congrArg (if blocker = name then [] else ·) (agrees.queue blocker)
    · exact congrArg (· ++ [name]) agrees.loadOrder

theorem finish_error (refused : one.finish name = .error refusal) : other.finish name = .error refusal := by
  unfold Tracker.finish at refused ⊢
  rw [agrees.isFailed, agrees.status]
  split at refused
  case isTrue failed => rwa [if_pos failed]
  case isFalse sound =>
    rw [if_neg sound]
    split at refused
    case isTrue => cases refused
    case isFalse idle => rwa [if_neg idle]

theorem fail_ok (failed : one.fail name = .ok (next, dropped)) :
    ∃ later, other.fail name = .ok (later, dropped) ∧ next.Agrees later := by
  unfold Tracker.fail at failed ⊢
  rw [agrees.status]
  split at failed
  case isTrue loading =>
    rw [if_pos loading]
    obtain ⟨taken, left⟩ := (agrees.withFailure name).drop [name]
    cases failed
    exact ⟨_, congrArg (fun waiters => Except.ok (_, waiters)) taken, left⟩
  case isFalse => cases failed

theorem fail_error (refused : one.fail name = .error refusal) : other.fail name = .error refusal := by
  unfold Tracker.fail at refused ⊢
  rw [agrees.status]
  split at refused
  case isTrue => cases refused
  case isFalse idle => rwa [if_neg idle]

end Agrees

end Tracker

end DemandLoad
