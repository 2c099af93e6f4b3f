import DemandLoad.Proofs.TrackerAgreement
import DemandLoad.Proofs.TrackerInvariant
import DemandLoad.Proofs.UnresolvedNames
import Mathlib.Data.List.DropRight

/-!
A queue holds the names that were deferred onto its blocker since it was last cleared. What clears it depends on
the other queues: a drop clears every queue that its roots reach.
-/

namespace DemandLoad

namespace Tracker

def Op.arrival? (blocker : String) : Op → Option String
  | .defer name onto => if onto = blocker then some name else none
  | _ => none

def Op.blocker? : Op → Option String
  | .defer _ blocker => some blocker
  | _ => none

def roots? : Op × Result → Option (List String)
  | (.fail culprit, .waiters _) => some [culprit]
  | (.drop roots, .waiters _) => some roots
  | _ => none

/-- The call has loaded `blocker`, or dropped behind roots that reach `blocker` along the queues. -/
def Clears (tracker : Tracker) (blocker : String) (entry : Op × Result) : Prop :=
  finished? entry = some blocker ∨ ∃ roots ∈ roots? entry, Behind tracker.queue roots blocker

theorem behind_iff (tracker : Tracker) (roots : List String) (name : String) :
    Behind tracker.queue roots name ↔ name ∈ roots ∨ name ∈ (tracker.drop roots).2.map Waiter.library := by
  rw [mem_drop]
  by_cases root : name ∈ roots
  · exact iff_of_true (.root root) (.inl root)
  · simp [root]

instance (tracker : Tracker) (blocker : String) (entry : Op × Result) :
    Decidable (tracker.Clears blocker entry) :=
  decidable_of_iff (finished? entry = some blocker ∨ ∃ roots ∈ roots? entry,
    blocker ∈ roots ∨ blocker ∈ (tracker.drop roots).2.map Waiter.library) (by simp only [Clears, behind_iff])

/-- The calls with their answers, each with the tracker before it. -/
def moments (tracker : Tracker) : List Op → List (Tracker × Op × Result)
  | [] => []
  | op :: ops => (tracker, op, (tracker.apply op).2) :: (tracker.apply op).1.moments ops

/-- The calls made since the queue of `blocker` was last cleared. -/
def since (blocker : String) (ops : List Op) : List Op :=
  ((empty.moments ops).rtakeWhile fun (before, entry) => ¬ before.Clears blocker entry).map fun (_, op, _) => op

/-- The names deferred onto `blocker` since its queue was last cleared, in the order in which they came
first. -/
def arrivals (blocker : String) (ops : List Op) : List String :=
  ((since blocker ops).filterMap (Op.arrival? blocker)).eraseDups

def blockers (ops : List Op) : Finset String := (ops.filterMap Op.blocker?).toFinset

def enqueue (queue : List String) : Option String → List String
  | none => queue
  | some name => if name ∈ queue then queue else queue ++ [name]

variable {tracker next : Tracker} {blocker : String} {op : Op} {ops : List Op} {result : Result}

theorem moments_concat (tracker : Tracker) (ops : List Op) (op : Op) : tracker.moments (ops ++ [op]) =
    tracker.moments ops ++ [(tracker.applyAll ops, op, ((tracker.applyAll ops).apply op).2)] := by
  induction ops generalizing tracker with
  | nil => rfl
  | cons first ops ih => exact congrArg _ (ih _)

theorem since_concat (blocker : String) (ops : List Op) (op : Op) : since blocker (ops ++ [op]) =
    if (empty.applyAll ops).Clears blocker (op, ((empty.applyAll ops).apply op).2) then []
    else since blocker ops ++ [op] := by
  rw [since, moments_concat, List.rtakeWhile_concat]
  by_cases clears : (empty.applyAll ops).Clears blocker (op, ((empty.applyAll ops).apply op).2)
  · simp [clears]
  · simp [clears, since]

theorem eraseDups_enqueue (names : List String) (arrival? : Option String) :
    (names ++ arrival?.toList).eraseDups = enqueue names.eraseDups arrival? := by
  cases arrival? with
  | none => exact congrArg List.eraseDups (List.append_nil names)
  | some name =>
      rw [enqueue, Option.toList_some, eraseDups_concat]
      simp only [List.mem_eraseDups]

theorem arrivals_concat (blocker : String) (ops : List Op) (op : Op) : arrivals blocker (ops ++ [op]) =
    if (empty.applyAll ops).Clears blocker (op, ((empty.applyAll ops).apply op).2) then []
    else enqueue (arrivals blocker ops) (op.arrival? blocker) := by
  rw [arrivals, since_concat]
  split
  case isTrue => rfl
  case isFalse =>
    rw [List.filterMap_append, arrivals, ← eraseDups_enqueue]
    cases arrival : op.arrival? blocker <;> simp [arrival]

theorem not_clears {entry : Op × Result} (loads : finished? entry = none) (drops : roots? entry = none) :
    ¬ tracker.Clears blocker entry := by
  simp [Clears, loads, drops]

theorem queue_drop_eq (tracker : Tracker) {entry : Op × Result} {roots : List String}
    (loads : finished? entry = none) (drops : roots? entry = some roots) (blocker : String) :
    (tracker.drop roots).1.queue blocker =
      if tracker.Clears blocker entry then [] else tracker.queue blocker := by
  have clears : tracker.Clears blocker entry ↔ Behind tracker.queue roots blocker := by
    simp [Clears, loads, drops]
  split
  case isTrue reached => exact queue_drop_of_behind tracker roots blocker (clears.mp reached)
  case isFalse apart => exact queue_drop_of_apart tracker roots blocker (mt clears.mpr apart)

/-- A call clears the queue, appends to it, or leaves it as it is. -/
theorem Performs.queue_eq (performs : tracker.Performs op next result) (blocker : String) :
    next.queue blocker = if tracker.Clears blocker (op, result) then []
      else enqueue (tracker.queue blocker) (op.arrival? blocker) := by
  cases performs with
  | @finished name =>
      have clears : tracker.Clears blocker (.finish name, .names (tracker.queue name)) ↔ blocker = name := by
        simp [Clears, finished?, roots?, eq_comm]
      simp only [clears]
      exact queueIn_erase tracker.queues name blocker
  | @failed culprit =>
      -- That the failure is recorded changes no queue, so the drop may be seen from either tracker.
      exact queue_drop_eq (tracker.withFailure culprit) rfl rfl blocker
  | dropped => exact queue_drop_eq tracker rfl rfl blocker
  | @deferred name onto =>
      rw [if_neg (not_clears rfl rfl), queue_defer]
      by_cases same : onto = blocker
      · subst same
        by_cases queued : name ∈ tracker.queue onto <;> simp [Op.arrival?, enqueue, queued]
      · simp [Op.arrival?, enqueue, same, Ne.symm same]
  | started | queued | inspected => exact (if_neg (not_clears rfl rfl)).symm
  | refused refuses => cases refuses <;> exact (if_neg (not_clears rfl rfl)).symm

theorem queue_applyAll (blocker : String) (ops : List Op) :
    (empty.applyAll ops).queue blocker = arrivals blocker ops := by
  induction ops using List.reverseRecOn with
  | nil => rfl
  | append_singleton ops op ih =>
      rw [applyAll_append, arrivals_concat, ← ih]
      exact ((empty.applyAll ops).performs op).queue_eq blocker

theorem map_moments (tracker : Tracker) (ops : List Op) :
    (tracker.moments ops).map (fun (_, op, _) => op) = ops := by
  induction ops generalizing tracker with
  | nil => rfl
  | cons op ops ih => exact congrArg (op :: ·) (ih _)

theorem since_suffix (blocker : String) (ops : List Op) : since blocker ops <:+ ops := by
  have suffix := (List.rtakeWhile_suffix (fun (before, entry) => ¬ before.Clears blocker entry)
    (empty.moments ops)).map fun (_, op, _) => op
  rwa [map_moments] at suffix

theorem arrivals_eq_nil (apart : blocker ∉ blockers ops) : arrivals blocker ops = [] := by
  have nobody : (since blocker ops).filterMap (Op.arrival? blocker) = [] := by
    refine List.filterMap_eq_nil_iff.mpr ?_
    intro op member
    cases op with
    | defer name onto =>
        refine if_neg ?_
        rintro rfl
        have called := (since_suffix onto ops).subset member
        exact apart (List.mem_toFinset.mpr (List.mem_filterMap.mpr ⟨_, called, rfl⟩))
    | _ => rfl
  rw [arrivals, nobody]
  rfl

/-- The queues of a tracker, as the calls made so far determine them. -/
structure Faithful (ops : List Op) (tracker : Tracker) : Prop where
  queue : ∀ blocker, tracker.queue blocker = arrivals blocker ops
  defers : ∀ name blocker, (tracker.apply (.defer name blocker)).2 = .isNew (name ∉ arrivals blocker ops)
  finishes : ∀ blocker resumed, (tracker.apply (.finish blocker)).2 = .names resumed →
    resumed = arrivals blocker ops
  elsewhere : ∀ blocker, blocker ∉ blockers ops → arrivals blocker ops = []
  count : tracker.waitingCount = ∑ blocker ∈ blockers ops, (arrivals blocker ops).length

/-- Whatever calls are made of an empty tracker, each queue holds what was deferred onto its blocker since it
was last cleared. -/
theorem faithful_applyAll (ops : List Op) : Faithful ops (empty.applyAll ops) where
  queue blocker := queue_applyAll blocker ops
  defers name blocker := by
    rw [← queue_applyAll]
    simp only [apply, defer, List.contains_iff_mem]
    split <;> simp_all
  finishes blocker resumed answered := by
    obtain ⟨next, result, called, performs⟩ := (empty.applyAll ops).exists_performs (.finish blocker)
    rw [called] at answered
    cases answered
    cases performs
    exact queue_applyAll blocker ops
  elsewhere _ := arrivals_eq_nil
  count := by
    -- Outside of these blockers no queue adds anything to the total.
    have within : (fun blocker => (arrivals blocker ops).length).support ⊆ blockers ops := by
      intro blocker waits
      by_contra apart
      exact waits (by simp [arrivals_eq_nil apart])
    rw [waitingCount_eq, ← finsum_eq_sum_of_support_subset _ within]
    simp only [queue_applyAll]

/-- A drop reaches the queue of `b` through that of `a`, so that only later arrivals stand in it. -/
example : arrivals "b" [.defer "b" "a", .defer "c" "b", .drop ["a"], .defer "e" "b", .defer "d" "b",
    .defer "e" "b"] = ["e", "d"] := by cbv

end Tracker

end DemandLoad
