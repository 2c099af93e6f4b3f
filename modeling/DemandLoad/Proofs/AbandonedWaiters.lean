import DemandLoad.Proofs.TrackerOperations
import Mathlib.Computability.Primrec.List
import Mathlib.Data.List.Permutation

-- The imports of Mathlib hold the equations of `List.lookup` and `Prod.snd` that `cbv` evaluates with.

/-!
A failure removes every name that waits behind the failed library, from the queues behind it. In other queues
the name stays, and a later call may return it.
-/

namespace DemandLoad

namespace Tracker

variable {tracker next : Tracker} {name blocker culprit : String} {op : Op} {result : Result}
  {entry : Op × Result} {dropped : List Waiter}

/-- The names that a call takes out of the queues and returns. -/
def released : Op × Result → List String
  | (.finish _, .names names) => names
  | (.fail _, .waiters waiters) | (.drop _, .waiters waiters) => waiters.map Waiter.library
  | _ => []

theorem queued_of_mem_drop (tracker : Tracker) {roots : List String}
    (member : name ∈ (tracker.drop roots).2.map Waiter.library) :
    ∃ blocker, name ∈ tracker.queue blocker := by
  obtain ⟨waiter, inside, rfl⟩ := List.mem_map.mp member
  exact ⟨waiter.blocker, queued_of_drop inside⟩

theorem Performs.queued_of_released (performs : tracker.Performs op next result)
    (member : name ∈ released (op, result)) : ∃ blocker, name ∈ tracker.queue blocker := by
  cases performs with
  | finished => exact ⟨_, member⟩
  | @failed culprit => exact queued_of_mem_drop (tracker.withFailure culprit) member
  | dropped => exact queued_of_mem_drop tracker member
  | refused refuses => cases refuses <;> cases member
  | started | deferred | queued | inspected => cases member

theorem Performs.queued_before (performs : tracker.Performs op next result)
    (queued : name ∈ next.queue blocker) : name ∈ tracker.queue blocker ∨ op = .defer name blocker := by
  cases performs with
  | @finished ending loading sound =>
      have left : name ∈ queueIn (tracker.queues.erase ending) blocker := queued
      rw [queueIn_erase] at left
      split at left
      · cases left
      · exact .inl left
  | @failed culprit => exact .inl (queue_drop_subset (tracker.withFailure culprit) [culprit] blocker queued)
  | deferred =>
      rcases (mem_queue_defer ..).mp queued with old | ⟨rfl, rfl⟩
      · exact .inl old
      · exact .inr rfl
  | @dropped roots => exact .inl (queue_drop_subset tracker roots blocker queued)
  | started | queued | inspected | refused => exact .inl queued

theorem queued_applyAll (tracker : Tracker) (later : List Op)
    (queued : name ∈ (tracker.applyAll later).queue blocker) :
    name ∈ tracker.queue blocker ∨ .defer name blocker ∈ later := by
  induction later generalizing tracker with
  | nil => exact .inl queued
  | cons op later ih =>
      rcases ih (tracker.apply op).1 queued with old | again
      · rcases (tracker.performs op).queued_before old with before | now
        · exact .inl before
        · exact .inr (now ▸ List.mem_cons_self ..)
      · exact .inr (List.mem_cons_of_mem _ again)

theorem queued_of_released (tracker : Tracker) (later : List Op) (called : entry ∈ tracker.history later)
    (member : name ∈ released entry) :
    ∃ blocker, name ∈ tracker.queue blocker ∨ .defer name blocker ∈ later := by
  induction later generalizing tracker with
  | nil => cases called
  | cons op later ih =>
      rcases List.mem_cons.mp called with rfl | further
      · obtain ⟨blocker, queued⟩ := (tracker.performs op).queued_of_released member
        exact ⟨blocker, .inl queued⟩
      · obtain ⟨blocker, queued | again⟩ := ih (tracker.apply op).1 further
        · rcases (tracker.performs op).queued_before queued with before | now
          · exact ⟨blocker, .inl before⟩
          · exact ⟨blocker, .inr (now ▸ List.mem_cons_self ..)⟩
        · exact ⟨blocker, .inr (List.mem_cons_of_mem _ again)⟩

theorem mem_queue_fail (failed : tracker.apply (.fail culprit) = (next, .waiters dropped)) :
    name ∈ next.queue blocker ↔
      name ∈ tracker.queue blocker ∧ ¬ Behind tracker.queue [culprit] blocker := by
  cases performs_of_apply failed
  by_cases behind : Behind tracker.queue [culprit] blocker
  · have empty := queue_drop_of_behind (tracker.withFailure culprit) [culprit] blocker behind
    simp [empty, behind]
  · have kept := queue_drop_of_apart (tracker.withFailure culprit) [culprit] blocker behind
    rw [kept]
    exact (and_iff_left behind).symm

theorem mem_dropped_fail (failed : tracker.apply (.fail culprit) = (next, .waiters dropped)) :
    name ∈ dropped.map Waiter.library ↔ Behind tracker.queue [culprit] name ∧ name ≠ culprit := by
  cases performs_of_apply failed
  refine (mem_drop (tracker.withFailure culprit) [culprit] name).trans ?_
  rw [List.mem_singleton]
  rfl

/-- A name that was dropped with a failed library is returned by a later call, if it is not deferred anew,
exactly if it also waited for a library that was not behind the failed one. -/
theorem released_iff_elsewhere (ops : List Op)
    (failed : (empty.applyAll ops).apply (.fail culprit) = (next, .waiters dropped))
    (abandoned : name ∈ dropped.map Waiter.library) :
    (∀ blocker later, Behind (empty.applyAll ops).queue [culprit] blocker → .defer name blocker ∉ later →
      name ∉ (next.applyAll later).queue blocker) ∧
    ((∃ later, (∀ blocker, .defer name blocker ∉ later) ∧
        ∃ entry ∈ next.history later, name ∈ released entry) ↔
      ∃ blocker, name ∈ (empty.applyAll ops).queue blocker ∧
        ¬ Behind (empty.applyAll ops).queue [culprit] blocker) := by
  refine ⟨?_, ?_, ?_⟩
  · intro blocker later behind fresh queued
    rcases queued_applyAll next later queued with old | again
    · exact ((mem_queue_fail failed).mp old).2 behind
    · exact fresh again
  · rintro ⟨later, fresh, entry, called, member⟩
    obtain ⟨blocker, old | again⟩ := queued_of_released next later called member
    · exact ⟨blocker, (mem_queue_fail failed).mp old⟩
    · exact absurd again (fresh blocker)
  · rintro ⟨blocker, queued, apart⟩
    have stays : name ∈ next.queue blocker := (mem_queue_fail failed).mpr ⟨queued, apart⟩
    have other : name ∉ [blocker] := by
      rw [List.mem_singleton]
      rintro rfl
      exact apart ((mem_dropped_fail failed).mp abandoned).1
    -- One more call is enough, a drop that begins at this very blocker.
    refine ⟨[.drop [blocker]], by simp, _, List.mem_cons_self .., ?_⟩
    exact (mem_drop next [blocker] name).mpr ⟨.waits stays (.root (List.mem_singleton_self _)), other⟩

/-- While `a` and `x` load, `b` waits for both of them. -/
def torn : Tracker := empty.applyAll [.start "a", .defer "b" "a", .defer "b" "x", .start "x"]

theorem fail_torn : torn.apply (.fail "a") = ((torn.apply (.fail "a")).1, .waiters [⟨"b", "a"⟩]) :=
  Prod.ext rfl (by cbv)

theorem finish_torn : (.finish "x", .names ["b"]) ∈ (torn.apply (.fail "a")).1.history [.finish "x"] := by
  have answer : ((torn.apply (.fail "a")).1.apply (.finish "x")).2 = .names ["b"] := by cbv
  rw [history, answer]
  exact List.mem_cons_self ..

theorem released_iff_elsewhere_torn :
    torn.apply (.fail "a") = ((torn.apply (.fail "a")).1, .waiters [⟨"b", "a"⟩]) ∧
      "b" ∈ [(⟨"b", "a"⟩ : Waiter)].map Waiter.library ∧
      "b" ∉ ((torn.apply (.fail "a")).1.applyAll [.finish "x"]).queue "a" ∧
      ∃ blocker, "b" ∈ torn.queue blocker ∧ ¬ Behind torn.queue ["a"] blocker := by
  have abandoned : "b" ∈ [(⟨"b", "a"⟩ : Waiter)].map Waiter.library := List.mem_cons_self ..
  have elsewhere := released_iff_elsewhere _ fail_torn abandoned
  refine ⟨fail_torn, abandoned, elsewhere.1 "a" _ (.root (List.mem_singleton_self _)) (by simp), ?_⟩
  exact elsewhere.2.mp ⟨[.finish "x"], by simp, _, finish_torn, List.mem_cons_self ..⟩

/-- A name that was dropped with a failed library may be returned by the next load that ends. -/
theorem resumed_though_abandoned :
    ¬ ∀ (ops : List Op) (culprit : String) (next : Tracker) (dropped : List Waiter) (name : String),
      (empty.applyAll ops).apply (.fail culprit) = (next, .waiters dropped) →
        name ∈ dropped.map Waiter.library → ∀ later, (∀ blocker, .defer name blocker ∉ later) →
          ∀ entry ∈ next.history later, name ∉ released entry := by
  intro never
  exact never _ "a" _ _ "b" fail_torn (List.mem_cons_self ..) [.finish "x"] (by simp) _ finish_torn
    (List.mem_cons_self ..)

end Tracker

end DemandLoad
