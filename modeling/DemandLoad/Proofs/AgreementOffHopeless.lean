import DemandLoad.Proofs.DeclaredRecords
import DemandLoad.Proofs.HopelessLibraries

namespace DemandLoad

namespace Tracker

variable {hopeless : String → Prop} {one other : Tracker} {roots : List String} {name : String}

theorem Spreads.drop (spreads : one.Spreads hopeless) (roots : List String) :
    (one.drop roots).1.Spreads hopeless :=
  fun blocker waiter queued => spreads blocker waiter (one.queue_drop_subset roots blocker queued)

theorem Spreads.behind (spreads : one.Spreads hopeless)
    (queue : ∀ blocker, ¬ hopeless blocker → other.queue blocker = one.queue blocker)
    (behind : Behind one.queue roots name) (sound : ¬ hopeless name) : Behind other.queue roots name := by
  induction behind with
  | root member => exact .root member
  | @waits name blocker queued _ ih =>
      have fine : ¬ hopeless blocker := fun hangs => sound (spreads blocker name queued hangs)
      exact .waits (queue blocker fine ▸ queued) (ih fine)

theorem queue_drop_congr (spreads : one.Spreads hopeless) (spreads_too : other.Spreads hopeless)
    (queue : ∀ blocker, ¬ hopeless blocker → other.queue blocker = one.queue blocker) (roots : List String)
    (sound : ¬ hopeless name) : (other.drop roots).1.queue name = (one.drop roots).1.queue name := by
  by_cases behind : Behind one.queue roots name
  · rw [queue_drop_of_behind _ _ _ behind, queue_drop_of_behind _ _ _ (spreads.behind queue behind sound)]
  · have apart : ¬ Behind other.queue roots name := fun still =>
      behind (spreads_too.behind (fun blocker fine => (queue blocker fine).symm) still sound)
    rw [queue_drop_of_apart _ _ _ behind, queue_drop_of_apart _ _ _ apart, queue name sound]

end Tracker

namespace Loader

/-- The loaders agree, too, on the queues of libraries that are not hopeless. -/
structure Agrees (hopeless : String → Prop) (one other : Loader) : Prop extends one.Matches other where
  queue : ∀ blocker, ¬ hopeless blocker → other.tracker.queue blocker = one.tracker.queue blocker

namespace Agrees

variable {hopeless : String → Prop} {one other : Loader} {name blocker : String}
  (agrees : one.Agrees hopeless other)
include agrees

theorem of_same {next further : Loader} (registry : next.registry = one.registry)
    (tracker : next.tracker = one.tracker) (registry_too : further.registry = other.registry)
    (tracker_too : further.tracker = other.tracker) : next.Agrees hopeless further where
  registry := by rw [registry_too, agrees.registry, registry]
  progress := by
    rw [tracker, tracker_too]
    exact agrees.progress
  queue := by
    rw [tracker, tracker_too]
    exact agrees.queue

theorem announce (transition transition_too : Transition) :
    (one.announce transition).Agrees hopeless (other.announce transition_too) :=
  agrees.of_same rfl rfl rfl rfl

theorem note (event event_too : Event) : (one.note event).Agrees hopeless (other.note event_too) :=
  agrees.of_same rfl rfl rfl rfl

theorem of_queue {next further : Loader} (registry : next.registry = one.registry)
    (registry_too : further.registry = other.registry) (same : one.tracker.SameProgress next.tracker)
    (same_too : other.tracker.SameProgress further.tracker)
    (queue : ∀ blocker, ¬ hopeless blocker → further.tracker.queue blocker = next.tracker.queue blocker) :
    next.Agrees hopeless further where
  registry := by rw [registry_too, agrees.registry, registry]
  progress := same.symm.trans (agrees.progress.trans same_too)
  queue := queue

theorem defer (name blocker : String) : (one.defer name blocker).Agrees hopeless (other.defer name blocker) := by
  refine agrees.of_queue (registry_defer ..) (registry_defer ..) ?_ ?_ ?_
  · rw [tracker_defer]
    exact .defer ..
  · rw [tracker_defer]
    exact .defer ..
  · intro target sound
    rw [tracker_defer, tracker_defer, Tracker.queue_defer, Tracker.queue_defer, agrees.queue target sound]
    by_cases same : target = blocker
    · subst same
      rw [agrees.queue target sound]
    · simp only [same, false_and, if_false]

theorem dropBehind (spreads : one.tracker.Spreads hopeless) (spreads_too : other.tracker.Spreads hopeless)
    (name : String) : (one.dropBehind name).Agrees hopeless (other.dropBehind name) :=
  agrees.of_queue rfl rfl (.drop ..) (.drop ..) fun _ sound =>
    Tracker.queue_drop_congr spreads spreads_too agrees.queue [name] sound

theorem remember (name : String) : (one.remember name).Agrees hopeless (other.remember name) :=
  agrees.of_same (registry_remember ..) (tracker_remember ..) (registry_remember ..) (tracker_remember ..)

theorem orphan (result : Except LoadError Outcome) : (one.orphan result).Agrees hopeless (other.orphan result) :=
  agrees.of_same (registry_orphan ..) (tracker_orphan ..) (registry_orphan ..) (tracker_orphan ..)

theorem declare (name : String) (dependencies : List String) (target : Target) :
    (one.declare name dependencies target).Agrees hopeless (other.declare name dependencies target) where
  registry := by rw [registry_declare, registry_declare, agrees.registry]
  progress := by
    rw [tracker_declare, tracker_declare]
    exact agrees.progress
  queue := by
    rw [tracker_declare, tracker_declare]
    exact agrees.queue

theorem begin (name : String) (registry : Registry Target) (target : Option Target) :
    ((one.beginLoad name registry).noteTarget name target).Agrees hopeless
      ((other.beginLoad name registry).noteTarget name target) where
  registry := by rw [Machine.registry_noteTarget, Machine.registry_noteTarget]; rfl
  progress := by
    rw [tracker_noteTarget, tracker_noteTarget]
    have same := agrees.progress
    exact ⟨congrArg (Table.insert · name Status.loading) same.statuses, same.failed, same.loadOrder⟩
  queue := by
    rw [tracker_noteTarget, tracker_noteTarget]
    exact agrees.queue

theorem finish {tracker : Tracker} {waiting : List String} (sound : ¬ hopeless name)
    (finished : one.tracker.finish name = .ok (tracker, waiting)) : ∃ ended,
      other.tracker.finish name = .ok (ended, waiting) ∧
        (one.endLoad name tracker).Agrees hopeless (other.endLoad name ended) := by
  have same := agrees.progress
  have queue := Tracker.queue_finish finished
  obtain ⟨loading, fine, rfl, rfl⟩ := Tracker.finish_eq_ok finished
  have finished_too : other.tracker.finish name = .ok
      ({ other.tracker.finished name with queues := other.tracker.queues.erase name }, one.tracker.queue name) := by
    rw [← same.status] at loading
    rw [← same.isFailed] at fine
    rw [← agrees.queue name sound]
    simp [Tracker.finish, loading, fine, Tracker.finished]
  refine ⟨_, finished_too, ⟨agrees.registry, ⟨?_, same.failed, ?_⟩⟩, ?_⟩
  · exact congrArg (Table.insert · name .loaded) same.statuses
  · exact congrArg (· ++ [name]) same.loadOrder
  · intro blocker hangs
    refine (Tracker.queue_finish finished_too blocker).trans (Eq.trans ?_ (queue blocker).symm)
    rw [agrees.queue blocker hangs]

theorem failTarget (spreads : one.tracker.Spreads hopeless) (spreads_too : other.tracker.Spreads hopeless)
    (loading : one.status name = .loading) (fine : one.isFailed name = false) (cause : String) :
    (other.failTarget name cause).2 = (one.failTarget name cause).2 ∧
      ((one.failTarget name cause).1.dropBehind name).Agrees hopeless
        ((other.failTarget name cause).1.dropBehind name) := by
  obtain ⟨tracker, -, error⟩ := failTarget_eq one name cause loading fine
  obtain ⟨tracker_too, -, error_too⟩ :=
    failTarget_eq other name cause ((agrees.status name).trans loading) ((agrees.isFailed name).trans fine)
  refine ⟨error_too.trans error.symm, ?_⟩
  have hangs : (one.tracker.failing name).Spreads hopeless := spreads
  have hangs_too : (other.tracker.failing name).Spreads hopeless := spreads_too
  have failed : (one.failTarget name cause).1.Agrees hopeless (other.failTarget name cause).1 := by
    refine ⟨⟨?_, ?_⟩, ?_⟩
    · rw [registry_failTarget, registry_failTarget, agrees.registry]
    · rw [tracker, tracker_too]
      have same := agrees.progress
      exact ⟨same.statuses, congrArg (· ++ [name]) same.failed, same.loadOrder⟩
    · intro blocker sound
      rw [tracker, tracker_too]
      exact Tracker.queue_drop_congr hangs hangs_too agrees.queue [name] sound
  refine failed.dropBehind ?_ ?_ name
  · rw [tracker]
    exact hangs.drop [name]
  · rw [tracker_too]
    exact hangs_too.drop [name]

end Agrees

end Loader

end DemandLoad
