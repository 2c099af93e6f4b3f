import DemandLoad.Proofs.WaitingForest

/-!
A library that lost a queue during a pass never gets one again in it: it is loaded, or its first blockers lead
to a failed library or into a cycle, past no unresolved name. A request is only queued on what leads to a
running target or to an unresolved name.
-/

namespace DemandLoad

/-- Following first blockers leads to a failed library or into a cycle, through resolved names. -/
def Loader.Sealed (loader : Loader) (name : String) : Prop := loader.Caught (· ∉ loader.unresolved) name

/-- The queue of the library stays empty for the rest of the pass. -/
inductive Machine.Shut (machine : Machine) (name : String) : Prop
  | loaded (loaded : machine.loader.status name = .loaded)
  | caught (caught : machine.loader.Sealed name)
  | done (answer : Answer) (control : machine.control = .done answer)

namespace Pass

variable {pass : Pass} {name blocker : String} {count : Nat}

theorem DeclaresOnce.not_unresolved (once : pass.DeclaresOnce) (founded : pass.loader.Founded)
    (step : Machine.Step (pass.state count) (pass.state (count + 1))) (name : String)
    (known : (pass.state count).loader.registry.contains name = true)
    (absent : name ∉ (pass.state count).loader.unresolved) :
    name ∉ (pass.state (count + 1)).loader.unresolved :=
  (once.resolved founded count).not_unresolved (pass.due count) step known absent

theorem DeclaresOnce.sealed_step (once : pass.DeclaresOnce) (founded : pass.loader.Founded)
    (step : Machine.Step (pass.state count) (pass.state (count + 1)))
    (caught : (pass.state count).loader.Sealed name) : (pass.state (count + 1)).loader.Sealed name :=
  step.caught (pass.sound count).active (once.founded founded count) (once.2 count)
    (once.not_unresolved founded step) caught

theorem DeclaresOnce.sealed_of_error (once : pass.DeclaresOnce) (founded : pass.loader.Founded) (count : Nat)
    (error : LoadError) (control : (pass.state count).control = .answered (.error error)) :
    TopAwaits (pass.state count).loader.Sealed (pass.state count).frames := by
  induction count generalizing error with
  | zero =>
      obtain ⟨loader, reachable, action⟩ := pass
      cases action <;> cases control
  | succ count ih =>
      rcases pass.state_cases count with same | step
      · rw [same] at control ⊢
        exact ih error control
      · exact step.caught_of_error (pass.sound count) (once.founded founded count) (once.walks count)
          (once.2 count) (fun other entered => (once.resolved founded count other entered).2)
          (once.not_unresolved founded step) ih control

theorem DeclaresOnce.sealed_of_drops (once : pass.DeclaresOnce) (founded : pass.loader.Founded)
    (step : Machine.Step (pass.state count) (pass.state (count + 1)))
    (drops : (pass.state count).Drops (pass.state (count + 1)) name) :
    (pass.state (count + 1)).loader.Sealed name :=
  (once.orderly founded count).caught_of_drops once founded step
    (fun other entered => (once.resolved founded count other entered).2) (once.not_unresolved founded step)
    (once.sealed_of_error founded count) drops

theorem DeclaresOnce.not_sealed_of_anchored (once : pass.DeclaresOnce) (founded : pass.loader.Founded)
    (anchored : (pass.state count).Anchored name) : ¬ (pass.state count).loader.Sealed name := by
  rintro ⟨members, member, closed⟩
  have active := (pass.sound count).active
  have idle : ∀ {other further}, (pass.state count).loader.firstBlocker? other = some further →
      (pass.state count).loader.status other = .unloaded :=
    fun blocked => (once.founded founded count).idle_of_blocker blocked
  refine anchored.closed (motive := fun other => ¬ members other) ?_ ?_ member
  · intro root rooted inside
    obtain ⟨resolved, failed | ⟨further, -, blocked⟩⟩ := closed root inside
    all_goals
      rcases List.mem_append.mp rooted with running | unresolved
      case inr => exact resolved unresolved
      have busy := (active.mem_running root).mp running
    · simp [busy.2] at failed
    · cases busy.1.symm.trans (idle blocked)
  · intro blocker waiter queued apart inside
    by_cases same : waiter = blocker
    · exact apart (same ▸ inside)
    · have waits := once.blocked_of_waits founded count ⟨queued, same⟩
      obtain ⟨-, failed | ⟨further, within, blocked⟩⟩ := closed waiter inside
      · cases waits.2.symm.trans (active.loading_of_failed waiter failed)
      · cases blocked.symm.trans waits.1
        exact apart within

theorem DeclaresOnce.shut_step (once : pass.DeclaresOnce) (founded : pass.loader.Founded)
    (shut : (pass.state count).Shut name) : (pass.state (count + 1)).Shut name := by
  rcases pass.state_cases count with same | step
  · rwa [same]
  · cases shut with
    | loaded loaded => exact .loaded (step.loaded_mono (pass.sound count).active loaded)
    | caught caught => exact .caught (once.sealed_step founded step caught)
    | done answer control =>
        exact .done answer (state_of_done control (Nat.le_succ count) ▸ control)

theorem DeclaresOnce.shut_of_left (once : pass.DeclaresOnce) (founded : pass.loader.Founded)
    (queued : name ∈ (pass.state count).loader.tracker.queue blocker)
    (left : name ∉ (pass.state (count + 1)).loader.tracker.queue blocker) :
    (pass.state (count + 1)).Shut blocker := by
  rcases pass.state_cases count with same | step
  · exact absurd (same ▸ queued) left
  · obtain ⟨news, -, dealt⟩ := step.deals (pass.sound count).active
    cases dealt with
    | quiet plain queue => exact absurd (queue ▸ queued) left
    | resumed library other drain queue => exact absurd (queue ▸ queued) left
    | joined other further plain reason queue =>
        rw [queue, Tracker.mem_queue_defer] at left
        exact absurd (.inl queued) left
    | loaded other loading ended queue =>
        rw [queue] at left
        split at left
        case isTrue same => exact .loaded (same ▸ ended)
        case isFalse => exact absurd queued left
    | dropped others roots plain rooted queue =>
        rw [queue] at left
        by_cases behind : Behind (pass.state count).loader.tracker.queue roots blocker
        · rcases rooted with ⟨culprit, rfl, ends⟩ | ⟨-, answer, control⟩
          · exact .caught (once.sealed_of_drops founded step ⟨culprit, ends, behind⟩)
          · exact .done answer control
        · rw [Tracker.queue_drop_of_apart _ _ _ behind] at left
          exact absurd queued left

theorem DeclaresOnce.not_shut_of_postpones {loader : Loader} {frames : List Frame} (once : pass.DeclaresOnce)
    (founded : pass.loader.Founded)
    (reason : Machine.Postpones (pass.state count) loader frames name blocker) :
    ¬ (pass.state count).Shut blocker := by
  intro shut
  cases shut with
  | loaded loaded => exact reason.not_loaded loaded
  | caught caught => exact once.not_sealed_of_anchored founded (reason.anchored_before (pass.sound count)) caught
  | done answer control =>
      generalize pass.state count = machine at reason control
      cases reason <;> cases control

end Pass

end DemandLoad
