import DemandLoad.Proofs.DrivenRequests
import DemandLoad.Proofs.ErrorAccounting
import DemandLoad.Proofs.ForwardProgress
import DemandLoad.Proofs.RequestReturns

namespace DemandLoad

namespace Loader

variable {loader : Loader} {name blocker : String}

theorem firstBlocker?_declare {other : String} (dependencies : List String) (target : Target)
    (fresh : loader.registry.contains name = false) (blocked : loader.firstBlocker? other = some blocker) :
    (loader.declare name dependencies target).firstBlocker? other = some blocker := by
  have apart : other ≠ name := by
    rintro rfl
    cases fresh.symm.trans (contains_of_blocked blocked)
  have same := (lookup?_declare loader name other dependencies target).trans (if_neg apart)
  have kept : (loader.declare name dependencies target).dependencies other = loader.dependencies other := by
    rw [Loader.dependencies, Loader.dependencies, Registry.dependencies?, Registry.dependencies?, same]
  have still : (loader.declare name dependencies target).status = loader.status := by
    funext dependency
    rw [status, status, tracker_declare]
  rwa [firstBlocker?, kept, still]

theorem Doomed.declare {other : String} (doomed : loader.Doomed other) (dependencies : List String)
    (target : Target) (fresh : loader.registry.contains name = false) :
    (loader.declare name dependencies target).Doomed other := by
  obtain ⟨members, member, closed⟩ := doomed
  refine ⟨members, member, ?_⟩
  intro next inside
  rcases closed next inside with failed | ⟨blocker, within, blocked⟩
  · have same := congrArg (Tracker.isFailed · next) (tracker_declare loader name dependencies target)
    exact .inl (same.trans failed)
  · exact .inr ⟨blocker, within, firstBlocker?_declare dependencies target fresh blocked⟩

end Loader

namespace Pass

variable {pass : Pass} {name : String} {count : Nat} {error : LoadError}

theorem DeclaresOnce.doomed_start (once : pass.DeclaresOnce) (doomed : pass.loader.Doomed name) :
    (pass.state 0).loader.Doomed name := by
  obtain ⟨loader, reachable, action⟩ := pass
  cases action with
  | register other dependencies target =>
      exact doomed.declare dependencies target (once.1 other dependencies target rfl)
  | request | requestAll | fail | query => exact doomed

theorem DeclaresOnce.doomed_next (once : pass.DeclaresOnce) (founded : pass.loader.Founded)
    (doomed : (pass.state count).loader.Doomed name) : (pass.state (count + 1)).loader.Doomed name := by
  rcases pass.state_cases count with same | step
  · rw [same]
    exact doomed
  · exact step.doomed (pass.sound count).active (once.founded founded count) (once.2 count) doomed

theorem DeclaresOnce.doomed_of_holds (once : pass.DeclaresOnce) (founded : pass.loader.Founded)
    (holds : (pass.state count).Holds (.request name (.error error))) :
    (pass.state count).loader.Doomed name := by
  induction count with
  | zero => exact absurd holds (Machine.not_holds_start _ _)
  | succ count ih =>
      rcases pass.state_cases count with same | step
      · rw [same] at holds ⊢
        exact ih holds
      · rcases step.holds_request holds with held | returned
        · exact once.doomed_next founded (ih held)
        · have awaits := (once.orderly founded count).errors error (by rw [returned])
          rw [returned] at awaits
          exact awaits name rfl

theorem DeclaresOnce.doomed_of_drops (once : pass.DeclaresOnce) (founded : pass.loader.Founded)
    (step : Machine.Step (pass.state count) (pass.state (count + 1)))
    (drops : (pass.state count).Drops (pass.state (count + 1)) name) :
    (pass.state (count + 1)).loader.Doomed name :=
  (once.orderly founded count).doomed_of_drops once founded step drops

theorem DeclaresOnce.doomed_of_error (once : pass.DeclaresOnce) (founded : pass.loader.Founded)
    {strict : Bool} {errors : List LoadError} (asked : pass.action = .request name strict)
    (answered : (pass.loader.perform pass.action).2 = .requested (.error error) errors)
    (known : ¬ error.IsUnknown) : (pass.loader.perform pass.action).1.Doomed name := by
  obtain ⟨moment, verdict, concludes, served⟩ := pass.exists_concluded (by rw [asked]; trivial)
  obtain ⟨result, rfl⟩ := (asked ▸ served).exists_result
  obtain ⟨_, final, reported, same, -, settles⟩ := perform_request concludes
  cases answered.symm.trans same
  have performed := congrArg Prod.fst (perform_of_concludes concludes)
  rw [performed, ← state_of_step concludes.step?_eq]
  cases settles with
  | failed => exact once.doomed_next founded (once.doomed_of_holds founded concludes.holds)
  | givenUp _ _ _ told =>
      -- Only the error for undeclared names involves anybody.
      cases error with
      | unknown => exact absurd trivial known
      | _ => cases told

end Pass

namespace Session

variable {session : Session} {name : String} {earlier later moment : Moment}

theorem DeclaresOnce.founded (once : session.DeclaresOnce) (index : Nat) : (session.pass index).loader.Founded :=
  (once.writeOnce index).founded

theorem DeclaresOnce.doomed_later (once : session.DeclaresOnce) (order : earlier ≤ later)
    (doomed : (session.state earlier).loader.Doomed name) : (session.state later).loader.Doomed name := by
  refine carried (motive := fun loader => loader.Doomed name) ?_ ?_ order doomed
  · intro moment doomed
    exact (once moment.index).doomed_next (once.founded moment.index) doomed
  · intro index doomed
    exact (once index).doomed_start doomed

theorem DeclaresOnce.never_loaded (once : session.DeclaresOnce) (order : earlier ≤ later)
    (doomed : (session.state earlier).loader.Doomed name) :
    (session.state later).loader.status name ≠ .loaded :=
  Machine.Doomed.not_loaded (session.sound later).active
    ((once later.index).founded (once.founded later.index) later.count) (once.doomed_later order doomed)

/-- Every driven request has an answer. If that is an error, the library is never loaded in the rest of the
session, and neither is any that was dropped from a queue with it. -/
structure ErrorsFinal (session : Session) : Prop where
  returned : ∀ index first name, (session.state ⟨index, first⟩).control = .drive name →
    ∃ count result, (session.pass index).Returns first count name result
  unloaded : ∀ index first count name error, (session.pass index).Returns first count name (.error error) →
    ∀ later, ⟨index, count⟩ ≤ later → (session.state later).loader.status name ≠ .loaded
  dropped : ∀ index first count name error,
    (session.pass index).Returns first (count + 1) name (.error error) →
      ∀ blocker waiter, waiter ∈ (session.state ⟨index, count⟩).loader.tracker.queue blocker →
        waiter ∉ (session.state ⟨index, count + 1⟩).loader.tracker.queue blocker →
          ∀ later, ⟨index, count + 1⟩ ≤ later → (session.state later).loader.status waiter ≠ .loaded
  outermost : ∀ index name strict error errors, session.actions index = .request name strict →
    ((session.loader index).perform (session.actions index)).2 = .requested (.error error) errors →
      ¬ error.IsUnknown → (session.loader (index + 1)).status name ≠ .loaded ∧
        ∀ later : Moment, index < later.index → (session.state later).loader.status name ≠ .loaded

theorem DeclaresOnce.doomed_of_returns (once : session.DeclaresOnce) {index first count : Nat}
    {error : LoadError} (returns : (session.pass index).Returns first (count + 1) name (.error error)) :
    (session.state ⟨index, count + 1⟩).loader.Doomed name ∧
      ∀ blocker waiter, waiter ∈ (session.state ⟨index, count⟩).loader.tracker.queue blocker →
        waiter ∉ (session.state ⟨index, count + 1⟩).loader.tracker.queue blocker →
          (session.state ⟨index, count + 1⟩).loader.Doomed waiter := by
  obtain ⟨step, expels⟩ := returns.expels
  have doomed : ∀ other, (session.state ⟨index, count⟩).Drops (session.state ⟨index, count + 1⟩) other →
      (session.state ⟨index, count + 1⟩).loader.Doomed other :=
    fun other drops => (once index).doomed_of_drops (once.founded index) step drops
  exact ⟨doomed name expels.drops, fun _ waiter queued left => doomed waiter (expels.drops_of_left queued left)⟩

/-- Where no library is declared twice, every error is final. -/
theorem final_of_error (session : Session) (once : session.DeclaresOnce) : session.ErrorsFinal where
  returned _ _ _ driven := Pass.exists_returns driven
  unloaded index first count name error returns later order := by
    cases count with
    | zero => exact absurd returns.later (Nat.not_lt_zero first)
    | succ count => exact once.never_loaded order (once.doomed_of_returns returns).1
  dropped _ _ _ _ _ returns blocker waiter queued left _ order :=
    once.never_loaded order ((once.doomed_of_returns returns).2 blocker waiter queued left)
  outermost index name strict error errors asked answered known := by
    have doomed : (session.loader (index + 1)).Doomed name :=
      (once index).doomed_of_error (once.founded index) asked answered known
    have opened : (session.state ⟨index + 1, 0⟩).loader.Doomed name := (once (index + 1)).doomed_start doomed
    constructor
    · have unloaded := once.never_loaded (Moment.le_refl _) opened
      rwa [Loader.status, session.tracker_start] at unloaded
    · intro later order
      refine once.never_loaded ?_ opened
      rcases Nat.lt_or_eq_of_le order with beyond | same
      · exact .inl beyond
      · exact .inr ⟨same, Nat.zero_le _⟩

/-- `a` and `b` need each other, which is found out when `a` is resumed after `x`; by then `c` waits for `a`. -/
def entangled : Session := .ofList ⟨false⟩ false [.register "a" ["x", "b"] .noop, .register "b" ["a"] .noop,
  .register "x" [] (.program [.request "c" false]), .register "c" ["a"] .noop, .request "a" false]

theorem final_of_error_entangled : entangled.DeclaresOnce ∧
    (entangled.pass 4).Returns 18 19 "a" (.error (.dependencyCycle ["a", "b", "a"])) ∧
    "c" ∈ (entangled.state ⟨4, 18⟩).loader.tracker.queue "a" ∧
    "c" ∉ (entangled.state ⟨4, 19⟩).loader.tracker.queue "a" ∧
    ∀ later, ⟨4, 19⟩ ≤ later → (entangled.state later).loader.status "a" ≠ .loaded ∧
      (entangled.state later).loader.status "c" ≠ .loaded := by
  have once : entangled.DeclaresOnce := by
    refine .ofList ?_
    intro index early
    match index, early with
    | 0, _ => exact .of_register rfl (by cbv)
    | 1, _ => exact .of_register rfl (by cbv)
    | 2, _ => exact .of_register rfl (by cbv)
    | 3, _ => exact .of_register rfl (by cbv)
    | 4, _ =>
        refine .of_rest 32 (by cbv) ?_ (by cbv)
        rintro name dependencies target ⟨⟩
  have returns : (entangled.pass 4).Returns 18 19 "a" (.error (.dependencyCycle ["a", "b", "a"])) := by
    refine ⟨by decide, by cbv, by cbv, by cbv, ?_⟩
    intro between after early
    omega
  have queued : "c" ∈ (entangled.state ⟨4, 18⟩).loader.tracker.queue "a" := by
    have queue : (entangled.state ⟨4, 18⟩).loader.tracker.queue "a" = ["c"] := by cbv
    simp [queue]
  have left : "c" ∉ (entangled.state ⟨4, 19⟩).loader.tracker.queue "a" := by
    have queue : (entangled.state ⟨4, 19⟩).loader.tracker.queue "a" = [] := by cbv
    simp [queue]
  have final := final_of_error entangled once
  refine ⟨once, returns, queued, left, ?_⟩
  intro later order
  exact ⟨final.unloaded _ _ _ _ _ returns later order, final.dropped _ _ _ _ _ returns _ _ queued left later order⟩

end Session

end DemandLoad
