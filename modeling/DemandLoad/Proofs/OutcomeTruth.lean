import DemandLoad.Proofs.FailureBlame
import DemandLoad.Proofs.WaitingForest
import Mathlib.Data.List.Nodup

namespace DemandLoad

theorem Tracker.mem_values_of_queued {tracker : Tracker} {name blocker : String}
    (queued : name ∈ tracker.queue blocker) : name ∈ tracker.queues.values.flatten := by
  cases found : tracker.queues.get? blocker with
  | none =>
      rw [queue, found] at queued
      cases queued
  | some waiting =>
      rw [queue, found] at queued
      obtain ⟨above, below, rows, -⟩ := List.lookup_eq_some_iff.mp found
      refine List.mem_flatten.mpr ⟨waiting, List.mem_map.mpr ⟨(blocker, waiting), ?_, rfl⟩, queued⟩
      simp [rows]

namespace Machine

variable {machine next : Machine} {loader : Loader} {frames : List Frame} {name blocker : String}
  {outcome : Outcome}

theorem Succeeds.worksOver (reason : Succeeds machine loader frames name outcome) :
    machine.WorksOver name frames := by
  cases reason <;> exact .inl ⟨rfl, rfl⟩

theorem Postpones.worksOver (reason : Postpones machine loader frames name blocker) :
    machine.WorksOver name frames := by
  cases reason
  case dependencyWaits => exact .inr ⟨_, rfl, rfl⟩
  all_goals exact .inl ⟨rfl, rfl⟩

theorem Remembers.worksOver (reason : Remembers machine loader frames name) :
    machine.WorksOver name frames := by
  cases reason <;> exact .inl ⟨rfl, rfl⟩

inductive Yields (machine next : Machine) (name : String) : Outcome → Prop
  | found {outcome : Outcome} (reason : Succeeds machine next.loader next.frames name outcome) :
      Yields machine next name outcome
  | waits {loader : Loader} {blocker : String} (reason : Postpones machine loader next.frames name blocker)
      (deferred : next.loader = loader.defer name blocker) : Yields machine next name .deferred
  | unknown {loader : Loader} (reason : Remembers machine loader next.frames name)
      (remembered : next.loader = loader.remember name) : Yields machine next name .deferred

theorem Step.yields (step : Step machine next) (busy : machine.Busy name next.frames)
    (control : next.control = .answered (.ok outcome)) : machine.Yields next name outcome := by
  cases step with
  | succeed reason =>
      cases control
      cases busy.eq_of_worksOver reason.worksOver
      exact .found reason
  | postpone reason =>
      cases control
      cases busy.eq_of_worksOver reason.worksOver
      exact .waits reason rfl
  | remember reason =>
      cases control
      cases busy.eq_of_worksOver reason.worksOver
      exact .unknown reason rfl
  | _ => cases control

/-- The library is not loaded and has not failed. It is in one queue only, its own if its target runs and
otherwise that of its first blocker; or it is undeclared and unresolved. -/
structure PutOff (machine : Machine) (name : String) : Prop where
  waits : machine.loader.status name ≠ .loaded
  sound : machine.loader.isFailed name = false
  place : machine.loader.registry.contains name = false ∧ name ∈ machine.loader.unresolved ∨
    machine.loader.tracker.queues.values.flatten.count name = 1 ∧
      (name ∈ machine.running ∧ name ∈ machine.loader.tracker.queue name ∨
        name ∉ machine.running ∧ ∃ blocker, machine.loader.firstBlocker? name = some blocker ∧
          name ∈ machine.loader.tracker.queue blocker)

theorem Succeeds.ne_deferred (reason : Succeeds machine loader frames name outcome) : outcome ≠ .deferred := by
  cases reason <;> simp

theorem Remembers.putOff (active : machine.Active) (reason : Remembers machine loader frames name)
    (walked : ∀ rest, machine.control = .walk name rest → machine.loader.registry.contains name = true)
    (remembered : next.loader = loader.remember name) : next.PutOff name := by
  have unknown : machine.loader.status name = .unloaded ∧ machine.loader.registry.contains name = false ∧
      loader.tracker = machine.loader.tracker ∧ loader.registry = machine.loader.registry := by
    cases reason with
    | undeclared idle unknown => exact ⟨idle, unknown, rfl, rfl⟩
    | vanished idle unknown =>
        -- Only what is declared is walked.
        have known := walked [] rfl
        rw [Registry.contains_eq, unknown] at known
        cases known
  obtain ⟨idle, unknown, tracker, registry⟩ := unknown
  have same : next.loader.tracker = machine.loader.tracker := by
    rw [remembered, Loader.tracker_remember, tracker]
  refine ⟨?_, ?_, .inl ⟨?_, ?_⟩⟩
  · rw [Loader.status, same]
    simp [show machine.loader.tracker.status name = .unloaded from idle]
  · rw [Loader.isFailed, same]
    exact active.sound_of_idle idle
  · rw [remembered, Loader.registry_remember, registry, unknown]
  · rw [remembered, Loader.mem_unresolved_remember]
    exact .inr rfl

theorem Busy.suffix (busy : machine.Busy name frames) : frames <:+ machine.frames := by
  rcases busy with ⟨same, -⟩ | ⟨frame, above, -⟩
  · exact same ▸ List.suffix_rfl
  · exact (List.suffix_cons frame frames).trans above

end Machine

namespace Pass

variable {pass : Pass} {first count last : Nat} {name : String} {result other : Except LoadError Outcome}
  {outcome : Outcome}

theorem Returns.unique (returns : pass.Returns first count name result)
    (again : pass.Returns first last name other) : last = count ∧ other = result := by
  have same : last = count := by
    rcases Nat.lt_trichotomy count last with early | same | late
    · exact absurd returns.answered (again.waiting count returns.later early returns.below result)
    · exact same.symm
    · exact absurd again.answered (returns.waiting last again.later late again.below other)
  subst same
  exact ⟨rfl, Control.answered.inj (again.answered.symm.trans returns.answered)⟩

theorem Returns.eq_first_of_driven {between : Nat} {further : String}
    (returns : pass.Returns first count name result) (after : first ≤ between) (early : between < count)
    (below : (pass.state between).frames = (pass.state first).frames)
    (driven : (pass.state between).control = .drive further) : between = first := by
  rcases Nat.lt_or_eq_of_le after with later | same
  · obtain ⟨before, rfl⟩ := Nat.exists_eq_add_one_of_ne_zero (Nat.ne_zero_of_lt later)
    have busy := returns.busy (Nat.le_of_lt_succ later) (Nat.lt_of_succ_lt early)
    rcases pass.done_or_step before with ⟨answer, done⟩ | step
    · rw [state_of_done done (Nat.le_succ before), done] at driven
      cases driven
    · obtain ⟨frame, pushed, -⟩ := step.pushed_of_driven driven
      rw [← below, pushed] at busy
      exact absurd busy.suffix Machine.not_cons_suffix
  · exact same.symm

theorem Returns.yields (returns : pass.Returns first (count + 1) name (.ok outcome)) :
    (pass.state count).Yields (pass.state (count + 1)) name outcome := by
  have busy := returns.busy (Nat.le_of_lt_succ returns.later) (Nat.lt_succ_self count)
  rw [← returns.below] at busy
  rcases pass.state_cases count with same | step
  · rw [same] at busy
    exact absurd (same ▸ returns.answered) (busy.not_answered _)
  · exact step.yields busy returns.answered

theorem state_of_loaded (driven : (pass.state first).control = .drive name)
    (loaded : (pass.state first).loader.status name = .loaded) :
    pass.state (first + 1) = ⟨(pass.state first).loader.announce (.requested name),
      (pass.state first).frames, .answered (.ok .alreadyLoaded)⟩ := by
  apply state_of_step
  generalize pass.state first = machine at driven loaded
  obtain ⟨loader, frames, _⟩ := machine
  cases driven
  exact (Machine.Succeeds.loadedBefore loaded).step?_eq

theorem returns_of_loaded (driven : (pass.state first).control = .drive name)
    (loaded : (pass.state first).loader.status name = .loaded) :
    pass.Returns first (first + 1) name (.ok .alreadyLoaded) := by
  have next := state_of_loaded driven loaded
  refine ⟨Nat.lt_succ_self first, driven, by rw [next], by rw [next], ?_⟩
  intro between after early
  omega

theorem loaded_of_alreadyLoaded (returns : pass.Returns first count name (.ok .alreadyLoaded)) :
    (pass.state first).loader.status name = .loaded := by
  obtain ⟨before, rfl⟩ := Nat.exists_eq_add_one_of_ne_zero (Nat.ne_zero_of_lt returns.later)
  have yields := returns.yields
  have below := returns.below
  have again : (pass.state before).frames = (pass.state first).frames →
      (pass.state before).control = .drive name → before = first :=
    returns.eq_first_of_driven (Nat.le_of_lt_succ returns.later) (Nat.lt_succ_self before)
  generalize held : pass.state before = machine at yields again
  cases yields with
  | found reason =>
      generalize (pass.state (before + 1)).loader = loader at reason
      generalize (pass.state (before + 1)).frames = frames at reason below
      cases reason with
      | loadedBefore loaded =>
          cases again below rfl
          rw [held]
          exact loaded

theorem loaded_of_returns (returns : pass.Returns first count name (.ok .loaded)) :
    (pass.state first).loader.status name ≠ .loaded ∧ (pass.state count).loader.status name = .loaded := by
  constructor
  · intro loaded
    cases ((returns_of_loaded returns.driven loaded).unique returns).2
  · obtain ⟨before, rfl⟩ := Nat.exists_eq_add_one_of_ne_zero (Nat.ne_zero_of_lt returns.later)
    have sound := pass.sound before
    have yields := returns.yields
    generalize pass.state before = machine at sound yields
    cases yields with
    | found reason =>
        generalize (pass.state (before + 1)).loader = loader at reason
        cases reason with
        | loadedMeanwhile loaded => exact loaded
        | resumedAll => exact sound.resumed _ _ rfl

theorem DeclaresOnce.putOff_of_queued {blocker : String} (once : pass.DeclaresOnce)
    (founded : pass.loader.Founded) (queued : name ∈ (pass.state count).loader.tracker.queue blocker) :
    (pass.state count).PutOff name := by
  have active := (pass.sound count).active
  have forest := once.forest founded count
  have single : (pass.state count).loader.tracker.queues.values.flatten.count name = 1 :=
    List.count_eq_one_of_mem forest.distinct (Tracker.mem_values_of_queued queued)
  by_cases same : name = blocker
  · subst same
    have running := forest.itself name queued
    obtain ⟨loading, fine⟩ := (active.mem_running name).mp running
    exact ⟨by simp [loading], fine, .inr ⟨single, .inl ⟨running, queued⟩⟩⟩
  · obtain ⟨-, idle, blocked⟩ := forest.blocked name blocker ⟨queued, same⟩
    refine ⟨by simp [idle], active.sound_of_idle idle, .inr ⟨single, .inr ⟨?_, blocker, blocked, queued⟩⟩⟩
    intro running
    cases idle.symm.trans ((active.mem_running name).mp running).1

theorem DeclaresOnce.putOff (once : pass.DeclaresOnce) (founded : pass.loader.Founded)
    (returns : pass.Returns first count name (.ok .deferred)) : (pass.state count).PutOff name := by
  obtain ⟨before, rfl⟩ := Nat.exists_eq_add_one_of_ne_zero (Nat.ne_zero_of_lt returns.later)
  cases returns.yields with
  | found reason => exact absurd rfl reason.ne_deferred
  | @waits loader blocker reason deferred =>
      have queued : name ∈ (pass.state (before + 1)).loader.tracker.queue blocker := by
        rw [deferred, Loader.tracker_defer, Tracker.mem_queue_defer]
        exact .inr ⟨rfl, rfl⟩
      exact once.putOff_of_queued founded queued
  | unknown reason remembered => exact reason.putOff (pass.sound before).active (fun _ => known_of_walk) remembered

section Outermost

variable (pass) {goal : String} {strict : Bool} {errors : List LoadError}

theorem perform_of_loaded (asks : pass.action = .request goal strict) (loaded : pass.loader.status goal = .loaded) :
    pass.loader.perform pass.action =
      (pass.loader.announce (.requested goal), .requested (.ok .alreadyLoaded) []) := by
  have resting := pass.reachable.resting
  have zero := state_zero asks
  have found : (pass.state 0).loader.status goal = .loaded := by rwa [zero]
  have driven : (pass.state 0).control = .drive goal := by rw [zero]
  have one := state_of_loaded driven found
  have two := state_after_return asks (returns_of_loaded driven found)
  rw [one, zero] at two
  have settled : (pass.loader.announce (.requested goal)).due = [] := by
    rw [Loader.due, Loader.unresolved_announce, resting.unresolved]
    rfl
  have concludes : (pass.state 2).Concludes (.request goal (.ok .alreadyLoaded)) := by
    rw [two]
    exact ⟨rfl, settled⟩
  rw [perform_of_concludes concludes, two]
  obtain ⟨failures, orphaned⟩ := Prod.mk.inj resting.buffers
  have taken : (pass.loader.announce (.requested goal)).takeErrors = (pass.loader.announce (.requested goal), []) := by
    simp [Loader.takeErrors, Loader.announce, failures, orphaned]
  have given : (pass.loader.announce (.requested goal)).giveUpUnresolved =
      (pass.loader.announce (.requested goal), none) := by
    simp [Loader.giveUpUnresolved, resting.unresolved]
  simp only [Machine.conclude, taken, given]
  rfl

theorem exists_settles {final : Except LoadError Outcome} (asks : pass.action = .request goal strict)
    (answered : (pass.loader.perform pass.action).2 = .requested final errors) : ∃ last result unknown,
      pass.Returns 0 last goal result ∧ Settles (pass.loader.perform pass.action).1 unknown goal result final ∧
        ∀ outcome, outcome ≠ .deferred → result = .ok outcome →
          (pass.loader.perform pass.action).1.status goal = .loaded := by
  obtain ⟨last, result, returns⟩ := exists_returns_of_request asks
  obtain ⟨moment, verdict, concludes, served⟩ := pass.exists_concluded (by rw [asks]; trivial)
  obtain ⟨other, rfl⟩ := (asks ▸ served).exists_result
  cases result_of_holds asks returns concludes.holds
  obtain ⟨unknown, _, _, same, -, settles⟩ := perform_request concludes
  cases answered.symm.trans same
  refine ⟨last, result, unknown, returns, settles, ?_⟩
  rintro outcome apart rfl
  exact loaded_of_concludes apart concludes

theorem loaded_of_perform_alreadyLoaded (asks : pass.action = .request goal strict)
    (answered : (pass.loader.perform pass.action).2 = .requested (.ok .alreadyLoaded) errors) :
    pass.loader.status goal = .loaded := by
  obtain ⟨last, result, unknown, returns, settles, -⟩ := pass.exists_settles asks answered
  cases settles with
  | answered =>
      have loaded := loaded_of_alreadyLoaded returns
      rwa [state_zero asks] at loaded

theorem loaded_of_perform (asks : pass.action = .request goal strict)
    (answered : (pass.loader.perform pass.action).2 = .requested (.ok .loaded) errors) :
    pass.loader.status goal ≠ .loaded ∧ (pass.loader.perform pass.action).1.status goal = .loaded := by
  constructor
  · intro loaded
    rw [pass.perform_of_loaded asks loaded] at answered
    cases answered
  · obtain ⟨last, result, unknown, returns, settles, loaded⟩ := pass.exists_settles asks answered
    cases settles with
    | answered outcome apart => exact loaded _ apart rfl
    | loaded late => exact late

end Outermost

end Pass

namespace Session

/-- A request of a target, and every driven request, returns one result. A request for a loaded library changes
nothing. -/
structure NestedOutcomesTrue (session : Session) : Prop where
  asked : ∀ index moment library name strict rest,
    (session.state ⟨index, moment⟩).control = .perform library (.request name strict :: rest) →
      (session.state ⟨index, moment + 1⟩).loader = (session.state ⟨index, moment⟩).loader ∧
        ∃ count result, (session.pass index).Returns (moment + 1) count name result ∧
          (session.state ⟨index, count⟩).Answers (session.state ⟨index, moment⟩).frames library
            (.request name strict) rest (.requested result [])
  answered : ∀ index first name, (session.state ⟨index, first⟩).control = .drive name →
    ∃ count result, ∀ last other,
      (session.pass index).Returns first last name other ↔ last = count ∧ other = result
  already : ∀ index first name, (session.state ⟨index, first⟩).control = .drive name →
    ((∃ count, (session.pass index).Returns first count name (.ok .alreadyLoaded)) ↔
      (session.state ⟨index, first⟩).loader.status name = .loaded)
  unchanged : ∀ index first count name, (session.pass index).Returns first count name (.ok .alreadyLoaded) →
    count = first + 1 ∧ session.state ⟨index, count⟩ =
      ⟨(session.state ⟨index, first⟩).loader.announce (.requested name), (session.state ⟨index, first⟩).frames,
        .answered (.ok .alreadyLoaded)⟩
  loaded : ∀ index first count name, (session.pass index).Returns first count name (.ok .loaded) →
    (session.state ⟨index, first⟩).loader.status name ≠ .loaded ∧
      (session.state ⟨index, count⟩).loader.status name = .loaded

/-- The same for requests of the outermost caller. -/
structure OutermostOutcomesTrue (session : Session) : Prop where
  already : ∀ index name strict, session.actions index = .request name strict →
    ((∃ errors, ((session.loader index).perform (session.actions index)).2 =
        .requested (.ok .alreadyLoaded) errors) ↔ (session.loader index).status name = .loaded)
  unchanged : ∀ index name strict errors, session.actions index = .request name strict →
    ((session.loader index).perform (session.actions index)).2 = .requested (.ok .alreadyLoaded) errors →
      errors = [] ∧ session.loader (index + 1) = (session.loader index).announce (.requested name)
  loaded : ∀ index name strict errors, session.actions index = .request name strict →
    ((session.loader index).perform (session.actions index)).2 = .requested (.ok .loaded) errors →
      (session.loader index).status name ≠ .loaded ∧ (session.loader (index + 1)).status name = .loaded

structure OutcomesTrue (session : Session) : Prop where
  nested : session.NestedOutcomesTrue
  outermost : session.OutermostOutcomesTrue
  deferred : session.DeclaresOnce → ∀ index first count name,
    (session.pass index).Returns first count name (.ok .deferred) → (session.state ⟨index, count⟩).PutOff name

theorem nestedOutcomesTrue (session : Session) : session.NestedOutcomesTrue where
  asked index moment library name strict rest control := by
    let pass := session.pass index
    have called : pass.state (moment + 1) = ⟨(pass.state moment).loader,
        .requesting (.program library (.request name strict) rest) name :: (pass.state moment).frames,
        .drive name⟩ := by
      apply Pass.state_of_step
      change (session.state ⟨index, moment⟩).step? = _
      rw [Machine.step?, control]
      rfl
    obtain ⟨count, result, returns⟩ := @Pass.exists_returns pass (moment + 1) name (by rw [called])
    have kept : (pass.state (moment + 1)).loader = (pass.state moment).loader := by rw [called]
    have told : pass.state count = ⟨(pass.state count).loader,
        .requesting (.program library (.request name strict) rest) name :: (pass.state moment).frames,
        .answered result⟩ := returns.state_eq (by rw [called])
    refine ⟨kept, count, result, returns, ?_⟩
    change Machine.Answers (pass.state count) (pass.state moment).frames _ _ _ _
    rw [told]
    exact .requested
  answered index first name driven := by
    obtain ⟨count, result, returns⟩ := @Pass.exists_returns (session.pass index) first name driven
    refine ⟨count, result, fun last other => ⟨returns.unique, ?_⟩⟩
    rintro ⟨rfl, rfl⟩
    exact returns
  already index first name driven :=
    ⟨fun ⟨_, returns⟩ => Pass.loaded_of_alreadyLoaded returns,
      fun loaded => ⟨first + 1, Pass.returns_of_loaded driven loaded⟩⟩
  unchanged index first count name returns := by
    have loaded := Pass.loaded_of_alreadyLoaded returns
    obtain ⟨rfl, -⟩ := (Pass.returns_of_loaded returns.driven loaded).unique returns
    exact ⟨rfl, Pass.state_of_loaded returns.driven loaded⟩
  loaded _ _ _ _ := Pass.loaded_of_returns

theorem outermostOutcomesTrue (session : Session) : session.OutermostOutcomesTrue where
  already index name strict asks :=
    ⟨fun ⟨_, answered⟩ => (session.pass index).loaded_of_perform_alreadyLoaded asks answered,
      fun loaded => ⟨[], congrArg Prod.snd ((session.pass index).perform_of_loaded asks loaded)⟩⟩
  unchanged index name strict errors asks answered := by
    have loaded := (session.pass index).loaded_of_perform_alreadyLoaded asks answered
    have performed := (session.pass index).perform_of_loaded asks loaded
    refine ⟨?_, congrArg Prod.fst performed⟩
    cases answered.symm.trans (congrArg Prod.snd performed)
    rfl
  loaded index _ _ _ asks answered := (session.pass index).loaded_of_perform asks answered

/-- Outcomes are true, and where no library is declared twice a deferred request is queued or unresolved. -/
theorem outcomesTrue (session : Session) : session.OutcomesTrue where
  nested := session.nestedOutcomesTrue
  outermost := session.outermostOutcomesTrue
  deferred once index _ _ _ returns := (once index).putOff (once.founded index) returns

/-- While `a` runs it requests `b`, which needs it, and itself. Then `d` is resumed and loaded, and later the
sweep reaches `b`. -/
theorem outcomesTrue_gathered : gathered.DeclaresOnce ∧
    (gathered.pass 5).Returns 4 6 "b" (.ok .deferred) ∧ (gathered.state ⟨5, 6⟩).PutOff "b" ∧
    (gathered.pass 5).Returns 15 16 "a" (.ok .deferred) ∧ (gathered.state ⟨5, 16⟩).PutOff "a" ∧
    (gathered.pass 5).Returns 24 29 "d" (.ok .loaded) ∧ (gathered.state ⟨5, 29⟩).loader.status "d" = .loaded ∧
    (gathered.state ⟨5, 35⟩).control = .drive "b" ∧ (gathered.state ⟨5, 35⟩).loader.status "b" = .loaded ∧
    ∃ count, (gathered.pass 5).Returns 35 count "b" (.ok .alreadyLoaded) := by
  have blocked : (gathered.pass 5).Returns 4 6 "b" (.ok .deferred) := by
    refine ⟨by decide, by cbv, by cbv, by cbv, ?_⟩
    intro between after early _ result answered
    obtain rfl : between = 5 := by omega
    have walks : ((gathered.pass 5).state 5).control = .walk "b" ["a"] := by cbv
    cases walks.symm.trans answered
  have itself : (gathered.pass 5).Returns 15 16 "a" (.ok .deferred) := by
    refine ⟨by decide, by cbv, by cbv, by cbv, ?_⟩
    intro between after early
    omega
  have loads : (gathered.pass 5).Returns 24 29 "d" (.ok .loaded) := by
    refine ⟨by decide, by cbv, by cbv, by cbv, ?_⟩
    intro between after early _ result answered
    obtain rfl | rfl | rfl | rfl : between = 25 ∨ between = 26 ∨ between = 27 ∨ between = 28 := by omega
    · cases (show ((gathered.pass 5).state 25).control = .walk "d" ["b"] by cbv).symm.trans answered
    · cases (show ((gathered.pass 5).state 26).control = .walk "d" [] by cbv).symm.trans answered
    · cases (show ((gathered.pass 5).state 27).control = .perform "d" [] by cbv).symm.trans answered
    · cases (show ((gathered.pass 5).state 28).control = .resume "d" [] by cbv).symm.trans answered
  have driven : (gathered.state ⟨5, 35⟩).control = .drive "b" := by cbv
  have loaded : (gathered.state ⟨5, 35⟩).loader.status "b" = .loaded := by cbv
  have outcomes := outcomesTrue gathered
  exact ⟨gathered_declaresOnce, blocked, outcomes.deferred gathered_declaresOnce 5 4 6 "b" blocked, itself,
    outcomes.deferred gathered_declaresOnce 5 15 16 "a" itself, loads, (outcomes.nested.loaded 5 24 29 "d" loads).2,
    driven, loaded, (outcomes.nested.already 5 35 "b" driven).mpr loaded⟩

end Session

end DemandLoad
