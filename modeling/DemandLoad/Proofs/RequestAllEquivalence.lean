import DemandLoad.Proofs.SweepSimulation
import DemandLoad.Proofs.TargetLaunches

/-!
A request for all names with a prefix, against requests for each of them. What one of these leaves waiting waits
for libraries that never load, so the next one does not meet it.
-/

namespace DemandLoad

namespace Machine

variable {machine : Machine} {hopeless : String → Prop} {bottom other : Frame} {bulk : Machine}

theorem Mirrors.launch?_eq (mirrors : machine.Mirrors hopeless bottom other bulk) :
    bulk.launch? = machine.launch? := by
  simp only [launch?, mirrors.control, mirrors.loaders.status, mirrors.loaders.registry]

end Machine

namespace Pass

variable {bulk single : Pass} {opening before : Nat} {name : String} {rest : List String}
  {errors : List LoadError} {last count : Nat} {result : Except LoadError Outcome}

theorem launches_of_concludes {pass : Pass} {verdict : Verdict} (concludes : (pass.state last).Concludes verdict) :
    pass.loader.launches pass.action = pass.collect Machine.launch? last := by
  have done : (pass.state (last + 1)).control = .done ((pass.state last).conclude verdict).answer := by
    rw [state_of_step concludes.step?_eq]
    rfl
  have settled : (pass.state last).launch? = none :=
    Machine.launch?_eq_none (by rw [concludes.control]; nofun)
  rw [launches_of_done done, collect_unseen _ settled]

section Request

variable (wide : bulk.Quiet) (narrow : single.Quiet) (asks : single.action = .request name false)
  (sweeps : bulk.state opening =
    ⟨(bulk.state opening).loader, [], .sweep .outermost before (name :: rest) errors⟩)
  (level : single.loader.Matches (bulk.state opening).loader) (returns : single.Returns 0 last name result)
include wide narrow asks sweeps level returns

/-- From a point of the sweep on, its next request takes the same steps as the request by itself. -/
theorem mirrors_request (early : count ≤ last) :
    (single.state count).Mirrors single.loader.Hopeless (.requesting .outermost name)
      (.sweeping .outermost before rest errors) (bulk.state (opening + 1 + count)) := by
  have dependencies : ∀ other, single.loader.dependencies other = bulk.loader.dependencies other :=
    fun other => (level.dependencies other).symm.trans (wide.dependencies_eq opening other)
  have idle : ∀ moment, opening ≤ moment → ∀ other, (bulk.state moment).loader.status other = .unloaded →
      single.loader.status other = .unloaded := by
    intro moment later other unloaded
    rw [← level.status]
    exact idle_before later unloaded
  induction count with
  | zero =>
      have opened : bulk.state (opening + 1) =
          ⟨(bulk.state opening).loader, [.sweeping .outermost before rest errors], .drive name⟩ := by
        apply state_of_step
        rw [sweeps]
        rfl
      have contains : ∀ other, single.loader.registry.contains other = bulk.loader.registry.contains other := by
        intro other
        rw [← level.registry, wide.contains_eq]
      have bare : (bulk.state opening).agenda = [] := by
        rw [sweeps]
        rfl
      rw [Nat.add_zero, opened, state_zero asks]
      refine ⟨.base, rfl, level, fun blocker fine => ?_⟩
      rw [single.reachable.resting.queue]
      apply List.eq_nil_iff_forall_not_mem.mpr
      intro waiter queued
      exact fine (wide.hopeless_of_queued dependencies contains (idle opening (Nat.le_refl _)) bare queued)
  | succ count ih =>
      have mirrors := ih (Nat.le_of_lt early)
      have spreads : (single.state count).loader.tracker.Spreads single.loader.Hopeless := by
        refine narrow.spreads (fun _ => rfl) fun other unloaded => ?_
        exact idle_of_later unloaded
      have spreads_too := wide.spreads dependencies (idle (opening + 1 + count) (by omega))
      obtain ⟨further, step, next⟩ := mirrors.step ⟨⟨name, rfl⟩, before, rest, errors, rfl⟩ (single.sound count)
        (fun other hopeless => narrow.idle_of_hopeless hopeless count) spreads spreads_too
        (stands_before_return asks returns early) (step_before_return returns early)
      rw [← Nat.add_assoc, state_of_step step.step?_eq]
      exact next

theorem sweeps_on : (single.loader.perform single.action).1.Matches (bulk.state (opening + 1 + last + 1)).loader ∧
    bulk.state (opening + 1 + last + 1) = ⟨(bulk.state (opening + 1 + last + 1)).loader, [],
      .sweep .outermost before rest (errors ++ Machine.errorOf result)⟩ := by
  obtain ⟨aligned, control, agrees⟩ := mirrors_request wide narrow asks sweeps level returns (Nat.le_refl last)
  have returned := state_of_returns asks returns
  rw [returned] at aligned control
  have frames := aligned.eq_of_bottom
  have answered : bulk.state (opening + 1 + last) = ⟨(bulk.state (opening + 1 + last)).loader,
      [.sweeping .outermost before rest errors], .answered result⟩ := Machine.eq_of_parts frames control
  have closed : bulk.state (opening + 1 + last + 1) = ⟨(bulk.state (opening + 1 + last)).loader, [],
      .sweep .outermost before rest (errors ++ Machine.errorOf result)⟩ := by
    apply state_of_step
    rw [answered]
    rfl
  rw [closed]
  exact ⟨(matches_of_returns asks narrow returns).symm.trans agrees.toMatches, rfl⟩

theorem collect_request : bulk.collect Machine.launch? (opening + 1 + last + 1) =
    bulk.collect Machine.launch? opening ++ single.loader.launches single.action := by
  have alike : ∀ count, count ≤ last → bulk.collect Machine.launch? (opening + 1 + count) =
      bulk.collect Machine.launch? opening ++ single.collect Machine.launch? count := by
    intro count early
    induction count with
    | zero =>
        have idle : (bulk.state opening).launch? = none := by
          rw [sweeps]
          rfl
        exact (collect_unseen _ idle).trans (List.append_nil _).symm
    | succ count ih =>
        have mirrors := mirrors_request wide narrow asks sweeps level returns (Nat.le_of_lt early)
        rw [← Nat.add_assoc, collect_succ, collect_succ, ih (Nat.le_of_lt early), mirrors.launch?_eq,
          List.append_assoc]
  have mirrors := mirrors_request wide narrow asks sweeps level returns (Nat.le_refl last)
  have idle : (single.state last).launch? = none := by
    rw [state_of_returns asks returns]
    rfl
  obtain ⟨-, concludes⟩ := concludes_of_returns asks narrow returns
  rw [launches_of_concludes concludes, collect_unseen _ idle, ← alike last (Nat.le_refl last)]
  exact collect_unseen _ (mirrors.launch?_eq.trans idle)

end Request

theorem sweeps_all (wide : bulk.Quiet) {names : List String} {loader : Loader} (reachable : loader.Reachable)
    (silent : loader.Confined (¬ ·.Declares)) (level : loader.Matches (bulk.state opening).loader)
    (sweeps : bulk.state opening = ⟨(bulk.state opening).loader, [], .sweep .outermost before names errors⟩) :
    ∃ closing told, (loader.performAll (requests names)).1.Matches (bulk.state closing).loader ∧
      bulk.state closing = ⟨(bulk.state closing).loader, [], .sweep .outermost before [] told⟩ ∧
      bulk.collect Machine.launch? closing =
        bulk.collect Machine.launch? opening ++ loader.launchesAll (requests names) := by
  induction names generalizing loader opening errors with
  | nil => exact ⟨opening, errors, level, sweeps, (List.append_nil _).symm⟩
  | cons name names ih =>
      let single : Pass := ⟨loader, reachable, .request name false⟩
      have asks : single.action = .request name false := rfl
      have narrow : single.Quiet := .of_confined trivial silent fun _ => id
      obtain ⟨last, result, returns⟩ := exists_returns_of_request asks
      obtain ⟨after, onward⟩ := sweeps_on wide narrow asks sweeps level returns
      have launched := collect_request wide narrow asks sweeps level returns
      have still : (loader.perform (.request name false)).1.Confined (¬ ·.Declares) :=
        silent.perform (hereditary_of_silent fun _ => id) reachable trivial
      obtain ⟨closing, told, final, done, later⟩ := ih (reachable.perform _) still after onward
      refine ⟨closing, told, final, done, ?_⟩
      rw [later, launched, List.append_assoc]
      rfl

end Pass

namespace Loader

/-- Requesting all names with a prefix is the same as requesting each of them in turn, and runs the same targets
in the same order. -/
theorem requestAll_eq_requests (loader : Loader) (reachable : loader.Reachable)
    (silent : loader.Confined (¬ ·.Declares)) (stem : String) (strict : Bool) :
    let names := loader.registry.names.filter fun name => stem.toList <+: name.toList
    let bulk := (loader.perform (.requestAll stem strict)).1
    let each := (loader.performAll (requests names)).1
    loader.launches (.requestAll stem strict) = loader.launchesAll (requests names) ∧
      (∀ name, bulk.status name = each.status name) ∧ (∀ name, bulk.isFailed name = each.isFailed name) ∧
      bulk.loaded = each.loaded ∧ bulk.registry = each.registry := by
  rw [← Machine.swept_eq]
  intro names bulk each
  let pass : Pass := ⟨loader, reachable, .requestAll stem strict⟩
  have quiet : pass.Quiet := .of_confined trivial silent fun _ => id
  have opened : loader.Matches (pass.state 0).loader := ⟨rfl, .refl _⟩
  obtain ⟨closing, told, level, swept, launched⟩ := Pass.sweeps_all quiet reachable silent opened rfl
  have settled : pass.state (closing + 1) =
      ⟨(pass.state closing).loader, [], .settle (.sweep loader.loaded.length told) []⟩ := by
    apply Pass.state_of_step
    rw [swept]
    rfl
  have concludes : (pass.state (closing + 1)).Concludes (.sweep loader.loaded.length told) :=
    ⟨by rw [settled], quiet.due_eq _⟩
  have idle : (pass.state closing).launch? = none := by
    rw [swept]
    rfl
  have given := Machine.matches_conclude (pass.state (closing + 1)) (.sweep loader.loaded.length told)
  have performed : bulk = ((pass.state (closing + 1)).conclude (.sweep loader.loaded.length told)).loader :=
    congrArg Prod.fst (Pass.perform_of_concludes concludes)
  rw [show (pass.state (closing + 1)).loader = (pass.state closing).loader by rw [settled], ← performed] at given
  have same : each.Matches bulk := level.trans given
  refine ⟨?_, same.status, same.isFailed, same.loaded, same.registry⟩
  rw [show loader.launches _ = _ from Pass.launches_of_concludes concludes, Pass.collect_unseen _ idle, launched]
  rfl

/-- `m.a` waits for an undeclared name, and `m.b` for `m.a`; `m.c` is resumed when `base` is loaded, which
requested it; `m.d` and `m.e` need each other; the target of `m.f` requests all of them and fails. -/
def plugins : List Action :=
  [.register "m.a" ["ghost"] .noop, .register "m.b" ["base", "m.a"] .noop,
    .register "base" [] (.program [.request "m.c" false, .request "m.b" false, .query .waiting]),
    .register "m.c" ["base"] (.program [.query (.queued "ghost")]), .register "m.d" ["m.e"] .noop,
    .register "m.e" ["m.c", "m.d"] .noop, .register "m.f" ["m.c"] (.program [.requestAll "m." false, .fail "spent"]),
    .register "m.g" ["base"] (.program [.request "m.f" false]), .register "n" [] .noop]

theorem requestAll_eq_requests_plugins :
    let loader := ((create ⟨false⟩ false).performAll plugins).1
    let bulk := (loader.perform (.requestAll "m." false)).1
    let each := (loader.performAll (requests ["m.a", "m.b", "m.c", "m.d", "m.e", "m.f", "m.g"])).1
    loader.Reachable ∧ loader.Confined (¬ ·.Declares) ∧
      (loader.launches (.requestAll "m." false)).map Prod.fst = ["base", "m.c", "m.f", "m.g"] ∧
      loader.launches (.requestAll "m." false) =
        loader.launchesAll (requests ["m.a", "m.b", "m.c", "m.d", "m.e", "m.f", "m.g"]) ∧
      bulk.loaded = ["base", "m.c", "m.g"] ∧ each.loaded = ["base", "m.c", "m.g"] ∧
      bulk.isFailed "m.f" = true ∧ (∀ name, bulk.status name = each.status name) ∧
      bulk.registry = each.registry := by
  have reachable : ((create ⟨false⟩ false).performAll plugins).1.Reachable :=
    (Reachable.create ⟨false⟩ false).performAll plugins
  have silent : ((create ⟨false⟩ false).performAll plugins).1.Confined (¬ ·.Declares) :=
    Confined.performAll nofun (fun _ => id) (.create ⟨false⟩ false) plugins
      (by simp [plugins, Action.Offers, Target.actions, Action.Declares])
  have names : (((create ⟨false⟩ false).performAll plugins).1.registry.names.filter
      fun name => "m.".toList <+: name.toList) =
      ["m.a", "m.b", "m.c", "m.d", "m.e", "m.f", "m.g"] := by cbv
  obtain ⟨launched, status, failed, loaded, registry⟩ := requestAll_eq_requests _ reachable silent "m." false
  rw [names] at launched status loaded registry
  have order : ((((create ⟨false⟩ false).performAll plugins).1.perform (.requestAll "m." false)).1).loaded =
      ["base", "m.c", "m.g"] := by cbv
  exact ⟨reachable, silent, by cbv, launched, order, loaded ▸ order, by cbv, status, registry⟩

end Loader

end DemandLoad
