import DemandLoad.Proofs.NeededLibraries
import DemandLoad.Proofs.OutermostRequests
import DemandLoad.Proofs.PostOrderTraversal
import DemandLoad.Proofs.StaticRequestResults

namespace DemandLoad

theorem Climbs.not_settling {goal : String} {frames : List Frame} {verdict : Verdict} {rest : List String}
    (climbs : Climbs goal frames) : .settling verdict rest ∉ frames := by
  induction frames with
  | nil => exact List.not_mem_nil
  | cons frame frames ih =>
      cases frame with
      | walking => simpa using ih climbs
      | requesting caller name =>
          cases caller with
          | outermost => simp [climbs.2]
          | program => cases climbs
      | sweeping | resuming | settling => cases climbs

namespace Machine

variable {machine : Machine} {origin : Loader} {goal name : String} {asked order : List String}

theorem Traverses.mem_iff (traverses : machine.Traverses origin goal order) (tallied : machine.loader.Tallied)
    (before : origin.Tallied) : order.Nodup ∧
      ∀ name, name ∈ order ↔ origin.status name ≠ .loaded ∧ machine.loader.status name = .loaded := by
  have distinct := tallied.nodup
  rw [traverses.loaded] at distinct
  obtain ⟨-, nodup, apart⟩ := List.nodup_append.mp distinct
  refine ⟨nodup, fun name => ?_⟩
  rw [traverses.loaded_iff, ne_eq, ← before.mem_iff]
  constructor
  · exact fun member => ⟨fun old => apart name old name member rfl, .inr member⟩
  · rintro ⟨new, old | member⟩
    · exact absurd old new
    · exact member

theorem answer_conclude_of_calm {outcome : Outcome} (calm : machine.loader.Calm) (apart : outcome ≠ .deferred) :
    (machine.conclude (.request name (.ok outcome))).answer = .requested (.ok outcome) [] := by
  have buffers := calm.buffers
  simp only [Loader.buffers, Prod.mk.injEq] at buffers
  obtain ⟨failures, orphaned⟩ := buffers
  cases outcome with
  | deferred => exact absurd rfl apart
  | loaded | alreadyLoaded =>
      simp [conclude, answer, goto, withLoader, Loader.takeErrors, Loader.giveUpUnresolved, calm.unresolved,
        failures, orphaned, verdictAnswer]

end Machine

namespace Pass

variable {pass : Pass} {goal name : String} {strict : Bool} {last count : Nat}
  {result : Except LoadError Outcome}

theorem exists_traverses (asks : pass.action = .request goal strict)
    (passive : pass.loader.Confined Action.Passive) (returns : pass.Returns 0 last goal result)
    (early : count ≤ last)
    (underway : (pass.state count).Underway pass.loader goal (pass.asked (count + 1))) :
    ∃ order, (pass.state count).Traverses pass.loader goal order := by
  have requests : pass.action.Requests := by rw [asks]; trivial
  induction count with
  | zero => exact ⟨[], .start goal (state_zero asks)⟩
  | succ count ih =>
      have static := pass.static requests passive count
      have step := step_before_return returns early
      have stands := stands_before_return asks returns early
      rcases climbs_or_falls asks passive returns (Nat.le_of_lt early) with before | falling
      · obtain ⟨order, traverses⟩ := ih (Nat.le_of_lt early) before
        exact traverses.step static before step underway.control stands
      · obtain ⟨other, answered, put_off⟩ := (falling.step static step stands).control
        have climbs := underway.control
        rw [answered] at climbs
        cases other with
        | error => cases climbs
        | ok outcome => exact absurd (put_off outcome rfl) climbs

theorem not_holds_before_return {verdict : Verdict} (asks : pass.action = .request goal strict)
    (passive : pass.loader.Confined Action.Passive) (returns : pass.Returns 0 last goal result)
    (early : count ≤ last) : ¬ (pass.state count).Holds verdict := by
  rcases climbs_or_falls asks passive returns early with underway | falling
  · rintro (⟨due, control⟩ | ⟨rest, member⟩)
    · have climbs := underway.control
      rw [control] at climbs
      cases climbs
    · exact underway.frames.not_settling member
  · rintro (⟨due, control⟩ | ⟨rest, member⟩)
    · obtain ⟨result, answered, -⟩ := falling.control
      cases control.symm.trans answered
    · exact falling.frames.not_settling member

theorem loads_of_underway (asks : pass.action = .request goal strict)
    (passive : pass.loader.Confined Action.Passive) (returns : pass.Returns 0 last goal result)
    (underway : (pass.state last).Underway pass.loader goal (pass.asked (last + 1))) :
    ∃ outcome order, (pass.loader.perform pass.action).2 = .requested (.ok outcome) [] ∧
      pass.loader.Loadable goal ∧
      (pass.loader.perform pass.action).1.loaded = pass.loader.loaded ++ order ∧ order.Nodup ∧
      (∀ name, name ∈ order ↔ pass.loader.Needed goal name ∧ pass.loader.status name ≠ .loaded) ∧
      pass.loader.PostOrder [] [goal] order := by
  have answered := answered_of_returns asks passive returns
  have quiet : pass.Quiet := quiet_of_passive (by rw [asks]; trivial) passive
  have level := matches_of_returns asks quiet returns
  obtain ⟨next, concludes⟩ := concludes_of_returns asks quiet returns
  obtain ⟨order, traverses⟩ := exists_traverses asks passive returns (Nat.le_refl last) underway
  obtain ⟨nodup, members⟩ := traverses.mem_iff (pass.tallied last) pass.reachable.tallied
  have climbs := underway.control
  rw [returns.answered] at climbs
  cases result with
  | error => cases climbs
  | ok outcome =>
      have calm : (pass.state (last + 1)).loader.Calm := by
        rw [next]
        exact underway.calm
      have loads : pass.loader.Loadable goal := by
        refine answered.explored.loadable goal ?_
        rw [← level.status]
        exact loaded_of_concludes climbs concludes
      refine ⟨outcome, order, ?_, loads, ?_, nodup, ?_, ?_⟩
      · rw [perform_of_concludes concludes]
        exact Machine.answer_conclude_of_calm calm climbs
      · rw [level.loaded]
        exact traverses.loaded
      · intro name
        rw [members, answered.loaded_iff]
        constructor
        · rintro ⟨waits, old | ⟨-, attempted⟩⟩
          · exact absurd old waits
          · exact ⟨attempted.needed, waits⟩
        · rintro ⟨needed, waits⟩
          exact ⟨waits, .inr ⟨loads.of_needed needed, loads.attempted needed⟩⟩
      · refine traverses.remains order ?_
        rw [state_of_returns asks returns]
        rfl

theorem error_of_falling (asks : pass.action = .request goal strict)
    (passive : pass.loader.Confined Action.Passive) (returns : pass.Returns 0 last goal result)
    (falling : (pass.state last).Falling pass.loader goal (pass.asked (last + 1))) :
    ∃ error reported, (pass.loader.perform pass.action).2 = .requested (.error error) reported ∧
      ¬ pass.loader.Loadable goal := by
  have answered := answered_of_returns asks passive returns
  obtain ⟨next, concludes⟩ :=
    concludes_of_returns asks (quiet_of_passive (by rw [asks]; trivial) passive) returns
  have awaited := falling.top
  rw [state_of_returns asks returns] at awaited
  obtain ⟨asks_goal, explained⟩ := awaited goal rfl
  have waits := explained.not_loaded answered.static.sound.active
  have unable : ¬ pass.loader.Loadable goal := fun loadable => waits (answered.loaded_of_asked loadable asks_goal)
  obtain ⟨unknown, final, reported, told, given, settles⟩ := perform_request concludes
  have same : (pass.state (last + 1)).loader = (pass.state last).loader := by rw [next]
  rw [← same] at waits
  obtain ⟨other, control, put_off⟩ := falling.control
  cases returns.answered.symm.trans control
  cases settles with
  | failed error => exact ⟨error, reported, told, unable⟩
  | givenUp error => exact ⟨error, reported, told, unable⟩
  | answered outcome apart => exact absurd (put_off outcome rfl) apart
  | loaded loaded => exact absurd (status_perform concludes ▸ loaded) waits
  | forgotten _ untold =>
      -- Nothing has dropped what waits since there is a verdict.
      rcases pending_or_dropped .deferred (last + 1) concludes.holds with loaded | ⟨-, pending | dropped⟩
      · exact absurd loaded waits
      · have remembered := (concludes.pending_iff (pass.sound (last + 1))).mp pending
        exact absurd (given.mpr remembered) untold
      · obtain ⟨moment, early, holds, -⟩ := dropped
        exact absurd holds (not_holds_before_return asks passive returns (Nat.le_of_lt_succ early))

end Pass

namespace Session

variable {session : Session}

/-- Every target that the session declares does nothing but fail or query. -/
def Static (session : Session) : Prop := ∀ index, (session.actions index).Offers Action.Passive

theorem Static.confined (static : session.Static) (index : Nat) :
    (session.loader index).Confined Action.Passive := by
  induction index with
  | zero => exact nofun
  | succ index ih => exact ih.perform Action.Passive.hereditary (session.reachable index) (static index)

theorem Static.ofList {config : Config} {observed : Bool} {actions : List Action}
    (offers : ∀ action ∈ actions, action.Offers Action.Passive) :
    (Session.ofList config observed actions).Static := by
  intro index
  change (actions.getD index (.query .names)).Offers Action.Passive
  rcases Nat.lt_or_ge index actions.length with within | beyond
  · rw [List.getD_eq_getElem _ _ within]
    exact offers _ (List.getElem_mem within)
  · rw [List.getD_eq_default _ _ beyond]
    trivial

/-- A request gives no error exactly if its library can be loaded. Then there is nothing else to report, and the
load order is extended by what is needed and not loaded, in post-order. -/
theorem traversed_of_static (session : Session) (static : session.Static) (index : Nat) (name : String)
    (strict : Bool) :
    let loader := session.loader index
    let after := (loader.perform (.request name strict)).1
    ∃ result errors, (loader.perform (.request name strict)).2 = .requested result errors ∧
      ((∃ outcome, result = .ok outcome) ↔ loader.CanLoad name) ∧
      (loader.CanLoad name → errors = [] ∧ ∃ order, after.loaded = loader.loaded ++ order ∧ order.Nodup ∧
        (∀ other, other ∈ order ↔ loader.Needed name other ∧ loader.status other ≠ .loaded) ∧
        loader.PostOrder [] [name] order ∧ ∀ other, loader.PostOrder [] [name] other → other = order) := by
  intro loader after
  let pass : Pass := ⟨loader, session.reachable index, .request name strict⟩
  have asks : pass.action = .request name strict := rfl
  have passive : pass.loader.Confined Action.Passive := static.confined index
  have able : loader.CanLoad name ↔ loader.Loadable name := (session.reachable index).canLoad_iff
  obtain ⟨last, result, returns⟩ := Pass.exists_returns_of_request asks
  rcases Pass.climbs_or_falls asks passive returns (Nat.le_refl last) with underway | falling
  · obtain ⟨outcome, order, answered, loads, grown, distinct, members, traversal⟩ :=
      Pass.loads_of_underway asks passive returns underway
    refine ⟨.ok outcome, [], answered, iff_of_true ⟨outcome, rfl⟩ (able.mpr loads), fun _ => ⟨rfl, order, ?_⟩⟩
    exact ⟨grown, distinct, members, traversal, fun other again => traversal.unique again⟩
  · obtain ⟨error, errors, answered, unable⟩ := Pass.error_of_falling asks passive returns falling
    exact ⟨.error error, errors, answered, iff_of_false nofun (mt able.mp unable),
      fun loads => absurd (able.mp loads) unable⟩

/-- `base` is shared and loaded early; `left` and `right` meet in `shared`. Of what `top` needs besides, one
target fails, `knot` needs itself, and `open` needs an undeclared name. -/
def diamond : Session := .ofList ⟨false⟩ false [.register "base" [] .noop,
  .register "shared" ["base", "leaf"] (.program [.query .loaded]), .register "leaf" [] .noop,
  .register "left" ["shared", "base"] .noop, .register "right" ["leaf", "shared", "shared"] .noop,
  .register "app" ["right", "left", "right"] .noop, .register "bad" [] (.program [.fail "broken"]),
  .register "top" ["leaf", "bad"] .noop, .register "knot" ["app", "tie"] .noop, .register "tie" ["knot"] .noop,
  .register "open" ["base", "ghost"] .noop, .request "base" false]

theorem traversed_of_static_diamond : diamond.Static ∧
    (diamond.loader 12).loaded = ["base"] ∧ (diamond.loader 12).CanLoad "app" ∧
    ((diamond.loader 12).perform (.request "app" false)).2 = .requested (.ok .loaded) [] ∧
    ((diamond.loader 12).perform (.request "app" false)).1.loaded =
      ["base", "leaf", "shared", "right", "left", "app"] ∧
    (diamond.loader 12).PostOrder [] ["app"] ["leaf", "shared", "right", "left", "app"] ∧
    ¬ (diamond.loader 12).CanLoad "top" ∧ ¬ (diamond.loader 12).CanLoad "knot" ∧
    ¬ (diamond.loader 12).CanLoad "open" := by
  have static : diamond.Static := .ofList (by simp [Action.Offers, Target.actions, Action.Passive])
  have before : (diamond.loader 12).loaded = ["base"] := by cbv
  have answer : ((diamond.loader 12).perform (.request "app" false)).2 = .requested (.ok .loaded) [] := by cbv
  have loaded : ((diamond.loader 12).perform (.request "app" false)).1.loaded =
      ["base", "leaf", "shared", "right", "left", "app"] := by cbv
  have unable : ∀ name error errors, ((diamond.loader 12).perform (.request name false)).2 =
      .requested (.error error) errors → ¬ (diamond.loader 12).CanLoad name := by
    intro name error errors answer able
    obtain ⟨_, _, same, fine, -⟩ := traversed_of_static diamond static 12 name false
    cases answer.symm.trans same
    obtain ⟨outcome, absurdity⟩ := fine.mpr able
    cases absurdity
  obtain ⟨result, errors, same, fine, loads⟩ := traversed_of_static diamond static 12 "app" false
  cases answer.symm.trans same
  have able := fine.mp ⟨.loaded, rfl⟩
  obtain ⟨-, order, grown, -, -, traversal, -⟩ := loads able
  rw [loaded, before] at grown
  cases grown
  exact ⟨static, before, able, answer, loaded, traversal, unable "top" (.loadFailed ⟨"bad", "broken"⟩) [] (by cbv),
    unable "knot" (.dependencyCycle ["knot", "tie", "knot"]) [] (by cbv),
    unable "open" (.unknown "ghost" [] ["open"]) [] (by cbv)⟩

end Session

end DemandLoad
