import DemandLoad.Proofs.RequestCoverage
import DemandLoad.Proofs.StaticRequestResults
import Mathlib.Tactic.Tauto

namespace DemandLoad

namespace Loader

variable {loader : Loader}

theorem covers_request (reachable : loader.Reachable) (passive : loader.Confined Action.Passive) (goal : String)
    (strict : Bool) : loader.Covers (· = goal) (loader.perform (.request goal strict)).1 := by
  let pass : Pass := ⟨loader, reachable, .request goal strict⟩
  have asks : pass.action = .request goal strict := rfl
  have quiet : pass.Quiet := Pass.quiet_of_passive trivial passive
  obtain ⟨last, result, returns⟩ := Pass.exists_returns_of_request asks
  have answered := Pass.answered_of_returns asks passive returns
  have static := answered.static
  have covers : loader.Covers (· = goal) (pass.state last).loader := {
    contains := static.contains
    dependencies := static.dependencies
    lookup := static.lookup
    idle := fun _ => Pass.idle_of_later
    founded := static.founded
    loaded := fun _ => answered.loaded_iff
    failed := fun _ => answered.failed_iff }
  exact covers.of_matches (Pass.matches_of_returns asks quiet returns)

theorem covers_requests (reachable : loader.Reachable) (passive : loader.Confined Action.Passive)
    (names : List String) : loader.Covers (· ∈ names) (loader.performAll (requests names)).1 := by
  induction names generalizing loader with
  | nil =>
      have nothing : (· ∈ ([] : List String)) = fun _ => False := by simp
      rw [nothing]
      exact .refl loader
  | cons name names ih =>
      have next : (loader.perform (.request name false)).1.Reachable := reachable.perform _
      have first := covers_request reachable passive name false
      have others := ih next (passive.perform Action.Passive.hereditary reachable trivial)
      have either : (· ∈ name :: names) = fun other => other = name ∨ other ∈ names :=
        funext fun other => propext List.mem_cons
      rw [either]
      exact first.trans reachable.resting next.resting others

/-- Requests for the same names, in whatever order and however often, lead to the same state. -/
theorem requests_commute (loader : Loader) (reachable : loader.Reachable)
    (passive : loader.Confined Action.Passive) (first second : List String)
    (same : ∀ name, name ∈ first ↔ name ∈ second) :
    (∀ name, (loader.performAll (requests first)).1.status name = .loaded ↔
        (loader.performAll (requests second)).1.status name = .loaded) ∧
      ∀ name, (loader.performAll (requests first)).1.isFailed name =
        (loader.performAll (requests second)).1.isFailed name := by
  have one := covers_requests reachable passive first
  have two := covers_requests reachable passive second
  rw [show (· ∈ first) = (· ∈ second) from funext fun name => propext (same name)] at one
  constructor
  · intro name
    rw [one.loaded, two.loaded]
  · intro name
    rw [Bool.eq_iff_iff, one.failed, two.failed]

/-- `p` and `q` need each other, `ghost` is undeclared, the target of `f` fails, and `top` needs loadable
libraries before one that is not. -/
def snarled : List Action :=
  [.register "a" [] .noop, .register "b" ["a"] (.program [.query .loaded]), .register "p" ["b", "q"] .noop,
    .register "q" ["p", "c"] .noop, .register "c" [] .noop, .register "f" [] (.program [.fail "broken"]),
    .register "g" ["f", "d"] .noop, .register "d" [] .noop, .register "h" ["e", "ghost"] .noop,
    .register "e" [] .noop, .register "top" ["a", "g", "q"] .noop]

theorem requests_commute_snarled :
    let loader := ((create ⟨false⟩ false).performAll snarled).1
    let forth := (loader.performAll (requests ["top", "h", "p", "d"])).1
    let back := (loader.performAll (requests ["d", "p", "p", "h", "top", "h"])).1
    loader.Reachable ∧ loader.Confined Action.Passive ∧
      (∀ name, name ∈ ["top", "h", "p", "d"] ↔ name ∈ ["d", "p", "p", "h", "top", "h"]) ∧
      forth.loaded = ["a", "e", "b", "d"] ∧ back.loaded = ["d", "a", "b", "e"] ∧
      (∀ name, forth.status name = .loaded ↔ back.status name = .loaded) ∧
      forth.tracker.failed = ["f"] ∧ back.tracker.failed = ["f"] ∧
      ∀ name, forth.isFailed name = back.isFailed name := by
  have reachable : ((create ⟨false⟩ false).performAll snarled).1.Reachable :=
    (Reachable.create ⟨false⟩ false).performAll snarled
  have passive : ((create ⟨false⟩ false).performAll snarled).1.Confined Action.Passive :=
    Confined.performAll nofun Action.Passive.silent (.create ⟨false⟩ false) snarled
      (by simp [snarled, Action.Offers, Target.actions, Action.Passive])
  have same : ∀ name, name ∈ ["top", "h", "p", "d"] ↔ name ∈ ["d", "p", "p", "h", "top", "h"] := by
    intro name
    simp only [List.mem_cons, List.not_mem_nil, or_false]
    tauto
  obtain ⟨loaded, failed⟩ := requests_commute _ reachable passive _ _ same
  exact ⟨reachable, passive, same, by cbv, by cbv, loaded, by cbv, by cbv, failed⟩

end Loader

end DemandLoad
