import DemandLoad.Proofs.UndeclaringPasses

namespace DemandLoad

/-- The library is undeclared, or it is unloaded and depends on a hopeless library. -/
inductive Loader.Hopeless (loader : Loader) : String → Prop
  | undeclared {name : String} (unknown : loader.registry.contains name = false) : Hopeless loader name
  | waits {name dependency : String} (idle : loader.status name = .unloaded)
      (member : dependency ∈ loader.dependencies name) (hopeless : Hopeless loader dependency) :
      Hopeless loader name

def Tracker.Spreads (property : String → Prop) (tracker : Tracker) : Prop :=
  ∀ blocker waiter, waiter ∈ tracker.queue blocker → property blocker → property waiter

namespace Pass

variable {pass : Pass} {name : String} {count : Nat}

theorem Quiet.idle_of_hopeless (quiet : pass.Quiet) (hopeless : pass.loader.Hopeless name) (count : Nat) :
    (pass.state count).loader.status name = .unloaded := by
  apply Classical.byContradiction
  intro begun
  induction hopeless with
  | undeclared unknown =>
      have known := pass.known_of_begun pass.reachable.known begun
      rw [quiet.contains_eq, unknown] at known
      cases known
  | waits idle member _ ih =>
      apply ih
      simp [(quiet.founded idle begun).2 _ member]

theorem Quiet.spreads (quiet : pass.Quiet) {other : Loader}
    (dependencies : ∀ name, other.dependencies name = pass.loader.dependencies name)
    (idle : ∀ name, (pass.state count).loader.status name = .unloaded → other.status name = .unloaded) :
    (pass.state count).loader.tracker.Spreads other.Hopeless := by
  intro blocker waiter queued hopeless
  rcases quiet.queued queued with rfl | ⟨before, blocked⟩
  · exact hopeless
  · obtain ⟨-, past, rest, split, -⟩ := Loader.firstBlocker?_eq_some.mp blocked
    rw [quiet.dependencies_eq, ← dependencies] at split
    exact .waits (idle waiter (quiet.idle_of_blocked before blocked)) (by simp [split]) hopeless

theorem Quiet.hopeless_of_queued (quiet : pass.Quiet) {other : Loader}
    (dependencies : ∀ name, other.dependencies name = pass.loader.dependencies name)
    (contains : ∀ name, other.registry.contains name = pass.loader.registry.contains name)
    (idle : ∀ name, (pass.state count).loader.status name = .unloaded → other.status name = .unloaded)
    (bare : (pass.state count).agenda = []) {blocker waiter : String}
    (queued : waiter ∈ (pass.state count).loader.tracker.queue blocker) : other.Hopeless blocker := by
  refine ((pass.sound count).rooted blocker waiter queued).closed ?_ (quiet.spreads dependencies idle)
  intro root member
  rw [Machine.roots, bare, List.nil_append] at member
  exact .undeclared ((contains root).trans (quiet.unresolved member))

end Pass

end DemandLoad
