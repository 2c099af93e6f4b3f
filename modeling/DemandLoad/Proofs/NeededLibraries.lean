import DemandLoad.Proofs.LoadableLibraries
import DemandLoad.Proofs.TrackerCallSafety
import Mathlib.Order.WellFoundedSet

namespace DemandLoad

namespace Loader

/-- The names that loading `goal` needs; an undeclared name needs nothing further. -/
inductive Needed (loader : Loader) (goal : String) : String → Prop
  | goal : Needed loader goal goal
  | next {name dependency : String} (needed : Needed loader goal name) (waits : loader.status name ≠ .loaded)
      (member : dependency ∈ loader.dependencies name) : Needed loader goal dependency

/-- `dependency` is one of `name`, and both are needed and not loaded. -/
structure Edge (loader : Loader) (goal name dependency : String) : Prop where
  needed : loader.Needed goal name
  waits : loader.status name ≠ .loaded
  member : dependency ∈ loader.dependencies name
  waits_too : loader.status dependency ≠ .loaded

/-- Every needed library that is not loaded is declared, has not failed and has a succeeding target, and the
dependencies among them are acyclic. -/
structure CanLoad (loader : Loader) (goal : String) : Prop where
  ready : ∀ name, loader.Needed goal name → loader.status name ≠ .loaded → loader.isFailed name = false ∧
    ∃ record target, loader.registry.lookup? name = some record ∧ record.target = some target ∧
      Target.Succeeds (some target)
  acyclic : ∀ name, ¬ Relation.TransGen (loader.Edge goal) name name

variable {loader : Loader} {goal name dependency : String}

theorem Edge.needed_too (edge : loader.Edge goal name dependency) : loader.Needed goal dependency :=
  .next edge.needed edge.waits edge.member

theorem Resting.idle_of_waits (resting : loader.Resting) (waits : loader.status name ≠ .loaded)
    (sound : loader.isFailed name = false) : loader.status name = .unloaded := by
  cases status : loader.status name with
  | unloaded => rfl
  | loaded => exact absurd status waits
  | loading => cases sound.symm.trans ((resting.failed_iff name).mpr status)

theorem Loadable.idle_of_waits (loadable : loader.Loadable name) (waits : loader.status name ≠ .loaded) :
    loader.status name = .unloaded := by
  cases loadable with
  | loaded loaded => exact absurd loaded waits
  | loads idle => exact idle

theorem Loadable.of_needed (loadable : loader.Loadable goal) (needed : loader.Needed goal name) :
    loader.Loadable name := by
  induction needed with
  | goal => exact loadable
  | next needed waits member ih => exact ih.dependencies_of_idle (ih.idle_of_waits waits) _ member

theorem Loadable.acc (loadable : loader.Loadable name) :
    Acc (fun dependency name => loader.Edge goal name dependency) name := by
  induction loadable with
  | loaded loaded => exact ⟨_, fun _ edge => absurd loaded edge.waits⟩
  | loads idle known succeeds dependencies ih => exact ⟨_, fun dependency edge => ih dependency edge.member⟩

theorem not_cycle_of_acc {next : String → String → Prop} (acc : Acc (fun other name => next name other) name) :
    ¬ Relation.TransGen next name name := by
  induction acc with
  | intro name _ ih =>
      intro cycle
      obtain ⟨other, first, rest⟩ := Relation.TransGen.head'_iff.mp cycle
      exact ih other first (.tail' rest first)

theorem Loadable.canLoad (reachable : loader.Reachable) (loadable : loader.Loadable goal) :
    loader.CanLoad goal where
  ready name needed waits := by
    have loads := loadable.of_needed needed
    have idle := loads.idle_of_waits waits
    obtain ⟨record, known, succeeds⟩ := loads.exists_record idle
    have held := reachable.stocked name record known idle
    obtain ⟨target, holds⟩ := Option.isSome_iff_exists.mp held
    refine ⟨?_, record, target, known, holds, holds ▸ succeeds⟩
    apply Bool.eq_false_iff.mpr
    intro failed
    exact loads.status_ne ((reachable.resting.failed_iff name).mp failed)
  acyclic name cycle := by
    obtain ⟨dependency, first, -⟩ := Relation.TransGen.head'_iff.mp cycle
    exact not_cycle_of_acc (loadable.of_needed first.needed).acc cycle

theorem CanLoad.loadable (resting : loader.Resting) (able : loader.CanLoad goal) : loader.Loadable goal := by
  let below : String → String → Prop := fun dependency name => Relation.TransGen (loader.Edge goal) name dependency
  have known : ∀ name, loader.Needed goal name → loader.status name ≠ .loaded → name ∈ loader.registry.names := by
    intro name needed waits
    obtain ⟨-, record, -, held, -⟩ := able.ready name needed waits
    exact Classical.not_not.mp fun absent => by simp [(Registry.lookup?_eq_none _ _).mpr absent] at held
  have order : IsStrictOrder String below :=
    { irrefl := able.acyclic, trans := fun _ _ _ first second => second.trans first }
  have founded : {name | name ∈ loader.registry.names}.WellFoundedOn below :=
    (loader.registry.names.finite_toSet).wellFoundedOn
  have climb : ∀ name, loader.Needed goal name → loader.status name ≠ .loaded → loader.Loadable name := by
    intro name needed waits
    refine founded.induction (known name needed waits)
      (P := fun name => loader.Needed goal name → loader.status name ≠ .loaded → loader.Loadable name) ?_ needed waits
    intro name _ ih needed waits
    obtain ⟨sound, record, target, held, holds, succeeds⟩ := able.ready name needed waits
    refine .loads (resting.idle_of_waits waits sound) held (holds ▸ succeeds) ?_
    intro dependency member
    by_cases loaded : loader.status dependency = .loaded
    · exact .loaded loaded
    · have edge : loader.Edge goal name dependency := ⟨needed, waits, member, loaded⟩
      exact ih dependency (known _ edge.needed_too loaded) (.single edge) edge.needed_too loaded
  by_cases loaded : loader.status goal = .loaded
  · exact .loaded loaded
  · exact climb goal .goal loaded

theorem Attempted.needed (attempted : loader.Attempted (· = goal) name) : loader.Needed goal name := by
  induction attempted with
  | asked same => exact same ▸ .goal
  | next _ idle split _ ih => exact .next ih (by simp [idle]) (by simp [split])

theorem Loadable.attempted (loadable : loader.Loadable goal) (needed : loader.Needed goal name) :
    loader.Attempted (· = goal) name := by
  induction needed with
  | goal => exact .asked rfl
  | next needed waits member ih =>
      have loads := loadable.of_needed needed
      have idle := loads.idle_of_waits waits
      obtain ⟨past, rest, split⟩ := List.append_of_mem member
      exact .next ih idle split fun other before => loads.dependencies_of_idle idle other (by simp [split, before])

theorem Reachable.canLoad_iff (reachable : loader.Reachable) : loader.CanLoad goal ↔ loader.Loadable goal :=
  ⟨fun able => able.loadable reachable.resting, fun loadable => loadable.canLoad reachable⟩

end Loader

end DemandLoad
