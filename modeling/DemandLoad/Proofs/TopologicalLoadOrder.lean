import DemandLoad.Proofs.WaitingForest

namespace DemandLoad

namespace Loader

variable {loader : Loader} {name : String}

/-- In the load order, every library comes after all its dependencies. -/
def Topological (loader : Loader) : Prop :=
  ∀ before library after, loader.loaded = before ++ library :: after →
    ∀ dependency ∈ loader.dependencies library, dependency ∈ before

/-- The load order is topological, and a library that is loading has all its dependencies loaded. -/
structure Ordered (loader : Loader) : Prop where
  topological : loader.Topological
  loading : ∀ name, loader.status name = .loading →
    ∀ dependency ∈ loader.dependencies name, loader.status dependency = .loaded

theorem Founded.ordered (founded : loader.Founded) (topological : loader.Topological) : loader.Ordered where
  topological := topological
  loading name loading := (founded name (by simp [loading])).2

theorem dependencies_declare {other : String} (dependencies : List String) (target : Target)
    (apart : other ≠ name) :
    (loader.declare name dependencies target).dependencies other = loader.dependencies other := by
  rw [Loader.dependencies, Registry.dependencies?, lookup?_declare, if_neg apart]
  rfl

theorem Topological.of_same {next : Loader} (topological : loader.Topological)
    (order : next.loaded = loader.loaded)
    (kept : ∀ library ∈ loader.loaded, next.dependencies library = loader.dependencies library) :
    next.Topological := by
  intro before library after split dependency member
  rw [order] at split
  rw [kept library (by simp [split])] at member
  exact topological before library after split dependency member

theorem Topological.concat {next : Loader} {ending : String} (topological : loader.Topological)
    (order : next.loaded = loader.loaded ++ [ending])
    (kept : ∀ library ∈ loader.loaded, next.dependencies library = loader.dependencies library)
    (grounded : ∀ dependency ∈ next.dependencies ending, dependency ∈ loader.loaded) : next.Topological := by
  intro before library after split dependency member
  rw [order] at split
  rcases List.eq_nil_or_concat after with rfl | ⟨within, last, rfl⟩
  · obtain ⟨same, last⟩ := List.append_inj' split rfl
    cases last
    exact same ▸ grounded dependency member
  · have shorter : loader.loaded ++ [ending] = (before ++ library :: within) ++ [last] := by
      simpa using split
    have old := (List.append_inj' shorter rfl).1
    rw [kept library (by simp [old])] at member
    exact topological before library within old dependency member

end Loader

namespace Machine

variable {machine next : Machine}

theorem Step.topological (active : machine.Active) (step : Step machine next)
    (founded : machine.loader.Founded) (tallied : machine.loader.Tallied)
    (fresh : ∀ name, machine.Declares name → machine.loader.registry.contains name = false)
    (topological : machine.loader.Topological) : next.loader.Topological := by
  have kept : ∀ name, machine.loader.status name ≠ .unloaded →
      next.loader.dependencies name = machine.loader.dependencies name := by
    intro name begun
    refine step.dependencies_eq ?_
    intro declares
    have known := (founded name begun).1
    rw [fresh name declares] at known
    cases known
  have old : ∀ library ∈ machine.loader.loaded,
      next.loader.dependencies library = machine.loader.dependencies library := by
    intro library member
    exact kept library (by simp [(tallied.mem_iff library).mp member])
  rcases step.loaded_cases active with ⟨order, -⟩ | ⟨ending, loading, order, -⟩
  · exact topological.of_same order old
  · refine topological.concat order old ?_
    intro dependency member
    rw [kept ending (by simp [loading])] at member
    exact (tallied.mem_iff dependency).mpr ((founded ending (by simp [loading])).2 dependency member)

end Machine

theorem Pass.DeclaresOnce.topological_start {pass : Pass} (once : pass.DeclaresOnce)
    (founded : pass.loader.Founded) (tallied : pass.loader.Tallied) (topological : pass.loader.Topological) :
    (pass.state 0).loader.Topological := by
  obtain ⟨loader, reachable, action⟩ := pass
  cases action with
  | register name dependencies target =>
      refine topological.of_same (congrArg Tracker.loadOrder (Loader.tracker_declare ..)) ?_
      intro library member
      apply Loader.dependencies_declare
      rintro rfl
      have known := (founded library (by simp [(tallied.mem_iff library).mp member])).1
      rw [once.1 library dependencies target rfl] at known
      cases known
  | request | requestAll | fail | query => exact topological

namespace Session

variable {session : Session}

theorem DeclaresOnce.topological (once : session.DeclaresOnce) (moment : Moment) :
    (session.state moment).loader.Topological := by
  have first : (⟨0, 0⟩ : Moment) ≤ moment := by
    simp only [Moment.le_iff]
    omega
  have across : ∀ index, (session.loader index).Topological →
      (session.state ⟨index, 0⟩).loader.Topological := by
    intro index topological
    exact (once index).topological_start (once.founded index) (session.tallied_loader index) topological
  refine carried (motive := Loader.Topological) ?_ across first (across 0 ?_)
  · intro moment topological
    rcases session.state_cases moment with same | step
    · rw [same]
      exact topological
    · exact step.topological (session.sound moment).active
        ((once moment.index).founded (once.founded moment.index) moment.count) (session.tallied moment)
        ((once moment.index).2 moment.count) topological
  · intro before library after split
    cases List.append_eq_nil_iff.mp split.symm |>.2

/-- Where no library is declared twice, the load order is topological, within every pass and between them. -/
theorem ordered_of_declaresOnce (session : Session) (once : session.DeclaresOnce) :
    (∀ moment, (session.state moment).loader.Ordered) ∧ ∀ index, (session.loader index).Ordered := by
  have within : ∀ moment, (session.state moment).loader.Ordered := by
    intro moment
    have founded := (once moment.index).founded (once.founded moment.index) moment.count
    exact founded.ordered (once.topological moment)
  refine ⟨within, ?_⟩
  intro index
  cases index with
  | zero =>
      refine (once.founded 0).ordered ?_
      intro before library after split
      cases List.append_eq_nil_iff.mp split.symm |>.2
  | succ index =>
      obtain ⟨count, same⟩ := session.loader_succ index
      exact same ▸ within ⟨index, count⟩

theorem ordered_of_declaresOnce_gathered : gathered.DeclaresOnce ∧
    (gathered.loader 6).loaded = ["a", "b", "d"] ∧ (gathered.loader 6).dependencies "d" = ["b"] ∧
    (gathered.loader 6).status "f" = .loading ∧ (gathered.loader 6).Ordered ∧
    ∀ moment, (gathered.state moment).loader.Ordered := by
  obtain ⟨within, between⟩ := ordered_of_declaresOnce gathered gathered_declaresOnce
  exact ⟨gathered_declaresOnce, by cbv, by cbv, by cbv, between 6, within⟩

end Session

end DemandLoad
