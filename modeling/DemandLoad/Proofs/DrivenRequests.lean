import DemandLoad.Proofs.DoomedLibraries
import DemandLoad.Proofs.OutermostRequests
import Mathlib.Data.List.Perm.Subperm
import Mathlib.Logic.Relation

/-!
Where each library is declared once, every requested name is loaded in the end, or its first blockers lead to a
failed library, to an undeclared name, or into a cycle.
-/

namespace DemandLoad

namespace Loader

variable {loader : Loader} {ends : String → Prop} {name blocker : String}

/-- The blocker is the first dependency of the library that is not loaded. -/
def BlockedBy (loader : Loader) (name blocker : String) : Prop :=
  loader.firstBlocker? name = some blocker

/-- Following first blockers leads to a failed library, to an undeclared name, or into a cycle. -/
def BlockedForGood (loader : Loader) (name : String) : Prop :=
  ∃ last, Relation.ReflTransGen loader.BlockedBy name last ∧
    (loader.isFailed last = true ∨ loader.registry.contains last = false ∨
      Relation.TransGen loader.BlockedBy last last)

theorem BlockedBy.declared (blocked : loader.BlockedBy name blocker) : name ∈ loader.registry.names :=
  (loader.registry.contains_iff name).mp (contains_of_blocked blocked)

def Stops (loader : Loader) (name : String) : Prop :=
  loader.isFailed name = true ∨ loader.registry.contains name = false

theorem exists_end_beyond {members : String → Prop}
    (closed : ∀ member, members member →
      ends member ∨ ∃ blocker, members blocker ∧ loader.firstBlocker? member = some blocker)
    (fuel : Nat) {visited : List String} {current : String} (inside : members current)
    (distinct : visited.Nodup) (within : visited ⊆ loader.registry.names)
    (walked : ∀ earlier ∈ visited, Relation.TransGen loader.BlockedBy earlier current)
    (bound : loader.registry.names.length < visited.length + fuel) :
    ∃ last, Relation.ReflTransGen loader.BlockedBy current last ∧
      (ends last ∨ Relation.TransGen loader.BlockedBy last last) := by
  induction fuel generalizing visited current with
  | zero =>
      have short := (distinct.subperm within).length_le
      omega
  | succ fuel ih =>
      rcases closed current inside with ended | ⟨further, next, blocked⟩
      · exact ⟨current, .refl, .inl ended⟩
      by_cases seen : current ∈ visited
      · exact ⟨current, .refl, .inr (walked current seen)⟩
      · have declared : current ∈ loader.registry.names := BlockedBy.declared blocked
        have onward : ∀ earlier ∈ current :: visited,
            Relation.TransGen loader.BlockedBy earlier further := by
          intro earlier member
          rcases List.mem_cons.mp member with rfl | old
          · exact .single blocked
          · exact (walked earlier old).tail blocked
        have shorter : loader.registry.names.length < (current :: visited).length + fuel := by
          rw [List.length_cons]
          omega
        obtain ⟨last, leads, stops⟩ := ih next (List.nodup_cons.mpr ⟨seen, distinct⟩)
          (List.cons_subset.mpr ⟨declared, within⟩) onward shorter
        exact ⟨last, .head blocked leads, stops⟩

theorem Trapped.exists_end (trapped : loader.Trapped ends name) :
    ∃ last, Relation.ReflTransGen loader.BlockedBy name last ∧
      (ends last ∨ Relation.TransGen loader.BlockedBy last last) := by
  obtain ⟨members, member, closed⟩ := trapped
  exact exists_end_beyond closed (loader.registry.names.length + 1) member .nil (List.nil_subset _)
    (by simp) (by simp)

theorem Trapped.of_leads {last : String} (trapped : loader.Trapped ends name)
    (stop : ∀ other, ends other → loader.firstBlocker? other = none)
    (leads : Relation.ReflTransGen loader.BlockedBy name last) : loader.Trapped ends last := by
  obtain ⟨members, member, closed⟩ := trapped
  refine ⟨members, ?_, closed⟩
  induction leads with
  | refl => exact member
  | tail _ blocked ih =>
      rcases closed _ ih with ended | ⟨further, within, found⟩
      · cases (stop _ ended).symm.trans blocked
      · cases found.symm.trans blocked
        exact within

theorem Trapped.blockedForGood (trapped : loader.Trapped loader.Stops name) :
    loader.BlockedForGood name := by
  obtain ⟨last, leads, stops | cycle⟩ := trapped.exists_end
  · rcases stops with failed | undeclared
    · exact ⟨last, leads, .inl failed⟩
    · exact ⟨last, leads, .inr (.inl undeclared)⟩
  · exact ⟨last, leads, .inr (.inr cycle)⟩

theorem Founded.unblocked_of_stops (founded : loader.Founded)
    (loading : ∀ name, loader.isFailed name = true → loader.status name = .loading)
    (stops : loader.Stops name) : loader.firstBlocker? name = none := by
  apply Option.eq_none_iff_forall_ne_some.mpr
  intro blocker blocked
  rcases stops with failed | undeclared
  · cases (founded.idle_of_blocker blocked).symm.trans (loading name failed)
  · cases (contains_of_blocked blocked).symm.trans undeclared

theorem Trapped.blocked_of_idle (trapped : loader.Trapped loader.Stops name)
    (loading : ∀ name, loader.isFailed name = true → loader.status name = .loading)
    (known : loader.registry.contains name = true) (idle : loader.status name = .unloaded) :
    ∃ dependency ∈ loader.dependencies name, loader.status dependency ≠ .loaded := by
  obtain ⟨members, member, closed⟩ := trapped
  rcases closed name member with stops | ⟨blocker, -, blocked⟩
  · rcases stops with failed | undeclared
    · cases idle.symm.trans (loading name failed)
    · cases known.symm.trans undeclared
  · obtain ⟨waits, past, rest, split, -⟩ := firstBlocker?_eq_some.mp blocked
    exact ⟨blocker, by simp [split], waits⟩

end Loader

namespace Machine

variable {machine : Machine} {verdict : Verdict} {name : String}

theorem firstBlocker?_conclude (machine : Machine) (verdict : Verdict) (name : String) :
    (machine.conclude verdict).loader.firstBlocker? name = machine.loader.firstBlocker? name := by
  simp only [Loader.firstBlocker?, Loader.dependencies, registry_conclude, status_conclude]

theorem trapped_conclude (machine : Machine) (verdict : Verdict)
    (trapped : machine.loader.Trapped machine.loader.Stops name) :
    (machine.conclude verdict).loader.Trapped (machine.conclude verdict).loader.Stops name := by
  obtain ⟨members, member, closed⟩ := trapped
  refine ⟨members, member, ?_⟩
  intro other inside
  simpa only [Loader.Stops, firstBlocker?_conclude, isFailed_conclude, registry_conclude]
    using closed other inside

end Machine

namespace Pass

variable {pass : Pass} {name : String} {first count moment : Nat} {verdict : Verdict}

/-- Until the pass is done, every requested name is loaded, doomed or pending. -/
theorem DeclaresOnce.covered (once : pass.DeclaresOnce) (founded : pass.loader.Founded)
    (driven : (pass.state first).control = .drive name) (order : first ≤ count)
    (busy : ∀ answer, (pass.state count).control ≠ .done answer) :
    (pass.state count).loader.status name = .loaded ∨ (pass.state count).loader.Doomed name ∨
      (pass.state count).Pending name := by
  induction order with
  | refl =>
      refine .inr (.inr (.root ?_))
      rw [Machine.mem_roots, driven]
      exact .inl (.inl (List.mem_singleton.mpr rfl))
  | @step count order ih =>
      have sound := pass.sound count
      have step := step_of_busy (busy_before busy)
      rcases ih (busy_before busy) with loaded | doomed | pending
      · exact .inl (step.loaded_mono sound.active loaded)
      · exact .inr (.inl (step.doomed sound.active (once.founded founded count) (once.2 count) doomed))
      · rcases step.pending sound pending with still | ⟨departs, -⟩
        · exact .inr (.inr still)
        · cases departs with
          | loaded loaded => exact .inl loaded
          | dropped drops =>
              exact .inr (.inl ((once.orderly founded count).doomed_of_drops once founded step drops))
          | givenUp verdict control settled =>
              rw [step.of_concludes ⟨control, settled⟩] at busy
              exact absurd rfl (busy _)

theorem Orderly.trapped_of_pending (orderly : Orderly pass moment)
    (concludes : (pass.state moment).Concludes verdict) (pending : (pass.state moment).Pending name) :
    (pass.state moment).loader.Trapped (pass.state moment).loader.Stops name := by
  have sound := pass.sound moment
  refine pending.closed ?_ ?_
  · intro root member
    rw [concludes.roots sound.stacked] at member
    apply Loader.Trapped.of_end
    right
    apply Bool.eq_false_iff.mpr
    intro known
    have due : root ∈ (pass.state moment).loader.due := List.mem_filter.mpr ⟨member, known⟩
    rw [concludes.settled] at due
    cases due
  · intro blocker waiter queued trapped
    rcases orderly.queues blocker waiter queued with rfl | blocked
    · exact trapped
    · exact .of_blocker blocked trapped

theorem driven_before_conclusion (concludes : (pass.state moment).Concludes verdict)
    (driven : (pass.state first).control = .drive name) : first ≤ moment := by
  apply Nat.le_of_not_lt
  intro later
  have next := state_of_step concludes.step?_eq
  have control : (pass.state (moment + 1)).control = .done _ := congrArg Machine.control next
  rw [state_of_done control later, control] at driven
  cases driven

theorem trapped_of_driven (once : pass.DeclaresOnce) (founded : pass.loader.Founded)
    (concludes : (pass.state moment).Concludes verdict)
    (driven : (pass.state first).control = .drive name) :
    (pass.state moment).loader.status name = .loaded ∨
      (pass.state moment).loader.Trapped (pass.state moment).loader.Stops name := by
  have order := driven_before_conclusion concludes driven
  rcases once.covered founded driven order (by simp [concludes.control]) with loaded | doomed | pending
  · exact .inl loaded
  · exact .inr (doomed.mono fun other failed => .inl failed)
  · exact .inr ((once.orderly founded moment).trapped_of_pending concludes pending)

/-- When a pass is done, every name it has requested is loaded, has failed, is undeclared, or is blocked for
good. -/
theorem settled_of_driven (pass : Pass) (before : pass.loader.WriteOnce) (once : pass.DeclaresOnce)
    (requests : pass.action.Requests) (count : Nat) (name : String)
    (driven : (pass.state count).control = .drive name) :
    ((pass.loader.perform pass.action).1.status name = .loaded ∨
      (pass.loader.perform pass.action).1.isFailed name = true ∨
      (pass.loader.perform pass.action).1.registry.contains name = false ∨
      (pass.loader.perform pass.action).1.BlockedForGood name) ∧
    ∀ last, Relation.ReflTransGen (pass.loader.perform pass.action).1.BlockedBy name last →
      (pass.loader.perform pass.action).1.registry.contains last = true →
      (pass.loader.perform pass.action).1.status last = .unloaded →
      ∃ dependency ∈ (pass.loader.perform pass.action).1.dependencies last,
        (pass.loader.perform pass.action).1.status dependency ≠ .loaded := by
  obtain ⟨moment, verdict, concludes, -⟩ := pass.exists_concluded requests
  have settled := trapped_of_driven once before.founded concludes driven
  rw [← Machine.status_conclude _ verdict] at settled
  replace settled := settled.imp_right (Machine.trapped_conclude _ verdict)
  have founded := once.founded before.founded (moment + 1)
  have loading := (pass.sound (moment + 1)).active.loading_of_failed
  have after : (pass.loader.perform pass.action).1 = ((pass.state moment).conclude verdict).loader :=
    congrArg Prod.fst (perform_of_concludes concludes)
  rw [state_of_step concludes.step?_eq, ← after] at founded loading
  rw [← after] at settled
  generalize (pass.loader.perform pass.action).1 = loader at *
  constructor
  · rcases settled with loaded | trapped
    · exact .inl loaded
    · exact .inr (.inr (.inr trapped.blockedForGood))
  · intro last leads known idle
    rcases settled with loaded | trapped
    · rcases leads.cases_head with rfl | ⟨blocker, blocked, -⟩
      · cases loaded.symm.trans idle
      · cases loaded.symm.trans (founded.idle_of_blocker blocked)
    · have stop : ∀ other, loader.Stops other → loader.firstBlocker? other = none :=
        fun _ stops => founded.unblocked_of_stops loading stops
      exact (trapped.of_leads stop leads).blocked_of_idle loading known idle

theorem settled_of_driven_forsaken : forsaken.loader.WriteOnce ∧ forsaken.DeclaresOnce ∧
    forsaken.action.Requests ∧ (forsaken.state 0).control = .drive "app" ∧
    ∀ last, Relation.ReflTransGen (forsaken.loader.perform forsaken.action).1.BlockedBy "app" last →
      (forsaken.loader.perform forsaken.action).1.registry.contains last = true →
      (forsaken.loader.perform forsaken.action).1.status last = .unloaded →
      ∃ dependency ∈ (forsaken.loader.perform forsaken.action).1.dependencies last,
        (forsaken.loader.perform forsaken.action).1.status dependency ≠ .loaded := by
  have before : forsaken.loader.WriteOnce := by
    have host := (Loader.WriteOnce.create ⟨false⟩ false).register "host" [] (.program [
      .request "plugin" false,
      .register "plugin" [] (.program [.register "late" [] (.program [.fail "boom"])])]) rfl
    exact host.register "app" ["host", "late"] (.program []) (by cbv)
  have once : forsaken.DeclaresOnce := by
    refine .of_rest 30 ?_ ?_ ?_
    · cbv
    · intro name dependencies target same
      cases same
    · cbv
  exact ⟨before, once, trivial, rfl, (settled_of_driven forsaken before once trivial 0 "app" rfl).2⟩

end Pass

end DemandLoad
