import DemandLoad.Proofs.RequestReturns
import DemandLoad.Proofs.TargetPrograms
import DemandLoad.Proofs.UnresolvedNames

namespace DemandLoad

/-- Every action of a registered target is allowed. -/
def Loader.Confined (allowed : Action → Prop) (loader : Loader) : Prop :=
  ∀ name record, loader.registry.lookup? name = some record →
    ∀ action ∈ Target.actions record.target, allowed action

def Action.Declares : Action → Prop
  | .register _ _ _ => True
  | .request _ _ | .requestAll _ _ | .fail _ | .query _ => False

def Action.Offers (allowed : Action → Prop) : Action → Prop
  | .register _ _ target => ∀ action ∈ Target.actions (some target), allowed action
  | .request _ _ | .requestAll _ _ | .fail _ | .query _ => True

theorem Action.Requests.offers {action : Action} {allowed : Action → Prop} (requests : action.Requests) :
    action.Offers allowed := by
  cases action with
  | request | requestAll => trivial
  | register | fail | query => cases requests

/-- An allowed action declares only targets whose actions are allowed. -/
def Hereditary (allowed : Action → Prop) : Prop := ∀ action, allowed action → action.Offers allowed

theorem hereditary_of_silent {allowed : Action → Prop} (silent : ∀ action, allowed action → ¬ action.Declares) :
    Hereditary allowed := by
  intro action permitted
  cases action with
  | register => exact absurd trivial (silent _ permitted)
  | request | requestAll | fail | query => trivial

def requests (names : List String) : List Action := names.map (.request · false)

namespace Loader

variable {allowed : Action → Prop} {loader : Loader}

theorem Confined.declare (confined : loader.Confined allowed) (name : String) (dependencies : List String)
    (target : Target) (within : ∀ action ∈ Target.actions (some target), allowed action) :
    (loader.declare name dependencies target).Confined allowed := by
  intro other record known
  rw [lookup?_declare] at known
  split at known
  · cases known
    exact within
  · exact confined other record known

theorem contains_declare {name other : String} {dependencies : List String} {target : Target}
    (loader : Loader) (known : loader.registry.contains name = true) :
    (loader.declare other dependencies target).registry.contains name = true := by
  rw [Registry.contains_eq] at known ⊢
  rw [lookup?_declare]
  split
  · rfl
  · exact known

end Loader

namespace Machine

variable {allowed : Action → Prop} {machine next : Machine} {name : String}

structure Confined (allowed : Action → Prop) (machine : Machine) : Prop where
  records : machine.loader.Confined allowed
  programs : ∀ library actions, machine.Performs library actions → ∀ action ∈ actions, allowed action

theorem Confined.declared?_eq (confined : machine.Confined allowed)
    (silent : ∀ action, allowed action → ¬ action.Declares) : machine.declared? = none := by
  unfold declared?
  split
  case h_1 library name dependencies target rest control =>
    have member := List.mem_cons_self (a := Action.register name dependencies target) (l := rest)
    have permitted := confined.programs library _ (.inl (by rw [control]; rfl)) _ member
    exact absurd trivial (silent _ permitted)
  case h_2 => rfl

theorem Confined.step (confined : machine.Confined allowed) (hereditary : Hereditary allowed)
    (step : Step machine next) : next.Confined allowed := by
  constructor
  · intro name record known action member
    cases step.recorded with
    | kept same => exact confined.records name record (same ▸ known) action member
    | taken other target control idle begun taken =>
        rw [lookup?_of_taken taken] at known
        split at known
        · obtain ⟨old, _, rfl⟩ := Option.map_eq_some_iff.mp known
          cases member
        · exact confined.records name record known action member
    | declared library other dependencies target rest control inserted =>
        rw [inserted, Registry.lookup?_insert] at known
        split at known
        · cases known
          have performs : machine.Performs library _ := .inl (by rw [control]; rfl)
          exact hereditary _ (confined.programs library _ performs _ (List.mem_cons_self ..)) action member
        · exact confined.records name record known action member
  · intro library actions performs action member
    rcases step.performs performs with (kept | ⟨first, longer⟩) | ⟨-, record, known, rfl⟩
    · exact confined.programs library actions kept action member
    · exact confined.programs library _ longer action (List.mem_cons_of_mem _ member)
    · exact confined.records library record known action member

theorem Confined.start {loader : Loader} {action : Action} (offers : action.Offers allowed)
    (confined : loader.Confined allowed) : (Machine.start loader action).Confined allowed := by
  refine ⟨?_, fun library actions performs => absurd performs (not_performs_start _ _)⟩
  cases action with
  | register name dependencies target => exact confined.declare name dependencies target offers
  | request | requestAll | fail | query => exact confined

end Machine

namespace Pass

variable {pass : Pass} {allowed : Action → Prop} {name waiter blocker : String} {count earlier later : Nat}

theorem confined (pass : Pass) (offers : pass.action.Offers allowed) (before : pass.loader.Confined allowed)
    (hereditary : Hereditary allowed) (count : Nat) : (pass.state count).Confined allowed :=
  pass.induction (.start offers before) (fun _ _ confined step => confined.step hereditary step) count

/-- The pass requests something, and nothing is declared in it. -/
structure Quiet (pass : Pass) : Prop where
  requests : pass.action.Requests
  undeclared : ∀ moment, (pass.state moment).declared? = none

theorem Quiet.of_confined (requests : pass.action.Requests) (before : pass.loader.Confined allowed)
    (silent : ∀ action, allowed action → ¬ action.Declares) : pass.Quiet :=
  ⟨requests, fun moment =>
    (pass.confined requests.offers before (hereditary_of_silent silent) moment).declared?_eq silent⟩

theorem known_of_begun (pass : Pass)
    (before : pass.loader.status name ≠ .unloaded → pass.loader.registry.contains name = true)
    (begun : (pass.state count).loader.status name ≠ .unloaded) :
    (pass.state count).loader.registry.contains name = true := by
  induction count with
  | zero =>
      rw [Loader.status, pass.tracker_start] at begun
      have known := before begun
      obtain ⟨loader, reachable, action⟩ := pass
      cases action with
      | register other dependencies target =>
          exact loader.contains_declare known
      | request | requestAll | fail | query => exact known
  | succ count ih =>
      rcases pass.state_cases count with same | step
      · rw [same] at begun ⊢
        exact ih begun
      · apply step.contains_mono
        by_cases idle : (pass.state count).loader.status name = .unloaded
        · have active := (pass.sound count).active
          exact known_of_walk (step.begins active idle (step.begun_of_idle active idle begun)).1
        · exact ih idle

theorem asked_of_begun (idle : pass.loader.status name = .unloaded)
    (begun : (pass.state count).loader.status name ≠ .unloaded) : name ∈ pass.asked count := by
  induction count with
  | zero =>
      rw [Loader.status, pass.tracker_start] at begun
      exact absurd idle begun
  | succ count ih =>
      rcases pass.state_cases count with same | step
      · rw [same] at begun
        exact asked_mono (Nat.le_succ count) (ih begun)
      · by_cases waits : (pass.state count).loader.status name = .unloaded
        · have active := (pass.sound count).active
          have control := (step.begins active waits (step.begun_of_idle active waits begun)).1
          obtain ⟨moment, past, captured, -⟩ := (pass.traced count).control name [] control
          exact asked_mono (Nat.le_succ count) (asked_of_captured captured)
        · exact asked_mono (Nat.le_succ count) (ih waits)

theorem Quiet.not_declares (quiet : pass.Quiet) (moment : Nat) (name : String) :
    ¬ (pass.state moment).Declares name := by
  rw [Machine.Declares, quiet.undeclared]
  rintro ⟨⟩

theorem Quiet.once (quiet : pass.Quiet) : pass.DeclaresOnce := by
  refine ⟨?_, fun moment name declares => absurd declares (quiet.not_declares moment name)⟩
  intro name dependencies target declares
  have requests := quiet.requests
  rw [declares] at requests
  cases requests

theorem Quiet.loader_zero (quiet : pass.Quiet) : (pass.state 0).loader = pass.loader := by
  obtain ⟨loader, reachable, action⟩ := pass
  cases action with
  | request | requestAll => rfl
  | register | fail | query => cases quiet.requests

theorem Quiet.dependencies?_eq (quiet : pass.Quiet) (count : Nat) (name : String) :
    (pass.state count).loader.registry.dependencies? name = pass.loader.registry.dependencies? name := by
  induction count with
  | zero => rw [quiet.loader_zero]
  | succ count ih =>
      rcases pass.state_cases count with same | step
      · rw [same]
        exact ih
      · exact (step.dependencies?_eq (quiet.not_declares count name)).trans ih

theorem Quiet.dependencies_eq (quiet : pass.Quiet) (count : Nat) (name : String) :
    (pass.state count).loader.dependencies name = pass.loader.dependencies name := by
  rw [Loader.dependencies, quiet.dependencies?_eq, Loader.dependencies]

theorem Quiet.contains_eq (quiet : pass.Quiet) (count : Nat) (name : String) :
    (pass.state count).loader.registry.contains name = pass.loader.registry.contains name := by
  have same := congrArg Option.isSome (quiet.dependencies?_eq count name)
  simpa only [Registry.contains_eq, Registry.dependencies?, Option.isSome_map] using same

theorem Quiet.lookup?_eq (quiet : pass.Quiet)
    (idle : (pass.state count).loader.status name = .unloaded) :
    (pass.state count).loader.registry.lookup? name = pass.loader.registry.lookup? name := by
  rw [Pass.lookup?_eq (Nat.zero_le count) idle fun between _ _ => quiet.not_declares between name,
    quiet.loader_zero]

theorem Quiet.founded (quiet : pass.Quiet) (idle : pass.loader.status name = .unloaded)
    (begun : (pass.state count).loader.status name ≠ .unloaded) :
    pass.loader.registry.contains name = true ∧ ∀ dependency ∈ pass.loader.dependencies name,
      (pass.state count).loader.status dependency = .loaded := by
  induction count with
  | zero =>
      rw [quiet.loader_zero] at begun
      exact absurd idle begun
  | succ count ih =>
      rcases pass.state_cases count with same | step
      · rw [same] at begun ⊢
        exact ih begun
      · have active := (pass.sound count).active
        have before : pass.loader.registry.contains name = true ∧
            ∀ dependency ∈ pass.loader.dependencies name,
              (pass.state count).loader.status dependency = .loaded := by
          by_cases waits : (pass.state count).loader.status name = .unloaded
          · have loading := step.begun_of_idle active waits begun
            obtain ⟨control, record, known, -⟩ := step.begins active waits loading
            obtain ⟨past, split, loaded⟩ := quiet.once.split ((pass.traced count).control name [] control)
            rw [quiet.dependencies_eq, List.append_nil] at split
            rw [split, ← quiet.contains_eq count, Registry.contains_eq, known]
            exact ⟨rfl, loaded⟩
          · exact ih waits
        exact ⟨before.1, fun dependency member => step.loaded_mono active (before.2 dependency member)⟩

theorem Quiet.idle_of_blocked (quiet : pass.Quiet) (idle : pass.loader.status name = .unloaded)
    (blocked : (pass.state count).loader.firstBlocker? name = some blocker) :
    (pass.state count).loader.status name = .unloaded := by
  obtain ⟨waits, past, rest, split, -⟩ := Loader.firstBlocker?_eq_some.mp blocked
  rw [quiet.dependencies_eq] at split
  apply Classical.byContradiction
  intro begun
  exact waits ((quiet.founded idle begun).2 blocker (by simp [split]))

theorem Walked.idle {rest : List String} {frames : List Frame} (walked : Walked pass count frames name rest) :
    pass.loader.status name = .unloaded := by
  obtain ⟨moment, past, captured, -⟩ := walked
  exact idle_of_later captured.idle

theorem Quiet.queued (quiet : pass.Quiet)
    (queued : waiter ∈ (pass.state count).loader.tracker.queue blocker) :
    waiter = blocker ∨ pass.loader.status waiter = .unloaded ∧
      (pass.state count).loader.firstBlocker? waiter = some blocker := by
  induction count with
  | zero =>
      rw [pass.queue_zero] at queued
      cases queued
  | succ count ih =>
      rcases pass.state_cases count with same | step
      · rw [same] at queued ⊢
        exact ih queued
      have active := (pass.sound count).active
      have waits : (pass.state (count + 1)).loader.status blocker ≠ .loaded :=
        fun loaded => (pass.sound (count + 1)).not_queued loaded queued
      have before : waiter = blocker ∨ pass.loader.status waiter = .unloaded ∧
          (pass.state count).loader.firstBlocker? waiter = some blocker := by
        rcases step.queued active queued with old | ⟨_, _, reason, -⟩
        · exact ih old
        · rcases reason.blocked (quiet.once.walks count) with itself | blocked
          · exact .inl itself
          · rcases walked_of_postpones reason with itself | ⟨_, _, walked⟩
            · exact .inl itself
            · exact .inr ⟨walked.idle, blocked⟩
      refine before.imp_right fun held => ⟨held.1, ?_⟩
      exact step.firstBlocker?_eq active (quiet.once.2 count) held.2 waits

theorem Quiet.unresolved (quiet : pass.Quiet)
    (unresolved : name ∈ (pass.state count).loader.unresolved) :
    pass.loader.registry.contains name = false := by
  induction count with
  | zero =>
      rw [pass.unresolved_zero] at unresolved
      cases unresolved
  | succ count ih =>
      rcases pass.state_cases count with same | step
      · exact ih (same ▸ unresolved)
      · have recalls := step.recalls (pass.due count) fun _ control => known_of_walk control
        rcases step.unresolved_before recalls unresolved with old | unknown
        · exact ih old
        · rwa [quiet.contains_eq] at unknown

theorem Quiet.due_eq (quiet : pass.Quiet) (count : Nat) : (pass.state count).loader.due = [] := by
  apply List.filter_eq_nil_iff.mpr
  intro name unresolved
  rw [quiet.contains_eq, quiet.unresolved unresolved]
  exact Bool.false_ne_true

theorem concludes_of_returns {goal : String} {strict : Bool} {last : Nat} {result : Except LoadError Outcome}
    (asks : pass.action = .request goal strict) (quiet : pass.Quiet)
    (returns : pass.Returns 0 last goal result) :
    pass.state (last + 1) = ⟨(pass.state last).loader, [], .settle (.request goal result) []⟩ ∧
      (pass.state (last + 1)).Concludes (.request goal result) := by
  have next := state_after_return asks returns
  refine ⟨next, ?_, quiet.due_eq _⟩
  rw [next]

theorem matches_of_returns {goal : String} {strict : Bool} {last : Nat} {result : Except LoadError Outcome}
    (asks : pass.action = .request goal strict) (quiet : pass.Quiet)
    (returns : pass.Returns 0 last goal result) :
    (pass.state last).loader.Matches (pass.loader.perform pass.action).1 := by
  obtain ⟨next, concludes⟩ := concludes_of_returns asks quiet returns
  have given := Machine.matches_conclude (pass.state (last + 1)) (.request goal result)
  rw [perform_of_concludes concludes]
  rwa [show (pass.state (last + 1)).loader = (pass.state last).loader by rw [next]] at given

end Pass

theorem Loader.Confined.perform {allowed : Action → Prop} {loader : Loader} (confined : loader.Confined allowed)
    (hereditary : Hereditary allowed) (reachable : loader.Reachable) {action : Action}
    (offers : action.Offers allowed) : (loader.perform action).1.Confined allowed := by
  let pass : Pass := ⟨loader, reachable, action⟩
  exact pass.perform_of_always fun moment => (pass.confined offers confined hereditary moment).records

theorem Loader.Confined.performAll {allowed : Action → Prop} {loader : Loader} (confined : loader.Confined allowed)
    (silent : ∀ action, allowed action → ¬ action.Declares) (reachable : loader.Reachable)
    (actions : List Action) (offers : ∀ action ∈ actions, action.Offers allowed) :
    (loader.performAll actions).1.Confined allowed := by
  induction actions generalizing loader with
  | nil => exact confined
  | cons action actions ih =>
      have first := confined.perform (hereditary_of_silent silent) reachable (offers action (List.mem_cons_self ..))
      exact ih first (reachable.perform action) fun other member => offers other (List.mem_cons_of_mem _ member)

theorem Loader.Reachable.known {loader : Loader} (reachable : loader.Reachable) {name : String}
    (begun : loader.status name ≠ .unloaded) : loader.registry.contains name = true := by
  revert begun
  refine reachable.of_passes (fun _ _ begun => absurd rfl begun) ?_
  exact fun pass before moment => pass.known_of_begun before

end DemandLoad
