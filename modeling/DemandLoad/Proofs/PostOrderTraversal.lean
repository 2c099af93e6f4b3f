import DemandLoad.Proofs.StaticRequestSteps
import Mathlib.Logic.Basic

namespace DemandLoad

/-- Traversing `names` after `before` has been listed gives the list `after`. -/
inductive Loader.PostOrder (loader : Loader) : List String → List String → List String → Prop
  | done {before : List String} : PostOrder loader before [] before
  | skip {before after rest : List String} {name : String}
      (listed : loader.status name = .loaded ∨ name ∈ before) (others : PostOrder loader before rest after) :
      PostOrder loader before (name :: rest) after
  | visit {before between after rest : List String} {name : String} (waits : loader.status name ≠ .loaded)
      (fresh : name ∉ before) (dependencies : PostOrder loader before (loader.dependencies name) between)
      (others : PostOrder loader (between ++ [name]) rest after) : PostOrder loader before (name :: rest) after

namespace Loader.PostOrder

variable {loader : Loader} {before between after other first second : List String}

theorem append (former : loader.PostOrder before first between) (latter : loader.PostOrder between second after) :
    loader.PostOrder before (first ++ second) after := by
  induction former with
  | done => exact latter
  | skip listed _ ih => exact .skip listed (ih latter)
  | visit waits fresh dependencies _ _ ih => exact .visit waits fresh dependencies (ih latter)

theorem unique (one : loader.PostOrder before first after) (two : loader.PostOrder before first other) :
    other = after := by
  induction one generalizing other with
  | done =>
      cases two
      rfl
  | skip listed _ ih =>
      cases two with
      | skip _ others => exact ih others
      | visit waits fresh => exact absurd listed (not_or.mpr ⟨waits, fresh⟩)
  | visit waits fresh _ _ descend ih =>
      cases two with
      | skip listed => exact absurd listed (not_or.mpr ⟨waits, fresh⟩)
      | visit _ _ dependencies others =>
          cases descend dependencies
          exact ih others

end Loader.PostOrder

def Remains (loader : Loader) : List Frame → List String → List String → Prop
  | .walking library _ rest :: frames, before, after =>
    ∃ between, loader.PostOrder before rest between ∧ Remains loader frames (between ++ [library]) after
  | _, before, after => after = before

def Control.Remains (loader : Loader) (frames : List Frame) (before after : List String) : Control → Prop
  | .drive name => ∃ between, loader.PostOrder before [name] between ∧ DemandLoad.Remains loader frames between after
  | .walk name rest =>
    ∃ between, loader.PostOrder before rest between ∧ DemandLoad.Remains loader frames (between ++ [name]) after
  | .perform name _ => DemandLoad.Remains loader frames (before ++ [name]) after
  | _ => DemandLoad.Remains loader frames before after

def Control.walked : Control → List String
  | .walk name _ => [name]
  | _ => []

namespace Machine

variable {machine next : Machine} {loader origin : Loader} {frames : List Frame} {name goal : String}
  {asked order : List String}

def walked (machine : Machine) : List String := machine.control.walked ++ walkOf machine.frames

/-- The load order has grown by `order`, with which the traversal from `goal` begins. -/
structure Traverses (origin : Loader) (goal : String) (order : List String) (machine : Machine) : Prop where
  loaded : machine.loader.loaded = origin.loaded ++ order
  loaded_iff : ∀ name, machine.loader.status name = .loaded ↔ origin.status name = .loaded ∨ name ∈ order
  idle : ∀ name ∈ machine.walked, machine.loader.status name = .unloaded
  remains : ∀ after, machine.control.Remains origin machine.frames order after → origin.PostOrder [] [goal] after

theorem Traverses.start (goal : String) (fresh : machine = ⟨origin, [.requesting .outermost goal], .drive goal⟩) :
    machine.Traverses origin goal [] := by
  subst fresh
  refine ⟨(List.append_nil _).symm, by simp, nofun, ?_⟩
  rintro after ⟨between, traversal, rfl⟩
  exact traversal

section Step

variable (traverses : machine.Traverses origin goal order)
include traverses

theorem Traverses.still (same : machine.loader.tracker.SameProgress next.loader.tracker)
    (idle : ∀ name ∈ next.walked, name ∈ machine.walked ∨ machine.loader.status name = .unloaded)
    (remains : ∀ after, next.control.Remains origin next.frames order after →
      machine.control.Remains origin machine.frames order after) : next.Traverses origin goal order where
  loaded := same.loadOrder.trans traverses.loaded
  loaded_iff name := by
    rw [Loader.status, same.status]
    exact traverses.loaded_iff name
  idle name member := by
    rw [Loader.status, same.status]
    exact (idle name member).elim (traverses.idle name) id
  remains after left := traverses.remains after (remains after left)

theorem Traverses.succeed {outcome : Outcome} (reason : Succeeds machine loader frames name outcome) :
    Traverses origin goal order ⟨loader, frames, .answered (.ok outcome)⟩ := by
  have idle := traverses.idle
  have loaded_iff := traverses.loaded_iff
  cases reason with
  | loadedBefore loaded =>
      refine traverses.still (.refl _) (fun _ => .inl) fun after left => ?_
      exact ⟨order, .skip ((loaded_iff _).mp loaded) .done, left⟩
  | loadedMeanwhile loaded => cases loaded.symm.trans (idle _ (List.mem_cons_self ..))
  | resumedAll => exact traverses.still (.refl _) (fun _ => .inl) fun after left => left

theorem Traverses.advance {dependency : String} {rest : List String}
    (reason : Advances machine frames name dependency rest) :
    Traverses origin goal order ⟨machine.loader, frames, .walk name rest⟩ := by
  have loaded_iff := traverses.loaded_iff
  cases reason with
  | loadedBefore loaded =>
      refine traverses.still (.refl _) (fun _ => .inl) ?_
      rintro after ⟨between, traversal, left⟩
      exact ⟨between, .skip ((loaded_iff _).mp loaded) traversal, left⟩
  | loadedNow => exact traverses.still (.refl _) (fun _ => .inl) fun after left => left

theorem Traverses.enter (same : machine = ⟨loader, frames, .drive name⟩)
    (dependencies : loader.dependencies name = origin.dependencies name) (idle : loader.status name = .unloaded) :
    Traverses origin goal order
      ⟨(loader.announce (.requested name)).forget name, frames, .walk name (loader.dependencies name)⟩ := by
  subst same
  refine traverses.still (.refl _) ?_ ?_
  · intro other member
    rcases List.mem_cons.mp member with rfl | below
    · exact .inr idle
    · exact .inl below
  · rintro after ⟨between, traversal, left⟩
    rw [dependencies] at traversal
    obtain ⟨waits, fresh⟩ := not_or.mp ((traverses.loaded_iff name).not.mp (by simp [idle]))
    exact ⟨between ++ [name], .visit waits fresh traversal .done, left⟩

theorem Traverses.descend {dependency : String} {rest : List String}
    (same : machine = ⟨loader, frames, .walk name (dependency :: rest)⟩) :
    Traverses origin goal order ⟨loader, .walking name dependency rest :: frames, .drive dependency⟩ := by
  subst same
  refine traverses.still (.refl _) (fun _ => .inl) ?_
  rintro after ⟨first, traversal, between, others, left⟩
  exact ⟨between, traversal.append others, left⟩

theorem Traverses.begin {target : Option Target} {registry : Registry Target}
    (same : machine = ⟨loader, frames, .walk name []⟩) (fresh : name ∉ walkOf frames) :
    Traverses origin goal order ⟨(loader.beginLoad name registry).noteTarget name target, frames,
      .perform name (Target.actions target)⟩ := by
  subst same
  have tracker : ((loader.beginLoad name registry).noteTarget name target).tracker =
    loader.tracker.setStatus name .loading := Loader.tracker_noteTarget ..
  have status : ∀ other, ((loader.beginLoad name registry).noteTarget name target).status other =
      if other = name then .loading else loader.status other := by
    intro other
    rw [Loader.status, tracker, Tracker.status_setStatus]
    rfl
  have idle := traverses.idle name (List.mem_cons_self ..)
  refine ⟨?_, ?_, ?_, fun after left => traverses.remains after ⟨order, .done, left⟩⟩
  · rw [Loader.loaded, tracker]
    exact traverses.loaded
  · intro other
    rw [status, ← traverses.loaded_iff]
    split
    case isTrue equal => simp [equal, idle]
    case isFalse => rfl
  · intro other member
    have apart : other ≠ name := by
      rintro rfl
      exact fresh member
    rw [status, if_neg apart]
    exact traverses.idle other (List.mem_cons_of_mem _ member)

theorem Traverses.finish {tracker : Tracker} {waiting : List String}
    (same : machine = ⟨loader, frames, .perform name []⟩)
    (finished : loader.tracker.finish name = .ok (tracker, waiting)) :
    Traverses origin goal (order ++ [name])
      ⟨loader.endLoad name tracker, frames, .resume name (waiting.filter (· ≠ name))⟩ := by
  subst same
  have status : ∀ other, (loader.endLoad name tracker).status other =
    if other = name then .loaded else loader.status other := Tracker.status_finish finished
  obtain ⟨loading, -, ended, -⟩ := Tracker.finish_eq_ok finished
  refine ⟨?_, ?_, ?_, traverses.remains⟩
  · have longer : (loader.endLoad name tracker).loaded = loader.loaded ++ [name] := by
      rw [ended]
      rfl
    rw [longer, ← List.append_assoc]
    exact congrArg (· ++ [name]) traverses.loaded
  · intro other
    rw [status, List.mem_append, List.mem_singleton, ← or_assoc, ← traverses.loaded_iff]
    split
    case isTrue equal => simp [equal]
    case isFalse apart => simp [apart]
  · intro other member
    have idle := traverses.idle other member
    have apart : other ≠ name := by
      rintro rfl
      cases loading.symm.trans idle
    rw [status, if_neg apart]
    exact idle

end Step

theorem Traverses.step (static : machine.Static origin) (underway : machine.Underway origin goal asked)
    (traverses : machine.Traverses origin goal order) (step : Step machine next) (further : next.control.Climbs)
    (stands : ∀ result, machine.frames = [.requesting .outermost goal] → machine.control ≠ .answered result) :
    ∃ longer, next.Traverses origin goal longer := by
  have climbs := underway.frames
  have control := underway.control
  cases step with
  | succeed reason => exact ⟨_, traverses.succeed reason⟩
  | advance reason => exact ⟨_, traverses.advance reason⟩
  | enter idle => exact ⟨_, traverses.enter rfl (static.dependencies _) idle⟩
  | descend => exact ⟨_, traverses.descend rfl⟩
  | begin idle =>
      refine ⟨_, traverses.begin rfl fun inside => ?_⟩
      -- What is walked below waits for a dependency, and none is left.
      obtain ⟨-, further, -, blocked⟩ := static.blocked_of_path rfl (by simp [idle]) inside
      obtain ⟨past, split, loaded⟩ := static.walks.control _ _ rfl
      obtain ⟨waits, before, after, present, -⟩ := Loader.firstBlocker?_eq_some.mp blocked
      rw [List.append_nil] at split
      exact waits (loaded further (split ▸ by simp [present]))
  | finish finished => exact ⟨_, traverses.finish rfl finished⟩
  | @goOn machine frames _ _ _ _ reason =>
      have performs := underway.control_of_answers reason
      have same : frames = machine.frames := by cases reason <;> first | rfl | cases climbs
      subst same
      refine ⟨_, traverses.still (.refl _) ?_ ?_⟩
      · intro name member
        rw [walked, performs]
        exact .inl member
      · intro after left
        rw [performs]
        exact left
  | declare | call | callAll =>
      exact (static.passive.programs _ _ (.inl rfl) _ (List.mem_cons_self ..)).elim
  | returned =>
      obtain ⟨rfl, rfl⟩ := climbs
      exact absurd rfl (stands _ rfl)
  | postpone | remember => exact absurd rfl further
  | reject | fail => cases further
  | resumeNext | sweepNext | sweepEnd | settleNext | settleRound | conclude => cases control
  | sweptOne | resumedOne | settledOne => cases climbs

end Machine

end DemandLoad
