import DemandLoad.Proofs.OutermostPurpose
import Mathlib.Computability.Primrec.List
import Mathlib.Data.List.Permutation

-- The imports of Mathlib hold the equations of `List.lookup` and `Prod.snd` that `cbv` evaluates with.

namespace DemandLoad

theorem Loader.involves_giveUpUnresolved (loader : Loader) (name : String) :
    (∃ error, loader.giveUpUnresolved.2 = some error ∧ error.involves name = true) ↔
      Behind loader.tracker.queue loader.unresolved name := by
  unfold giveUpUnresolved
  split
  case h_1 none_left =>
    rw [none_left]
    constructor
    · rintro ⟨error, absent, -⟩
      cases absent
    · exact fun behind => absurd behind Behind.not_of_no_roots
  case h_2 first others some_left =>
    rw [some_left]
    have stalled := loader.tracker.mem_drop (first :: others) name
    simp only [Option.some.injEq, exists_eq_left', LoadError.involves, List.contains_iff_mem,
      List.mem_append, stalled]
    constructor
    · rintro (named | ⟨behind, -⟩)
      · exact .root named
      · exact behind
    · intro behind
      by_cases named : name ∈ first :: others
      · exact .inl named
      · exact .inr ⟨behind, named⟩

namespace Machine

variable {machine next : Machine} {verdict : Verdict} {name : String}

/-- Nothing waits for `name` any more. -/
def Forgotten (machine : Machine) (name : String) : Prop :=
  name ∉ machine.loader.unresolved ∧ ∀ blocker, name ∉ machine.loader.tracker.queue blocker

theorem Concludes.frames (concludes : machine.Concludes verdict) (stacked : machine.Stacked) :
    machine.frames = [] :=
  stacked.bottom (by rw [concludes.control]; trivial)

theorem Concludes.roots (concludes : machine.Concludes verdict) (stacked : machine.Stacked) :
    machine.roots = machine.loader.unresolved := by
  rw [Machine.roots, agenda, concludes.control, concludes.frames stacked]
  rfl

theorem Concludes.pending_iff (concludes : machine.Concludes verdict) (sound : machine.Sound) :
    machine.Pending name ↔ ¬ machine.Forgotten name := by
  have roots := concludes.roots sound.stacked
  constructor
  · rintro pending ⟨resolved, unqueued⟩
    cases pending with
    | root member => exact resolved (roots ▸ member)
    | waits queued behind => exact unqueued _ queued
  · intro waits
    by_cases named : name ∈ machine.loader.unresolved
    · exact .root (roots ▸ named)
    · obtain ⟨blocker, queued⟩ : ∃ blocker, name ∈ machine.loader.tracker.queue blocker := by
        apply Classical.byContradiction
        intro none_queued
        exact waits ⟨named, fun blocker queued => none_queued ⟨blocker, queued⟩⟩
      exact .waits queued (sound.rooted blocker name queued)

theorem pending_of_returned {outcome : Outcome} (sound : machine.Sound)
    (returned : machine = ⟨next.loader, .requesting .outermost name :: next.frames, .answered (.ok outcome)⟩) :
    next.loader.status name = .loaded ∨ outcome = .deferred ∧ next.Pending name := by
  subst returned
  rcases sound.answered _ rfl _ rfl with loaded | ⟨deferred, anchored⟩
  · exact .inl loaded
  · refine .inr ⟨deferred, anchored.pending.of_subset ?_ rfl⟩
    intro root member
    rw [mem_roots] at member ⊢
    grind [Control.agenda, Frame.agenda, Caller.library?]

theorem not_holds_conclude (concludes : machine.Concludes verdict) (stacked : machine.Stacked)
    {other : Verdict} : ¬ (machine.conclude verdict).Holds other := by
  rintro (⟨due, control⟩ | ⟨rest, member⟩)
  · cases control
  · rw [frames_conclude, concludes.frames stacked] at member
    cases member

end Machine

namespace Pass

variable {pass : Pass} {name : String}

theorem pending_or_dropped (outcome : Outcome) (count : Nat)
    (holds : (pass.state count).Holds (.request name (.ok outcome))) :
    (pass.state count).loader.status name = .loaded ∨ outcome = .deferred ∧
      ((pass.state count).Pending name ∨ ∃ moment, moment < count ∧
        (pass.state moment).Holds (.request name (.ok .deferred)) ∧
        (pass.state moment).Drops (pass.state (moment + 1)) name) := by
  induction count with
  | zero => exact absurd holds (Machine.not_holds_start _ _)
  | succ count ih =>
      have sound := pass.sound count
      rcases pass.state_cases count with same | step
      · rw [same] at holds ⊢
        refine (ih holds).imp_right fun deferred => ⟨deferred.1, deferred.2.imp_right ?_⟩
        rintro ⟨moment, earlier, held, drops⟩
        exact ⟨moment, Nat.lt_succ_of_lt earlier, held, drops⟩
      rcases step.holds_request holds with held | returned
      · rcases ih held with loaded | ⟨rfl, pending | ⟨moment, earlier, drops⟩⟩
        · exact .inl (step.loaded_mono sound.active loaded)
        · rcases step.pending sound pending with still | ⟨departs, -⟩
          · exact .inr ⟨rfl, .inl still⟩
          · cases departs with
            | loaded loaded => exact .inl loaded
            | dropped drops =>
                exact .inr ⟨rfl, .inr ⟨count, Nat.lt_succ_self count, held, drops⟩⟩
            | givenUp verdict control settled =>
                have concludes : (pass.state count).Concludes verdict := ⟨control, settled⟩
                rw [step.of_concludes concludes] at holds
                exact absurd holds (Machine.not_holds_conclude concludes sound.stacked)
        · exact .inr ⟨rfl, .inr ⟨moment, Nat.lt_succ_of_lt earlier, drops⟩⟩
      · exact (Machine.pending_of_returned sound returned).imp_right fun deferred =>
          ⟨deferred.1, .inl deferred.2⟩

end Pass

inductive Settles (loader : Loader) (unknown : Option LoadError) (name : String) :
    Except LoadError Outcome → Except LoadError Outcome → Prop
  | failed (error : LoadError) : Settles loader unknown name (.error error) (.error error)
  | answered (outcome : Outcome) (apart : outcome ≠ .deferred) :
      Settles loader unknown name (.ok outcome) (.ok outcome)
  | loaded (loaded : loader.status name = .loaded) :
      Settles loader unknown name (.ok .deferred) (.ok .loaded)
  | givenUp (error : LoadError) (waits : loader.status name ≠ .loaded) (given : unknown = some error)
      (told : error.involves name = true) : Settles loader unknown name (.ok .deferred) (.error error)
  | forgotten (waits : loader.status name ≠ .loaded)
      (untold : ¬ ∃ error, unknown = some error ∧ error.involves name = true) :
      Settles loader unknown name (.ok .deferred) (.ok .deferred)

theorem Machine.verdictAnswer_request (loader : Loader) (errors : List LoadError)
    (unknown : Option LoadError) (name : String) (result : Except LoadError Outcome) :
    ∃ final reported,
      verdictAnswer loader errors unknown (.request name result) = .requested final reported ∧
      Settles loader unknown name result final := by
  cases result with
  | error error => exact ⟨_, _, rfl, .failed error⟩
  | ok outcome =>
      cases outcome with
      | loaded => exact ⟨_, _, rfl, .answered .loaded (by simp)⟩
      | alreadyLoaded => exact ⟨_, _, rfl, .answered .alreadyLoaded (by simp)⟩
      | deferred =>
          by_cases loaded : loader.status name = .loaded
          · exact ⟨_, _, if_pos loaded, .loaded loaded⟩
          · unfold verdictAnswer
            simp only [loaded, if_false]
            cases unknown with
            | none => exact ⟨_, _, rfl, .forgotten loaded (by simp)⟩
            | some error =>
                by_cases told : error.involves name = true
                · exact ⟨_, _, if_pos told, .givenUp error loaded rfl told⟩
                · exact ⟨_, _, if_neg told, .forgotten loaded (by simpa using told)⟩

namespace Pass

variable {pass : Pass} {name : String} {result : Except LoadError Outcome} {moment : Nat}

theorem perform_request (concludes : (pass.state moment).Concludes (.request name result)) :
    ∃ unknown final reported, (pass.loader.perform pass.action).2 = .requested final reported ∧
      ((∃ error, unknown = some error ∧ error.involves name = true) ↔
        ¬ (pass.state moment).Forgotten name) ∧
      Settles (pass.loader.perform pass.action).1 unknown name result final := by
  have sound := pass.sound moment
  rw [perform_of_concludes concludes]
  obtain ⟨final, reported, answered, settles⟩ := Machine.verdictAnswer_request
    ((pass.state moment).conclude (.request name result)).loader
    (pass.state moment).loader.takeErrors.2
    (pass.state moment).loader.takeErrors.1.giveUpUnresolved.2 name result
  refine ⟨_, final, reported, answered, ?_, settles⟩
  rw [Loader.involves_giveUpUnresolved, ← concludes.pending_iff sound, Machine.Pending,
    concludes.roots sound.stacked]
  rfl

theorem status_perform (concludes : (pass.state moment).Concludes (.request name result)) :
    (pass.loader.perform pass.action).1.status name = (pass.state moment).loader.status name := by
  rw [perform_of_concludes concludes]
  exact Machine.status_conclude (pass.state moment) (.request name result) name

theorem loaded_of_concludes {outcome : Outcome} (apart : outcome ≠ .deferred)
    (concludes : (pass.state moment).Concludes (.request name (.ok outcome))) :
    (pass.loader.perform pass.action).1.status name = .loaded := by
  rw [status_perform concludes]
  rcases pending_or_dropped outcome moment concludes.holds with loaded | ⟨deferred, -⟩
  · exact loaded
  · exact absurd deferred apart

theorem dropped_of_forgotten
    (concludes : (pass.state moment).Concludes (.request name (.ok .deferred)))
    (waits : (pass.state moment).loader.status name ≠ .loaded)
    (forgotten : (pass.state moment).Forgotten name) :
    ∃ earlier, (pass.state earlier).Holds (.request name (.ok .deferred)) ∧
      (pass.state earlier).Drops (pass.state (earlier + 1)) name := by
  rcases pending_or_dropped .deferred moment concludes.holds with loaded | ⟨-, pending | dropped⟩
  · exact absurd loaded waits
  · exact absurd forgotten ((concludes.pending_iff (pass.sound moment)).mp pending)
  · obtain ⟨earlier, -, held, drops⟩ := dropped
    exact ⟨earlier, held, drops⟩

theorem unloaded_iff_forgotten {final : Except LoadError Outcome} {reported : List LoadError}
    (concludes : (pass.state moment).Concludes (.request name result))
    (answered : (pass.loader.perform pass.action).2 = .requested final reported) :
    (∃ outcome, final = .ok outcome ∧ (pass.loader.perform pass.action).1.status name ≠ .loaded) ↔
      ∃ moment, (pass.state moment).Concludes (.request name (.ok .deferred)) ∧
        (pass.state moment).loader.status name ≠ .loaded ∧ (pass.state moment).Forgotten name := by
  constructor
  · rintro ⟨outcome, rfl, waits⟩
    obtain ⟨_, _, _, same, told, settles⟩ := perform_request concludes
    cases answered.symm.trans same
    cases settles with
    | answered _ apart => exact absurd (loaded_of_concludes apart concludes) waits
    | loaded loaded => exact absurd loaded waits
    | forgotten _ untold =>
        refine ⟨moment, concludes, status_perform concludes ▸ waits, ?_⟩
        exact Classical.not_not.mp fun waiting => untold (told.mpr waiting)
  · rintro ⟨last, concludes, waits, forgotten⟩
    obtain ⟨_, _, _, same, told, settles⟩ := perform_request concludes
    cases answered.symm.trans same
    rw [← status_perform concludes] at waits
    cases settles with
    | answered _ apart => exact absurd rfl apart
    | loaded loaded => exact absurd loaded waits
    | givenUp error _ given involved => exact absurd forgotten (told.mp ⟨error, given, involved⟩)
    | forgotten => exact ⟨.deferred, rfl, waits⟩

/-- An outermost request without an error returns `deferred` exactly if the library is not loaded at the end.
That happens exactly if the request was deferred at first and nothing waits for the library at the end; then a
failed request has dropped what waited for it. -/
theorem outcome_of_request (pass : Pass) (name : String) (strict : Bool)
    (asked : pass.action = .request name strict) :
    ∃ final reported, (pass.loader.perform pass.action).2 = .requested final reported ∧
      (∀ outcome, final = .ok outcome →
        (outcome ≠ .deferred ↔ (pass.loader.perform pass.action).1.status name = .loaded)) ∧
      ((∃ outcome, final = .ok outcome ∧ (pass.loader.perform pass.action).1.status name ≠ .loaded) ↔
        ∃ moment, (pass.state moment).Concludes (.request name (.ok .deferred)) ∧
          (pass.state moment).loader.status name ≠ .loaded ∧ (pass.state moment).Forgotten name) ∧
      (∀ outcome, final = .ok outcome → (pass.loader.perform pass.action).1.status name ≠ .loaded →
        ∃ moment, (pass.state moment).Holds (.request name (.ok .deferred)) ∧
          (pass.state moment).Drops (pass.state (moment + 1)) name) := by
  obtain ⟨moment, verdict, concludes, served⟩ := pass.exists_concluded (by rw [asked]; trivial)
  obtain ⟨result, rfl⟩ : ∃ result, verdict = .request name result := by
    rw [asked] at served
    cases verdict with
    | request other result => obtain ⟨_, same⟩ := served; cases same; exact ⟨result, rfl⟩
    | sweep => obtain ⟨_, _, same⟩ := served; cases same
  obtain ⟨_, final, reported, answered, -, settles⟩ := perform_request concludes
  have forgotten := unloaded_iff_forgotten concludes answered
  refine ⟨final, reported, answered, ?_, forgotten, ?_⟩
  · rintro outcome rfl
    cases settles with
    | answered _ apart => exact iff_of_true apart (loaded_of_concludes apart concludes)
    | loaded loaded => exact iff_of_true (by simp) loaded
    | forgotten waits _ => exact iff_of_false (by simp) waits
  · intro outcome same waits
    obtain ⟨last, concludes, waits, forgotten⟩ := forgotten.mp ⟨outcome, same, waits⟩
    exact dropped_of_forgotten concludes waits forgotten

/-- `app` waits for `late`, which is declared only while the pass is settled, and fails. -/
def forsaken : Pass where
  loader := ((Loader.create ⟨false⟩ false).performAll [
    .register "host" [] (.program [.request "plugin" false,
      .register "plugin" [] (.program [.register "late" [] (.program [.fail "boom"])])]),
    .register "app" ["host", "late"] (.program [])]).1
  reachable := (Loader.Reachable.create ..).performAll _
  action := .request "app" false

theorem outcome_of_request_forsaken : forsaken.action = .request "app" false ∧
    ∃ final reported, (forsaken.loader.perform forsaken.action).2 = .requested final reported ∧
      ∀ outcome, final = .ok outcome →
        (outcome ≠ .deferred ↔ (forsaken.loader.perform forsaken.action).1.status "app" = .loaded) := by
  obtain ⟨final, reported, answered, truthful, -⟩ := outcome_of_request forsaken "app" false rfl
  exact ⟨rfl, final, reported, answered, truthful⟩

/-- A request may return `deferred` with its library unloaded and nothing queued for it. -/
theorem deferred_at_the_end :
    ¬ ∀ (pass : Pass) (name : String) (strict : Bool) (outcome : Outcome) (errors : List LoadError),
      pass.action = .request name strict →
        (pass.loader.perform pass.action).2 = .requested (.ok outcome) errors →
          (pass.loader.perform pass.action).1.status name = .loaded := by
  intro always
  have answered : (forsaken.loader.perform forsaken.action).2 =
      .requested (.ok .deferred) [.loadFailed ⟨"late", "boom"⟩] := by cbv
  have unloaded : (forsaken.loader.perform forsaken.action).1.status "app" = .unloaded := by cbv
  have loaded := always forsaken "app" false _ _ rfl answered
  rw [unloaded] at loaded
  cases loaded

end Pass

end DemandLoad
