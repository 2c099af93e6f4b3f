import DemandLoad.Proofs.PassObservations

namespace DemandLoad

namespace Machine

variable {machine next : Machine} {before : Nat} {rest : List String} {errors : List LoadError}

def asked? (machine : Machine) : Option String :=
  match machine.control with
  | .sweep .outermost _ (name :: _) _ => some name
  | _ => none

def heard? (machine : Machine) : Option (Except LoadError Outcome) :=
  match machine.control, machine.frames with
  | .answered result, .sweeping .outermost _ _ _ :: _ => some result
  | _, _ => none

theorem Stacked.of_asked {name : String} (stacked : machine.Stacked) (asked : machine.asked? = some name) :
    machine.frames = [] ∧ ∃ before rest errors, machine.control = .sweep .outermost before (name :: rest) errors := by
  unfold asked? at asked
  split at asked
  case h_2 => cases asked
  case h_1 before other rest errors control =>
    cases asked
    refine ⟨stacked.bottom ?_, before, rest, errors, control⟩
    rw [control]
    trivial

theorem Stacked.of_heard {result : Except LoadError Outcome} (stacked : machine.Stacked)
    (heard : machine.heard? = some result) :
    machine.control = .answered result ∧
      ∃ before rest errors, machine.frames = [.sweeping .outermost before rest errors] := by
  unfold heard? at heard
  split at heard
  case h_2 => cases heard
  case h_1 other before rest errors frames control standing =>
    cases heard
    have bottom := stacked.frames
    rw [standing] at bottom
    cases bottom.1 trivial
    exact ⟨control, before, rest, errors, standing⟩

theorem Step.sweep_control (step : Step machine next)
    (control : next.control = .sweep .outermost before rest errors) :
    ∃ earlier result, machine.heard? = some result ∧ machine.asked? = none ∧
      .sweeping .outermost before rest earlier ∈ machine.frames ∧ errors = earlier ++ errorOf result := by
  cases step with
  | sweptOne => cases control; exact ⟨_, _, rfl, rfl, List.mem_cons_self .., rfl⟩
  | _ => cases control

theorem Step.holds_sweep (step : Step machine next) (holds : next.Holds (.sweep before errors)) :
    machine.Holds (.sweep before errors) ∨ machine.control = .sweep .outermost before [] errors := by
  rcases holds with ⟨due, control⟩ | ⟨rest, member⟩
  · cases step with
    | settleRound => cases control; exact .inl (.inl ⟨_, rfl⟩)
    | sweepEnd => cases control; exact .inr rfl
    | settledOne => cases control; exact .inl (.inr ⟨_, List.mem_cons_self ..⟩)
    | _ => cases control
  · rcases step.mem_frames member with below | inHand
    · exact .inl (.inr ⟨rest, below⟩)
    · obtain ⟨name, control⟩ := Control.settle_of_inHand? inHand
      exact .inl (.inl ⟨_, control⟩)

end Machine

namespace Pass

variable {pass : Pass} {stem : String} {count : Nat} {rest : List String} {due : Nat}
  {errors : List LoadError}

/-- The sweep has still to request `rest`, waits for so many results, and has collected these errors. -/
structure Asks (pass : Pass) (stem : String) (count : Nat) (rest : List String) (due : Nat)
    (errors : List LoadError) : Prop where
  names : Machine.swept pass.loader stem = pass.collect Machine.asked? count ++ rest
  results : (pass.collect Machine.asked? count).length = (pass.collect Machine.heard? count).length + due
  errors : errors = (pass.collect Machine.heard? count).flatMap Machine.errorOf

theorem Asks.quiet (asks : pass.Asks stem count rest due errors)
    (unasked : (pass.state count).asked? = none) (unheard : (pass.state count).heard? = none) :
    pass.Asks stem (count + 1) rest due errors := by
  obtain ⟨names, results, kept⟩ := asks
  constructor <;> simpa only [collect_succ, unasked, unheard, Option.toList_none, List.append_nil]

theorem Asks.ask {name : String} (asks : pass.Asks stem count (name :: rest) 0 errors)
    (asked : (pass.state count).asked? = some name) (unheard : (pass.state count).heard? = none) :
    pass.Asks stem (count + 1) rest 1 errors := by
  obtain ⟨names, results, kept⟩ := asks
  constructor
  · rw [names, collect_succ, asked, List.append_assoc]
    rfl
  · simp [collect_succ, asked, unheard, results]
  · rw [kept, collect_succ, unheard, Option.toList_none, List.append_nil]

theorem Asks.hear {result : Except LoadError Outcome} (asks : pass.Asks stem count rest 1 errors)
    (unasked : (pass.state count).asked? = none) (heard : (pass.state count).heard? = some result) :
    pass.Asks stem (count + 1) rest 0 (errors ++ Machine.errorOf result) := by
  obtain ⟨names, results, kept⟩ := asks
  constructor
  · rw [names, collect_succ, unasked, Option.toList_none, List.append_nil]
  · simp [collect_succ, unasked, heard, results]
  · simp [collect_succ, heard, kept]

structure Sweeping (pass : Pass) (stem : String) (count : Nat) : Prop where
  control : ∀ before names errors, (pass.state count).control = .sweep .outermost before names errors →
    pass.Asks stem count names 0 errors
  frames : ∀ before rest errors, .sweeping .outermost before rest errors ∈ (pass.state count).frames →
    pass.Asks stem count rest 1 errors
  verdict : ∀ before errors, (pass.state count).Holds (.sweep before errors) →
    pass.Asks stem count [] 0 errors

theorem unasked_of_frame {frame : Frame} (member : frame ∈ (pass.state count).frames) :
    (pass.state count).asked? = none := by
  apply Option.eq_none_iff_forall_ne_some.mpr
  intro name asked
  rw [((pass.sound count).stacked.of_asked asked).1] at member
  cases member

theorem unheard_of_control (apart : ∀ result, (pass.state count).control ≠ .answered result) :
    (pass.state count).heard? = none := by
  apply Option.eq_none_iff_forall_ne_some.mpr
  intro result heard
  exact apart result ((pass.sound count).stacked.of_heard heard).1

theorem unheard_of_frame {before : Nat} (step : Machine.Step (pass.state count) (pass.state (count + 1)))
    (member : .sweeping .outermost before rest errors ∈ (pass.state (count + 1)).frames) :
    (pass.state count).heard? = none := by
  apply Option.eq_none_iff_forall_ne_some.mpr
  intro result heard
  obtain ⟨control, _, _, _, standing⟩ := (pass.sound count).stacked.of_heard heard
  generalize pass.state count = machine at step control standing
  obtain ⟨loader, frames, _⟩ := machine
  cases control
  cases standing
  rw [step.frames_of_answered] at member
  cases member

theorem idle_of_holds {verdict : Verdict} (holds : (pass.state count).Holds verdict) :
    (pass.state count).asked? = none ∧ (pass.state count).heard? = none := by
  have stacked := (pass.sound count).stacked
  constructor
  · apply Option.eq_none_iff_forall_ne_some.mpr
    intro name asked
    obtain ⟨bare, _, _, _, sweeps⟩ := stacked.of_asked asked
    rcases holds with ⟨due, control⟩ | ⟨rest, member⟩
    · cases sweeps.symm.trans control
    · rw [bare] at member
      cases member
  · apply Option.eq_none_iff_forall_ne_some.mpr
    intro result heard
    obtain ⟨answered, _, _, _, standing⟩ := stacked.of_heard heard
    rcases holds with ⟨due, control⟩ | ⟨rest, member⟩
    · cases answered.symm.trans control
    · rw [standing] at member
      cases List.mem_singleton.mp member

theorem Sweeping.step (sweeping : pass.Sweeping stem count)
    (step : Machine.Step (pass.state count) (pass.state (count + 1))) :
    pass.Sweeping stem (count + 1) := by
  constructor
  · intro before names errors control
    obtain ⟨earlier, result, heard, unasked, member, rfl⟩ := step.sweep_control control
    exact (sweeping.frames _ _ _ member).hear unasked heard
  · intro before rest errors member
    rcases step.mem_frames member with below | inHand
    · exact (sweeping.frames _ _ _ below).quiet (unasked_of_frame below) (unheard_of_frame step member)
    · obtain ⟨name, control⟩ := Control.sweep_of_inHand? inHand
      have unheard : (pass.state count).heard? = none := unheard_of_control (by simp [control])
      exact (sweeping.control _ _ _ control).ask (by simp [Machine.asked?, control]) unheard
  · intro before errors holds
    rcases step.holds_sweep holds with held | control
    · exact (sweeping.verdict _ _ held).quiet (idle_of_holds held).1 (idle_of_holds held).2
    · have unheard : (pass.state count).heard? = none := unheard_of_control (by simp [control])
      exact (sweeping.control _ _ _ control).quiet (by simp [Machine.asked?, control]) unheard

theorem Sweeping.start (strict : Bool) (sweeps : pass.action = .requestAll stem strict) :
    pass.Sweeping stem 0 := by
  obtain ⟨loader, reachable, action⟩ := pass
  cases sweeps
  constructor
  · intro before names errors control
    cases control
    exact ⟨rfl, rfl, rfl⟩
  · intro before rest errors member
    cases member
  · intro before errors holds
    exact absurd holds (Machine.not_holds_start _ _)

theorem sweeping (strict : Bool) (sweeps : pass.action = .requestAll stem strict) (count : Nat)
    (busy : ∀ answer, (pass.state count).control ≠ .done answer) : pass.Sweeping stem count := by
  induction count with
  | zero => exact .start strict sweeps
  | succ count ih => exact (ih (busy_before busy)).step (step_of_busy (busy_before busy))

end Pass

end DemandLoad
