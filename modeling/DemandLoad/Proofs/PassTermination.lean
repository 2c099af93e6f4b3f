import DemandLoad.Proofs.RequestReturns
import DemandLoad.Proofs.SettlementRounds

/-!
Each step lowers the measure, so every pass ends, and then every request has returned. The settling rounds are
bounded by the declarations that programs make in the pass.
-/

namespace DemandLoad

namespace Machine

variable {machine next : Machine} {frames : List Frame} {frame : Frame} {name : String}

theorem wellFounded_step : WellFounded fun next machine : Machine => machine.step? = some next :=
  Subrelation.wf lower_of_step? (InvImage.wf measure (Prod.lex Nat.lt_wfRel Nat.lt_wfRel).wf)

theorem Grounded.exists_last (grounded : machine.Grounded) : ∃ last answer,
    (machine.after last).control = .done answer ∧
      ∀ moment, moment < last → (machine.after moment).step? = some (machine.after (moment + 1)) := by
  induction machine using wellFounded_step.induction with
  | _ machine ih =>
    cases step : machine.step? with
    | none =>
        obtain ⟨answer, control⟩ := grounded.done step
        exact ⟨0, answer, control, fun moment early => absurd early (Nat.not_lt_zero moment)⟩
    | some next =>
        obtain ⟨last, answer, control, busy⟩ := ih next step (grounded.step step)
        refine ⟨last + 1, answer, ?_, ?_⟩
        · rw [after_forward step]
          exact control
        · intro moment early
          cases moment with
          | zero => rw [after_forward step, after, step, after]
          | succ moment =>
              rw [after_forward step, after_forward step]
              exact busy moment (Nat.lt_of_succ_lt_succ early)

theorem Step.promised_le (step : Step machine next) : next.promised ≤ machine.promised := by
  rcases Prod.lex_def.mp (lower_of_step? step.step?_eq) with less | ⟨same, -⟩
  · exact Nat.le_of_lt less
  · exact Nat.le_of_eq same

theorem Declares.control_eq (declares : machine.Declares name) : ∃ library dependencies target rest,
    machine.control = .perform library (.register name dependencies target :: rest) := by
  rw [Declares, declared?] at declares
  split at declares
  case h_1 library other dependencies target rest control =>
    cases declares
    exact ⟨library, dependencies, target, rest, control⟩
  case h_2 => cases declares

theorem Step.promised_lt (step : Step machine next) (declares : machine.Declares name) :
    next.promised < machine.promised := by
  obtain ⟨library, dependencies, target, rest, control⟩ := declares.control_eq
  obtain ⟨loader, frames, _⟩ := machine
  cases control
  have grown := loader.stored_declare name dependencies target
  have noted : ∀ event, ((loader.declare name dependencies target).note event).stored =
      (loader.declare name dependencies target).stored := fun _ => rfl
  rw [step.unique .declare]
  simp only [promised, Control.promised, Target.weightOf, Action.weight, noted]
  omega

theorem Step.standing (step : Step machine next) (standing : frame :: frames <:+ machine.frames) :
    frame :: frames <:+ next.frames ∨
      machine.frames = frame :: frames ∧ ∃ result, machine.control = .answered result := by
  cases step.restacked with
  | kept same => exact .inl (same ▸ standing)
  | pushed top pushed => exact .inl (pushed ▸ standing.trans (List.suffix_cons ..))
  | popped top popped result control =>
      rw [popped] at standing
      rcases List.suffix_cons_iff.mp standing with same | below
      · exact .inr ⟨popped.trans same.symm, result, control⟩
      · exact .inl below

end Machine

namespace Pass

variable {pass : Pass} {frames : List Frame} {frame : Frame} {name : String} {moment count last : Nat}
  {answer : Answer}

theorem exists_last (pass : Pass) : ∃ last answer, (pass.state last).control = .done answer ∧
    ∀ moment, moment < last → (pass.state moment).step? = some (pass.state (moment + 1)) :=
  (Machine.Grounded.start pass.loader pass.action).exists_last

theorem lt_of_answered {result : Except LoadError Outcome} (control : (pass.state last).control = .done answer)
    (answered : (pass.state moment).control = .answered result) : moment < last := by
  apply Nat.lt_of_not_le
  intro late
  rw [state_of_done control late, control] at answered
  cases answered

theorem standing_or_answered (standing : frame :: frames <:+ (pass.state moment).frames)
    (order : moment ≤ count) : frame :: frames <:+ (pass.state count).frames ∨
      ∃ between result, moment ≤ between ∧ (pass.state between).frames = frame :: frames ∧
        (pass.state between).control = .answered result := by
  induction order with
  | refl => exact .inl standing
  | @step count order ih =>
      rcases ih with still | answered
      · rcases pass.state_cases count with same | step
        · rw [same]
          exact .inl still
        · rcases step.standing still with after | ⟨top, result, control⟩
          · exact .inl after
          · exact .inr ⟨count, result, order, top, control⟩
      · exact .inr answered

theorem exists_answered (control : (pass.state last).control = .done answer)
    (standing : frame :: frames <:+ (pass.state moment).frames) : ∃ count result, moment ≤ count ∧
      (pass.state count).frames = frame :: frames ∧ (pass.state count).control = .answered result := by
  have bare : (pass.state (max moment last)).frames = [] := by
    rw [state_of_done control (Nat.le_max_right moment last)]
    exact (pass.sound last).stacked.bottom (by rw [control]; trivial)
  rcases standing_or_answered standing (Nat.le_max_left moment last) with still | answered
  · rw [bare] at still
    cases List.suffix_nil.mp still
  · exact answered

theorem length_asked_le (control : (pass.state last).control = .done answer) (count : Nat) :
    (pass.asked count).length ≤ last := by
  have early : ∀ count, (pass.asked count).length ≤ count := by
    intro count
    rw [asked, collect]
    exact (List.length_filterMap_le ..).trans_eq List.length_range
  rcases Nat.le_total count last with before | late
  · exact (early count).trans before
  · have same : pass.asked count = pass.asked last := by
      induction late with
      | refl => rfl
      | @step count late ih =>
          rw [← ih]
          exact collect_unseen _ (by simp [Machine.driven?, state_of_done control late, control])
    rw [same]
    exact early last

theorem length_declared_le (pass : Pass) (count : Nat) :
    (pass.declared count).length + (pass.state count).promised ≤ (pass.state 0).promised := by
  induction count with
  | zero => exact Nat.le_of_eq (Nat.zero_add _)
  | succ count ih =>
      have news : pass.declared (count + 1) = pass.declared count ++ (pass.state count).declared?.toList :=
        collect_succ ..
      rw [news, List.length_append]
      cases declares : (pass.state count).declared? with
      | none =>
          have fewer : (pass.state (count + 1)).promised ≤ (pass.state count).promised := by
            rcases pass.state_cases count with same | step
            · rw [same]
            · exact step.promised_le
          rw [Option.toList_none, List.length_nil]
          omega
      | some name =>
          have busy : ∀ answer, (pass.state count).control ≠ .done answer := by
            intro answer control
            rw [Machine.declared?, control] at declares
            cases declares
          have less := (step_of_busy busy).promised_lt declares
          rw [Option.toList_some, List.length_singleton]
          omega

/-- The pass is over at `last`, with its answer and an empty stack. Each step before lowers the measure, every
request has returned, and every settling round takes up names that programs declared in the pass and that no
other round takes up. -/
structure Ended (pass : Pass) (last : Nat) : Prop where
  answered : (pass.state last).control = .done (pass.loader.perform pass.action).2
  bare : (pass.state last).frames = []
  final : ∀ moment, last ≤ moment → pass.state moment = pass.state last
  lowers : ∀ moment, moment < last → (pass.state moment).step? = some (pass.state (moment + 1)) ∧
    Prod.Lex (· < ·) (· < ·) (pass.state (moment + 1)).measure (pass.state moment).measure
  returned : ∀ first name, (pass.state first).control = .drive name →
    ∃ count result, count < last ∧ pass.Returns first count name result
  served : ∀ moment frame frames, frame :: frames <:+ (pass.state moment).frames →
    ∃ count result, moment ≤ count ∧ count < last ∧ (pass.state count).frames = frame :: frames ∧
      (pass.state count).control = .answered result
  asked : ∀ count, (pass.asked count).length ≤ last
  apart : ∀ count, (pass.rounds count).flatten.Nodup ∧ (pass.rounds count).flatten ⊆ pass.declared count
  rounds : ∀ count, (pass.rounds count).length ≤ (pass.declared count).length ∧
    (pass.declared count).length ≤ (pass.state 0).promised

/-- Every pass ends, whatever it requests and whatever targets declare. -/
theorem exists_ended (pass : Pass) : ∃ last, pass.Ended last := by
  obtain ⟨last, answer, control, busy⟩ := pass.exists_last
  refine ⟨last, ?_, ?_, fun moment late => state_of_done control late, ?_, ?_, ?_, length_asked_le control, ?_, ?_⟩
  · rw [perform_of_done control]
    exact control
  · exact (pass.sound last).stacked.bottom (by rw [control]; trivial)
  · exact fun moment early => ⟨busy moment early, Machine.lower_of_step? (busy moment early)⟩
  · intro first name driven
    obtain ⟨count, result, returns⟩ := exists_returns driven
    exact ⟨count, result, lt_of_answered control returns.answered, returns⟩
  · intro moment frame frames standing
    obtain ⟨count, result, later, top, answered⟩ := exists_answered control standing
    exact ⟨count, result, later, lt_of_answered control answered, top, answered⟩
  · intro count
    have rounded := pass.rounded count
    exact ⟨rounded.distinct, fun name member => (rounded.taken name member).1⟩
  · intro count
    exact ⟨pass.length_rounds_le count, (Nat.le_add_right _ _).trans (pass.length_declared_le count)⟩

end Pass

end DemandLoad
