import DemandLoad.Proofs.UnresolvedNames
import Mathlib.Data.List.Nodup
import Mathlib.Data.List.Perm.Subperm

namespace DemandLoad

def Frame.due : Frame → List String
  | .settling _ rest => rest
  | _ => []

def Control.due : Control → List String
  | .settle _ due => due
  | _ => []

theorem length_le_flatten {lists : List (List String)} (filled : ∀ list ∈ lists, list ≠ []) :
    lists.length ≤ lists.flatten.length := by
  induction lists with
  | nil => exact Nat.le_refl 0
  | cons list lists ih =>
      have head := List.length_pos_iff.mpr (filled list (List.mem_cons_self ..))
      have rest := ih fun other member => filled other (List.mem_cons_of_mem _ member)
      rw [List.flatten_cons, List.length_append, List.length_cons]
      omega

namespace Machine

variable {machine next : Machine} {name : String} {due : List String}

def ahead (machine : Machine) : List String := machine.control.due ++ machine.frames.flatMap Frame.due

def round? (machine : Machine) : Option (List String) :=
  match machine.control with
  | .settle _ [] => if machine.loader.due = [] then none else some machine.loader.due
  | _ => none

theorem round?_eq_some (begins : machine.round? = some due) :
    (∃ verdict, machine.control = .settle verdict []) ∧ machine.loader.due = due ∧ due ≠ [] := by
  unfold round? at begins
  split at begins
  case h_1 verdict control =>
    split at begins
    case isTrue => cases begins
    case isFalse pending =>
      cases begins
      exact ⟨⟨verdict, control⟩, rfl, pending⟩
  case h_2 => cases begins

theorem ahead_of_round? (stacked : machine.Stacked) (begins : machine.round? = some due) : machine.ahead = [] := by
  obtain ⟨⟨verdict, control⟩, -, -⟩ := round?_eq_some begins
  rw [ahead, control, stacked.bottom (by rw [control]; trivial)]
  rfl

theorem Step.ahead_of_round? (step : Step machine next) (begins : machine.round? = some due) :
    due ⊆ next.ahead := by
  obtain ⟨⟨verdict, control⟩, rfl, pending⟩ := round?_eq_some begins
  obtain ⟨loader, frames, _⟩ := machine
  cases control
  rw [step.unique (.settleRound pending)]
  exact List.subset_append_left ..

theorem Step.ahead_of_unresolved (step : Step machine next) (ahead : name ∈ machine.ahead)
    (unresolved : name ∈ next.loader.unresolved) : name ∈ next.ahead := by
  cases step with
  | settleNext =>
      rcases List.mem_cons.mp ahead with rfl | later
      · exact absurd rfl (of_decide_eq_true (List.mem_filter.mp unresolved).2)
      · exact later
  | settleRound => exact List.mem_append_right _ ahead
  | succeed reason => cases reason <;> exact ahead
  | reject reason => cases reason <;> exact ahead
  | postpone reason => cases reason <;> exact ahead
  | remember reason => cases reason <;> exact ahead
  | advance reason => cases reason <;> exact ahead
  | goOn reason => cases reason <;> exact ahead
  | fail reason => cases reason <;> exact ahead
  | enter | descend | begin | finish | declare | call | callAll | resumeNext | sweepNext | sweepEnd | conclude
    | returned | sweptOne | resumedOne | settledOne => exact ahead

theorem Step.nodup_unresolved (step : Step machine next) (recalls : Recalls machine next)
    (nodup : machine.loader.unresolved.Nodup) : next.loader.unresolved.Nodup := by
  cases recalls with
  | kept same => exact same ▸ nodup
  | forgotten other same => exact same ▸ nodup.filter _
  | remembered other same =>
      rw [same, Loader.unresolved_remember]
      split
      case isTrue => exact nodup
      case isFalse new => exact List.concat_eq_append ▸ nodup.concat new
  | concluded verdict concludes =>
      rw [step.of_concludes concludes, unresolved_conclude]
      exact .nil

theorem Step.declares_of_known (step : Step machine next)
    (unknown : machine.loader.registry.contains name = false)
    (known : next.loader.registry.contains name = true) : machine.Declares name := by
  apply Classical.byContradiction
  intro quiet
  have same := congrArg Option.isSome (step.dependencies?_eq quiet)
  simp only [Registry.dependencies?, Option.isSome_map] at same
  rw [Registry.contains_eq] at unknown known
  rw [unknown, known] at same
  cases same

end Machine

namespace Pass

variable {pass : Pass} {name : String} {count : Nat}

def rounds (pass : Pass) (count : Nat) : List (List String) := pass.collect Machine.round? count

def declared (pass : Pass) (count : Nat) : List String := pass.collect Machine.declared? count

theorem declared_mono {earlier : Nat} (order : earlier ≤ count) (declared : name ∈ pass.declared earlier) :
    name ∈ pass.declared count := by
  obtain ⟨moment, early, declares⟩ := mem_collect.mp declared
  exact mem_collect.mpr ⟨moment, Nat.lt_of_lt_of_le early order, declares⟩

/-- What the rounds have taken up, beside what is unresolved. -/
structure Rounded (pass : Pass) (count : Nat) : Prop where
  unresolved : (pass.state count).loader.unresolved.Nodup
  declared : ∀ name ∈ (pass.state count).loader.unresolved,
    (pass.state count).loader.registry.contains name = true → name ∈ pass.declared count
  taken : ∀ name ∈ (pass.rounds count).flatten, name ∈ pass.declared count ∧
    (pass.state count).loader.registry.contains name = true ∧
      (name ∈ (pass.state count).loader.unresolved → name ∈ (pass.state count).ahead)
  distinct : (pass.rounds count).flatten.Nodup
  pending : ∀ round ∈ pass.rounds count, round ≠ []

theorem Rounded.of_round? {due : List String} (rounded : pass.Rounded count)
    (begins : (pass.state count).round? = some due) : due ≠ [] ∧ due.Nodup ∧ ∀ name ∈ due,
      name ∈ pass.declared count ∧ (pass.state count).loader.registry.contains name = true ∧
        name ∉ (pass.rounds count).flatten := by
  obtain ⟨-, rfl, pending⟩ := Machine.round?_eq_some begins
  refine ⟨pending, rounded.unresolved.filter _, ?_⟩
  intro name member
  obtain ⟨unresolved, known⟩ := List.mem_filter.mp member
  refine ⟨rounded.declared name unresolved known, known, ?_⟩
  intro again
  have ahead := (rounded.taken name again).2.2 unresolved
  rw [Machine.ahead_of_round? (pass.sound count).stacked begins] at ahead
  cases ahead

theorem Rounded.declared_step (rounded : pass.Rounded count)
    (step : Machine.Step (pass.state count) (pass.state (count + 1)))
    (recalls : Machine.Recalls (pass.state count) (pass.state (count + 1)))
    (unresolved : name ∈ (pass.state (count + 1)).loader.unresolved)
    (known : (pass.state (count + 1)).loader.registry.contains name = true) :
    name ∈ pass.declared (count + 1) := by
  cases before : (pass.state count).loader.registry.contains name with
  | true =>
      rcases step.unresolved_before recalls unresolved with old | unknown
      · exact declared_mono (Nat.le_succ count) (rounded.declared name old before)
      · cases before.symm.trans unknown
  | false => exact mem_collect.mpr ⟨count, Nat.lt_succ_self count, step.declares_of_known before known⟩

theorem Rounded.taken_step (rounded : pass.Rounded count)
    (step : Machine.Step (pass.state count) (pass.state (count + 1)))
    (recalls : Machine.Recalls (pass.state count) (pass.state (count + 1)))
    (member : name ∈ (pass.rounds count).flatten) : name ∈ pass.declared (count + 1) ∧
      (pass.state (count + 1)).loader.registry.contains name = true ∧
        (name ∈ (pass.state (count + 1)).loader.unresolved → name ∈ (pass.state (count + 1)).ahead) := by
  obtain ⟨before, known, ahead⟩ := rounded.taken name member
  refine ⟨declared_mono (Nat.le_succ count) before, step.contains_mono known, ?_⟩
  intro unresolved
  rcases step.unresolved_before recalls unresolved with old | unknown
  · exact step.ahead_of_unresolved (ahead old) unresolved
  · cases known.symm.trans unknown

theorem Rounded.step (rounded : pass.Rounded count)
    (step : Machine.Step (pass.state count) (pass.state (count + 1))) : pass.Rounded (count + 1) := by
  have recalls := step.recalls (pass.due count) fun _ control => known_of_walk control
  have nodup := step.nodup_unresolved recalls rounded.unresolved
  have declared : ∀ name ∈ (pass.state (count + 1)).loader.unresolved,
      (pass.state (count + 1)).loader.registry.contains name = true → name ∈ pass.declared (count + 1) :=
    fun _ unresolved known => rounded.declared_step step recalls unresolved known
  have rounds : pass.rounds (count + 1) = pass.rounds count ++ (pass.state count).round?.toList :=
    collect_succ ..
  cases begins : (pass.state count).round? with
  | none =>
      rw [begins, Option.toList_none, List.append_nil] at rounds
      refine ⟨nodup, declared, ?_, rounds ▸ rounded.distinct, rounds ▸ rounded.pending⟩
      exact fun name member => rounded.taken_step step recalls (rounds ▸ member)
  | some due =>
      obtain ⟨pending, alone, fresh⟩ := rounded.of_round? begins
      rw [begins, Option.toList_some] at rounds
      have flatten : (pass.rounds (count + 1)).flatten = (pass.rounds count).flatten ++ due := by
        rw [rounds, List.flatten_append, List.flatten_singleton]
      refine ⟨nodup, declared, ?_, ?_, ?_⟩
      · intro name member
        rcases List.mem_append.mp (flatten ▸ member) with old | new
        · exact rounded.taken_step step recalls old
        · obtain ⟨before, known, -⟩ := fresh name new
          exact ⟨declared_mono (Nat.le_succ count) before, step.contains_mono known,
            fun _ => step.ahead_of_round? begins new⟩
      · rw [flatten]
        refine List.nodup_append.mpr ⟨rounded.distinct, alone, ?_⟩
        rintro name old _ new rfl
        exact (fresh name new).2.2 old
      · intro round member
        rcases List.mem_append.mp (rounds ▸ member) with old | new
        · exact rounded.pending round old
        · exact List.mem_singleton.mp new ▸ pending

theorem Rounded.rest {answer : Answer} (rounded : pass.Rounded count)
    (control : (pass.state count).control = .done answer) : pass.Rounded (count + 1) := by
  have same := state_of_done control (Nat.le_succ count)
  have rounds : pass.rounds (count + 1) = pass.rounds count :=
    collect_unseen _ (by simp [Machine.round?, control])
  have declared : pass.declared (count + 1) = pass.declared count :=
    collect_unseen _ (by simp [Machine.declared?, control])
  constructor
  · exact same ▸ rounded.unresolved
  · exact same ▸ declared ▸ rounded.declared
  · exact same ▸ declared ▸ rounds ▸ rounded.taken
  · exact rounds ▸ rounded.distinct
  · exact rounds ▸ rounded.pending

theorem rounded (pass : Pass) (count : Nat) : pass.Rounded count := by
  induction count with
  | zero =>
      refine ⟨pass.unresolved_zero ▸ .nil, ?_, by simp [rounds, collect], .nil, by simp [rounds, collect]⟩
      intro name member
      rw [pass.unresolved_zero] at member
      cases member
  | succ count ih =>
      rcases pass.done_or_step count with ⟨answer, control⟩ | step
      · exact ih.rest control
      · exact ih.step step

/-- A pass has at most as many rounds as programs have made declarations in it. -/
theorem length_rounds_le (pass : Pass) (count : Nat) :
    (pass.rounds count).length ≤ (pass.declared count).length := by
  have rounded := pass.rounded count
  have taken : (pass.rounds count).flatten ⊆ pass.declared count :=
    fun name member => (rounded.taken name member).1
  calc (pass.rounds count).length
      ≤ (pass.rounds count).flatten.length := length_le_flatten rounded.pending
    _ ≤ (pass.declared count).length := (rounded.distinct.subperm taken).length_le

/-- The target of `a` requests `b` before it declares it. -/
def hasty : Pass where
  loader := ((Loader.create ⟨false⟩ false).performAll
    [.register "a" [] (.program [.request "b" false, .register "b" [] .noop])]).1
  reachable := (Loader.Reachable.create ..).performAll _
  action := .request "a" false

example : hasty.declared 20 = ["b"] ∧ hasty.rounds 20 = [["b"]] := ⟨by cbv, by cbv⟩

end Pass

end DemandLoad
