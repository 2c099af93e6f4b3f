import DemandLoad.Proofs.DeclaredRecords
import DemandLoad.Proofs.RestingLoaders
import Mathlib.Computability.Primrec.List
import Mathlib.Data.List.Permutation

-- The imports of Mathlib hold the equations of `List.lookup` and `Prod.snd` that `cbv` evaluates with.

/-!
A walk uses the dependencies that its library had when the walk began, and loads them in order. The target is
taken at the end of the walk, when the library may have been declared anew.
-/

namespace DemandLoad

namespace Machine

variable {machine next : Machine} {frames : List Frame} {name library : String}

theorem Step.walk_control {rest : List String} (step : Step machine next)
    (control : next.control = .walk library rest) :
    machine.control = .drive library ∧ next.frames = machine.frames ∧
        rest = machine.loader.dependencies library ∨
      ∃ dependency, machine.loader.status dependency = .loaded ∧
        (machine.control = .walk library (dependency :: rest) ∧ next.frames = machine.frames ∨
          machine.frames = .walking library dependency rest :: next.frames) := by
  cases step with
  | enter => cases control; exact .inl ⟨rfl, rfl, rfl⟩
  | advance reason =>
      cases control
      cases reason with
      | loadedBefore loaded => exact .inr ⟨_, loaded, .inl ⟨rfl, rfl⟩⟩
      | loadedNow loaded => exact .inr ⟨_, loaded, .inr rfl⟩
  | _ => cases control

theorem Step.walking_frames {dependency : String} {rest : List String} (step : Step machine next)
    (standing : .walking library dependency rest :: frames <:+ next.frames) :
    .walking library dependency rest :: frames <:+ machine.frames ∨
      machine.control = .walk library (dependency :: rest) ∧ frames = machine.frames :=
  (step.suffix_frames standing).imp_right fun top => ⟨Control.walk_of_inHand? top.1, top.2⟩

theorem Step.idle_before (active : machine.Active) (step : Step machine next)
    (idle : next.loader.status name = .unloaded) : machine.loader.status name = .unloaded := by
  cases step.progress active with
  | still same running => exact (same.status name).symm.trans idle
  | failed failing same running => exact (same.status name).symm.trans idle
  | begun started control idle' same running =>
      have status := (same.status_begun name).symm.trans idle
      split at status
      · cases status
      · exact status
  | ended ending control same drained running =>
      have status := (same.status_ended name).symm.trans idle
      split at status
      · cases status
      · exact status

theorem Step.of_walked {loader : Loader} (step : Step ⟨loader, frames, .walk name []⟩ next)
    (idle : loader.status name = .unloaded) (begun : next.loader.status name = .loading) :
    ∃ record, loader.registry.lookup? name = some record ∧
      next.control = .perform name (Target.actions record.target) := by
  cases step with
  | begin _ taken =>
      obtain ⟨record, known, row⟩ := Option.map_eq_some_iff.mp taken
      cases row
      exact ⟨record, known, rfl⟩
  | succeed reason => cases reason; simp_all
  | reject reason => cases reason; simp_all
  | postpone reason => cases reason; simp_all
  | remember reason =>
      cases reason
      rw [Loader.status, Loader.tracker_remember] at begun
      cases idle.symm.trans begun
  | advance reason => cases reason
  | goOn reason => cases reason
  | fail reason => cases reason

theorem Step.begins (active : machine.Active) (step : Step machine next)
    (idle : machine.loader.status name = .unloaded) (begun : next.loader.status name = .loading) :
    machine.control = .walk name [] ∧ ∃ record, machine.loader.registry.lookup? name = some record ∧
      next.control = .perform name (Target.actions record.target) := by
  have walked : machine.control = .walk name [] := by
    cases step.progress active with
    | still same running => cases idle.symm.trans ((same.status name).symm.trans begun)
    | failed failing same running => cases idle.symm.trans ((same.status name).symm.trans begun)
    | begun started control _ same running =>
        have status := (same.status_begun name).symm.trans begun
        split at status
        case isTrue same => rw [same, control]
        case isFalse => cases idle.symm.trans status
    | ended ending control same drained running =>
        have status := (same.status_ended name).symm.trans begun
        split at status
        · cases status
        · cases idle.symm.trans status
  refine ⟨walked, ?_⟩
  obtain ⟨loader, frames, control⟩ := machine
  cases walked
  exact step.of_walked idle begun

end Machine

namespace Pass

variable {pass : Pass} {frames : List Frame} {name library : String} {count : Nat}

/-- From `moment` on, the library is walked over `frames`, and the walk is not over at `count`. -/
structure Captured (pass : Pass) (moment count : Nat) (library : String) (frames : List Frame) :
    Prop where
  earlier : moment < count
  driven : (pass.state moment).control = .drive library
  below : (pass.state moment).frames = frames
  walked : (pass.state (moment + 1)).control =
    .walk library ((pass.state moment).loader.dependencies library)
  standing : ∀ between, moment < between → between ≤ count → frames <:+ (pass.state between).frames

/-- What is left of a walk is a suffix of the captured dependencies, and those before it are loaded. -/
def Walked (pass : Pass) (count : Nat) (frames : List Frame) (library : String)
    (rest : List String) : Prop :=
  ∃ moment past, Captured pass moment count library frames ∧
    (pass.state moment).loader.dependencies library = past ++ rest ∧
    ∀ dependency ∈ past, (pass.state count).loader.status dependency = .loaded

theorem Walked.later {rest : List String} (walked : Walked pass count frames library rest)
    (kept : ∀ dependency, (pass.state count).loader.status dependency = .loaded →
      (pass.state (count + 1)).loader.status dependency = .loaded)
    (standing : frames <:+ (pass.state (count + 1)).frames) :
    Walked pass (count + 1) frames library rest := by
  obtain ⟨moment, past, captured, split, loaded⟩ := walked
  refine ⟨moment, past, ⟨Nat.lt_succ_of_lt captured.earlier, captured.driven, captured.below,
    captured.walked, ?_⟩, split, ?_⟩
  · intro between later reached
    rcases Nat.le_succ_iff.mp reached with before | rfl
    · exact captured.standing between later before
    · exact standing
  · intro dependency member
    exact kept dependency (loaded dependency member)

theorem Walked.advance {dependency : String} {rest : List String}
    (walked : Walked pass count frames library (dependency :: rest))
    (loaded : (pass.state count).loader.status dependency = .loaded) :
    Walked pass count frames library rest := by
  obtain ⟨moment, past, captured, split, before⟩ := walked
  refine ⟨moment, past ++ [dependency], captured, ?_, ?_⟩
  · rw [split, List.append_assoc, List.singleton_append]
  · intro other member
    rcases List.mem_append.mp member with old | new
    · exact before other old
    · exact List.mem_singleton.mp new ▸ loaded

structure Traced (pass : Pass) (count : Nat) : Prop where
  control : ∀ library rest, (pass.state count).control = .walk library rest →
    Walked pass count (pass.state count).frames library rest
  frames : ∀ library dependency rest frames,
    .walking library dependency rest :: frames <:+ (pass.state count).frames →
      Walked pass count frames library (dependency :: rest)

theorem Traced.step (traced : Traced pass count) (active : (pass.state count).Active)
    (step : Machine.Step (pass.state count) (pass.state (count + 1))) : Traced pass (count + 1) := by
  have kept : ∀ dependency, (pass.state count).loader.status dependency = .loaded →
      (pass.state (count + 1)).loader.status dependency = .loaded :=
    fun _ loaded => step.loaded_mono active loaded
  constructor
  · intro library rest control
    rcases step.walk_control control with ⟨driven, frames, rfl⟩ | ⟨dependency, loaded, reached⟩
    · refine ⟨count, [], ⟨Nat.lt_succ_self _, driven, frames.symm, control, ?_⟩, rfl, by simp⟩
      intro between later reached
      cases Nat.le_antisymm reached later
      exact List.suffix_rfl
    · rcases reached with ⟨before, frames⟩ | below
      · have walked := (traced.control _ _ before).advance loaded
        rw [← frames] at walked
        exact walked.later kept List.suffix_rfl
      · have top : .walking library dependency rest :: (pass.state (count + 1)).frames <:+
            (pass.state count).frames := below ▸ List.suffix_rfl
        have walked := (traced.frames _ _ _ _ top).advance loaded
        exact walked.later kept List.suffix_rfl
  · intro library dependency rest frames standing
    have below : frames <:+ (pass.state (count + 1)).frames := (List.suffix_cons ..).trans standing
    rcases step.walking_frames standing with before | ⟨before, rfl⟩
    · exact (traced.frames _ _ _ _ before).later kept below
    · exact (traced.control _ _ before).later kept below

theorem Traced.rest (traced : Traced pass count)
    (same : pass.state (count + 1) = pass.state count) : Traced pass (count + 1) := by
  have kept : ∀ dependency, (pass.state count).loader.status dependency = .loaded →
      (pass.state (count + 1)).loader.status dependency = .loaded := by
    rw [same]
    exact fun _ loaded => loaded
  constructor
  · intro library rest control
    rw [same] at control
    have walked := traced.control library rest control
    rw [← same] at walked
    exact walked.later kept List.suffix_rfl
  · intro library dependency rest frames standing
    have below : frames <:+ (pass.state (count + 1)).frames := (List.suffix_cons ..).trans standing
    rw [same] at standing
    exact (traced.frames _ _ _ _ standing).later kept below

theorem Traced.start (pass : Pass) : Traced pass 0 := by
  obtain ⟨loader, reachable, action⟩ := pass
  constructor
  · intro library rest control
    cases action <;> cases control
  · intro library dependency rest frames standing
    cases action with
    | request name strict =>
        rcases List.suffix_cons_iff.mp standing with same | below
        · cases same
        · cases List.suffix_nil.mp below
    | register | requestAll | fail | query => cases List.suffix_nil.mp standing

theorem traced (pass : Pass) (count : Nat) : Traced pass count := by
  induction count with
  | zero => exact .start pass
  | succ count ih =>
      rcases pass.state_cases count with same | step
      · exact ih.rest same
      · exact ih.step (pass.sound count).active step

theorem walked_of_postpones {loader : Loader} {blocker : String}
    (reason : Machine.Postpones (pass.state count) loader frames name blocker) :
    name = blocker ∨ ∃ rest below, Walked pass count below name (blocker :: rest) := by
  have traced := pass.traced count
  have control := traced.control
  have standing := traced.frames
  generalize pass.state count = machine at reason control standing
  cases reason with
  | itself | itselfMeanwhile => exact .inl rfl
  | dependencyLoading => exact .inr ⟨_, _, control _ _ rfl⟩
  | dependencyWaits => exact .inr ⟨_, _, standing _ _ _ _ List.suffix_rfl⟩

theorem idle_before {earlier later : Nat} (order : earlier ≤ later)
    (idle : (pass.state later).loader.status name = .unloaded) :
    (pass.state earlier).loader.status name = .unloaded := by
  induction order with
  | refl => exact idle
  | @step later order ih =>
      apply ih
      rcases pass.state_cases later with same | step
      · rw [← same]
        exact idle
      · exact step.idle_before (pass.sound later).active idle

theorem idle_of_later (idle : (pass.state count).loader.status name = .unloaded) :
    pass.loader.status name = .unloaded := by
  have first := idle_before (Nat.zero_le count) idle
  rwa [Loader.status, pass.tracker_start] at first

theorem lookup?_eq {earlier later : Nat} (order : earlier ≤ later)
    (idle : (pass.state later).loader.status name = .unloaded)
    (quiet : ∀ between, earlier ≤ between → between < later → ¬ (pass.state between).Declares name) :
    (pass.state later).loader.registry.lookup? name =
      (pass.state earlier).loader.registry.lookup? name := by
  induction order with
  | refl => rfl
  | @step later order ih =>
      have before := idle_before (Nat.le_succ later) idle
      rw [← ih before fun between reached passed => quiet between reached (Nat.lt_succ_of_lt passed)]
      rcases pass.state_cases later with same | step
      · rw [same]
      · exact step.lookup?_eq (quiet later order (Nat.lt_succ_self later)) idle

/-- The load of `name` begins with the next step. -/
def Begins (pass : Pass) (count : Nat) (name : String) : Prop :=
  (pass.state count).loader.status name = .unloaded ∧
    (pass.state (count + 1)).loader.status name = .loading

theorem Begins.step (begins : pass.Begins count name) :
    Machine.Step (pass.state count) (pass.state (count + 1)) := by
  rcases pass.state_cases count with same | step
  · have idle := begins.1
    rw [← same, begins.2] at idle
    cases idle
  · exact step

/-- When a load begins, the dependencies captured by its walk are loaded, and the target is that of the present
record. All present dependencies are loaded exactly if those that were not captured are; and if the library was
not declared anew since, its record is the same. -/
theorem loaded_of_begins (pass : Pass) (count : Nat) (name : String) (begins : pass.Begins count name) :
    ∃ moment record, Captured pass moment count name (pass.state count).frames ∧
      (pass.state count).loader.registry.lookup? name = some record ∧
      (pass.state (count + 1)).control = .perform name (Target.actions record.target) ∧
      (∀ dependency ∈ (pass.state moment).loader.dependencies name,
        (pass.state count).loader.status dependency = .loaded) ∧
      ((∀ dependency ∈ record.dependencies, (pass.state count).loader.status dependency = .loaded) ↔
        ∀ dependency ∈ record.dependencies,
          dependency ∉ (pass.state moment).loader.dependencies name →
            (pass.state count).loader.status dependency = .loaded) ∧
      ((∀ between, moment ≤ between → between < count → ¬ (pass.state between).Declares name) →
        (pass.state moment).loader.registry.lookup? name = some record) := by
  have active := (pass.sound count).active
  obtain ⟨walked, record, known, started⟩ := begins.step.begins active begins.1 begins.2
  obtain ⟨moment, past, captured, split, loaded⟩ := (pass.traced count).control name [] walked
  rw [List.append_nil] at split
  rw [← split] at loaded
  refine ⟨moment, record, captured, known, started, loaded, ?_, ?_⟩
  · constructor
    · intro all dependency member _
      exact all dependency member
    · intro others dependency member
      by_cases taken : dependency ∈ (pass.state moment).loader.dependencies name
      · exact loaded dependency taken
      · exact others dependency member taken
  · intro quiet
    rw [← known]
    exact (lookup?_eq (Nat.le_of_lt captured.earlier) begins.1 quiet).symm

/-- The walk of `n` loads `a`, whose target declares `n` anew. -/
def overtaken : Pass where
  loader := ((Loader.create ⟨false⟩ false).performAll [.register "b" [] .noop,
    .register "a" [] (.program [.register "n" ["b"] .noop]), .register "n" ["a"] .noop]).1
  reachable := (Loader.Reachable.create ..).performAll _
  action := .request "n" false

theorem loaded_of_begins_overtaken : overtaken.Begins 8 "n" ∧
    ∃ moment, moment < 8 ∧ ∀ dependency ∈ (overtaken.state moment).loader.dependencies "n",
      (overtaken.state 8).loader.status dependency = .loaded := by
  have begins : overtaken.Begins 8 "n" := ⟨by cbv, by cbv⟩
  obtain ⟨moment, record, captured, -, -, loaded, -⟩ := loaded_of_begins overtaken 8 "n" begins
  exact ⟨begins, moment, captured.earlier, loaded⟩

/-- `n` begins to load while its present dependency `b` is unloaded. -/
theorem begins_before_dependencies :
    ¬ ∀ (pass : Pass) (count : Nat) (name : String), pass.Begins count name →
      ∀ dependency ∈ (pass.state count).loader.dependencies name,
        (pass.state count).loader.status dependency = .loaded := by
  intro always
  have begins : overtaken.Begins 8 "n" := ⟨by cbv, by cbv⟩
  have listed : (overtaken.state 8).loader.dependencies "n" = ["b"] := by cbv
  have unloaded : (overtaken.state 8).loader.status "b" = .unloaded := by cbv
  have loaded := always overtaken 8 "n" begins "b" (by rw [listed]; exact List.mem_cons_self ..)
  rw [unloaded] at loaded
  cases loaded

end Pass

end DemandLoad
