import DemandLoad.Machine.Measure

/-!
Every step lowers the measure. `Within machine promised cost next` says that `next` is below the frames of
`machine` together with a budget for what happens next; each part of the machine is shown to stay within the
budget of the control it serves.
-/

namespace DemandLoad

namespace Machine

def base (machine : Machine) : Nat := machine.loader.stored + promisedBy machine.frames

def frameCost (machine : Machine) : Nat := costOf machine.loader machine.frames

def Within (machine : Machine) (promised cost : Nat) (next : Machine) : Prop :=
  next.promised < machine.base + promised ∨
    next.promised ≤ machine.base + promised ∧ next.cost < machine.frameCost + cost

variable {machine : Machine} {promised cost : Nat}

theorem Within.of_quiet {loader : Loader} {next : Machine} (quiet : machine.loader.Quiet loader)
    (within : Within (machine.withLoader loader) promised cost next) :
    Within machine promised cost next := by
  have kept : (machine.withLoader loader).base = machine.base :=
    congrArg (· + promisedBy machine.frames) quiet.stored
  have fewer : (machine.withLoader loader).frameCost ≤ machine.frameCost :=
    quiet.costOf machine.frames
  unfold Within at within ⊢
  omega

theorem Within.relax {less spare : Nat} {next : Machine} (within : Within machine less spare next)
    (promise : less < promised) : Within machine promised cost next := by
  unfold Within at within ⊢
  omega

theorem within_goto (control : Control) (promise : control.promised ≤ promised)
    (spend : control.cost machine.loader machine.frames < cost) :
    Within machine promised cost (machine.goto control) := by
  refine Or.inr ⟨?_, ?_⟩
  · exact Nat.add_le_add_left promise _
  · exact Nat.add_lt_add_left spend _

theorem within_push (frame : Frame) (control : Control)
    (promise : frame.promised + control.promised ≤ promised)
    (spend : frame.cost machine.loader + control.cost machine.loader (frame :: machine.frames) < cost) :
    Within machine promised cost (machine.push frame control) := by
  refine Or.inr ⟨?_, ?_⟩
  · simp only [Machine.promised, base, push, promisedBy]
    omega
  · simp only [Machine.cost, frameCost, push, costOf]
    omega

theorem within_succeed (outcome : Outcome) (spend : 1 < cost) :
    Within machine promised cost (machine.succeed outcome) :=
  within_goto _ (Nat.zero_le _) spend

theorem within_reject (name : String) (error : LoadError) (spend : 1 < cost) :
    Within machine promised cost (machine.reject name error) :=
  .of_quiet (machine.loader.quiet_dropBehind name) (within_goto _ (Nat.zero_le _) spend)

theorem within_postpone (name blocker : String) (spend : 1 < cost) :
    Within machine promised cost (machine.postpone name blocker) :=
  .of_quiet (machine.loader.quiet_defer name blocker) (within_succeed _ spend)

theorem within_postponeUnknown (name : String)
    (unknown : machine.loader.registry.contains name = false) (spend : 1 < cost) :
    Within machine promised cost (machine.postponeUnknown name) :=
  .of_quiet (machine.loader.quiet_remember name unknown) (within_succeed _ spend)

theorem within_unlessBegun (name : String) (whenLoaded : Outcome) (next : Machine) (spend : 1 < cost)
    (idle : machine.loader.status name = .unloaded → Within machine promised cost next) :
    Within machine promised cost (machine.unlessBegun name whenLoaded next) := by
  unfold unlessBegun
  split
  case h_1 unloaded => exact idle unloaded
  case h_2 => exact within_succeed whenLoaded spend
  case h_3 =>
    split
    · exact within_reject name _ spend
    · exact within_postpone name name spend

theorem within_beginWalk (name : String) (known : name ∈ machine.loader.registry.names)
    (idle : machine.loader.status name = .unloaded) :
    Within machine promised (machine.loader.reach (walkOf machine.frames)) (machine.beginWalk name) := by
  unfold beginWalk
  split
  case isTrue =>
    apply within_reject
    unfold Loader.reach
    omega
  case isFalse fresh =>
    apply within_goto _ (Nat.zero_le _)
    have paid := machine.loader.reach_cons (walkOf machine.frames) name known idle fresh
    have short := machine.loader.dependencies_length name
    simp only [Control.cost]
    omega

theorem within_drive (name : String) :
    Within machine promised (machine.loader.reach (walkOf machine.frames)) (machine.drive name) := by
  have quiet := machine.loader.quiet_announce (.requested name)
  have spend : 1 < machine.loader.reach (walkOf machine.frames) := by unfold Loader.reach; omega
  apply Within.of_quiet quiet
  apply within_unlessBegun name .alreadyLoaded _ spend
  intro idle
  split
  case isTrue known =>
    have forgotten := (machine.loader.announce (.requested name)).quiet_forget name
    apply Within.of_quiet forgotten
    rw [← (quiet.trans forgotten).reach]
    exact within_beginWalk name (Registry.contains_iff _ _ |>.mp known) (forgotten.status ▸ idle)
  case isFalse unknown =>
    exact within_postponeUnknown name (Bool.not_eq_true _ ▸ unknown) spend

theorem promised_runTarget (name : String) (target : Option Target) :
    (machine.runTarget name target).promised =
      machine.base + 1 + (target.map Target.weight).getD 0 := by
  cases target with
  | none => rfl
  | some target =>
      cases target with
      | noop => rfl
      | program actions =>
          simp only [runTarget, Machine.promised, goto, withLoader, base, Control.promised,
            Option.map_some, Option.getD_some, Target.weight]
          rw [(machine.loader.quiet_note (.started name)).stored]
          omega

theorem within_load (name : String) (spend : 1 < cost) :
    Within machine promised cost (machine.load name) := by
  apply within_unlessBegun name .loaded _ spend
  intro idle
  unfold Registry.takeTarget?
  cases found : machine.loader.registry.lookup? name with
  | none =>
      apply within_postponeUnknown name _ spend
      have absent := (Registry.lookup?_eq_none _ _).mp found
      exact Bool.eq_false_iff.mpr (mt (Registry.contains_iff _ _).mp absent)
  | some library =>
      have started : machine.loader.tracker.start name =
          .ok (machine.loader.tracker.setStatus name .loading) := if_pos idle
      simp only [Option.map_some, started]
      refine Or.inl ?_
      have share := Registry.storeOf_start machine.loader.status
        (machine.loader.tracker.setStatus name .loading).status name library
        machine.loader.registry.libraries.entries found idle
        (fun other => machine.loader.tracker.status_setStatus name other .loading)
      rw [promised_runTarget]
      simp only [base, withLoader, Loader.stored, Library.weight] at share ⊢
      have same : ∀ loader : Loader, loader.status = loader.tracker.status := fun _ => rfl
      simp only [same, Loader.tracker_announce, Loader.registry_announce] at share ⊢
      simp only [Table.insert]
      omega

theorem within_walk (library : String) (dependencies : List String) :
    Within machine promised
      (dependencies.length + 1 + machine.loader.reach (library :: walkOf machine.frames))
      (machine.walk library dependencies) := by
  have spend : 1 < dependencies.length + 1 +
      machine.loader.reach (library :: walkOf machine.frames) := by unfold Loader.reach; omega
  cases dependencies with
  | nil => exact within_load library spend
  | cons dependency rest =>
      simp only [walk]
      split
      case h_1 =>
        apply within_goto _ (Nat.zero_le _)
        simp only [Control.cost, List.length_cons]
        omega
      case h_2 =>
        split
        · exact within_reject library _ spend
        · exact within_postpone library dependency spend
      case h_3 idle =>
        apply within_push _ _ (Nat.zero_le _)
        simp only [Frame.cost, Control.cost, idle, walkOf, List.length_cons, reduceCtorEq, if_false]
        omega

theorem within_failTarget (library cause : String) (promise : 0 < promised) :
    Within machine promised cost (machine.failTarget library cause) := by
  have quiet : machine.loader.Quiet (machine.loader.failTarget library cause).1 :=
    .of_unresolved (Loader.registry_failTarget ..) (Loader.statuses_failTarget ..)
      (by simp [Loader.unresolved_failTarget])
  apply Within.of_quiet quiet
  exact Within.relax (within_reject library _ (Nat.lt_succ_self 1)) promise

theorem within_finishTarget (library : String) (promise : 0 < promised) :
    Within machine promised cost (machine.finishTarget library) := by
  unfold finishTarget
  split
  case h_1 => exact Within.relax (within_reject library _ (Nat.lt_succ_self 1)) promise
  case h_2 tracker waiting finished =>
    have moved : ∀ name, tracker.status name = .unloaded → machine.loader.status name = .unloaded := by
      intro name idle
      simp only [Tracker.finish] at finished
      split at finished
      · cases finished
      · split at finished
        · cases finished
          have changed := machine.loader.tracker.status_setStatus library name .loaded
          simp only [Tracker.status, Tracker.setStatus] at idle changed
          rw [idle] at changed
          by_cases same : name = library
          · simp [same] at changed
          · simpa [same, Loader.status, Tracker.status] using changed.symm
        · cases finished
    have fewer := Registry.storeOf_mono machine.loader.status tracker.status
      machine.loader.registry.libraries.entries moved
    refine Or.inl ?_
    have same : ∀ loader : Loader, loader.status = loader.tracker.status := fun _ => rfl
    simp only [Machine.promised, goto, withLoader, base, Control.promised, Loader.stored, same,
      Loader.tracker_announce, Loader.registry_announce] at fewer ⊢
    omega

theorem within_reply (caller : Caller) (answer : Answer) (promise : caller.promised ≤ promised)
    (spend : 1 < cost) : Within machine promised cost (machine.reply caller answer) := by
  cases caller with
  | outermost => exact within_goto _ (Nat.zero_le _) (Nat.lt_of_succ_lt spend)
  | program library action rest =>
      apply Within.of_quiet (machine.loader.quiet_note (.performed library action answer))
      simp only [Caller.promised] at promise
      simp only [reply]
      split
      case h_1 => exact within_goto _ promise spend
      case h_2 => exact within_failTarget library _ (by omega)

theorem within_perform (caller : Caller) (action : Action) :
    Within machine (caller.promised + action.weight) cost (machine.perform caller action) := by
  have positive : caller.promised < caller.promised + action.weight :=
    Nat.lt_add_of_pos_right action.weight_pos
  cases action with
  | register name dependencies target =>
      have replied : Within (machine.withLoader (machine.loader.declare name dependencies target))
          caller.promised 2 (machine.perform caller (.register name dependencies target)) :=
        within_reply caller .nothing (Nat.le_refl _) (Nat.lt_succ_self 1)
      have store := machine.loader.stored_declare name dependencies target
      simp only [Within, base, withLoader, Action.weight] at replied ⊢
      omega
  | request name strict =>
      refine Or.inl ?_
      simp only [perform, push, Machine.promised, base, promisedBy, Frame.promised,
        Control.promised, Action.weight]
      omega
  | requestAll start strict =>
      refine Or.inl ?_
      simp only [perform, goto, Machine.promised, base, Control.promised, Action.weight]
      omega
  | fail message =>
      exact Within.relax (within_reply caller .nothing (Nat.le_refl _) (Nat.lt_succ_self 1)) positive
  | query query =>
      exact Within.relax (within_reply caller _ (Nat.le_refl _) (Nat.lt_succ_self 1)) positive

theorem within_settle (verdict : Verdict) (names : List String) :
    Within machine promised (machine.loader.settling names) (machine.settle verdict names) := by
  cases names with
  | cons name rest =>
      have quiet := (machine.loader.quiet_forget name).trans
        ((machine.loader.forget name).quiet_announce (.resumed name))
      have beyond : ((machine.loader.forget name).announce (.resumed name)).dueBeyond rest ≤
          machine.loader.dueBeyond (name :: rest) := by
        have narrowed : (machine.loader.forget name).due = machine.loader.due.filter (· ≠ name) := by
          simp only [Loader.due, Loader.forget, List.filter_filter, Bool.and_comm]
        have kept : ((machine.loader.forget name).announce (.resumed name)).due =
            (machine.loader.forget name).due := rfl
        rw [Loader.dueBeyond, Loader.dueBeyond, kept, narrowed, List.filter_filter]
        refine Nat.le_of_eq (congrArg List.length (congrArg (List.filter · _) ?_))
        funext other
        by_cases same : other = name <;> simp [same]
      have scaled := Nat.mul_le_mul_right (machine.loader.reach [] + 4) beyond
      have frames := quiet.costOf machine.frames
      refine Or.inr ⟨?_, ?_⟩
      · simp only [settle, push, withLoader, Machine.promised, base, promisedBy, Frame.promised,
          Control.promised, quiet.stored]
        omega
      · simp only [settle, push, withLoader, Machine.cost, frameCost, costOf, Frame.cost,
          Control.cost, walkOf, Loader.settling, quiet.series, quiet.reach] at frames ⊢
        simp only [Loader.series, List.length_cons, Nat.succ_mul]
        omega
  | nil =>
      simp only [settle]
      split
      case h_1 =>
        apply Within.of_quiet machine.loader.quiet_conclude
        apply within_goto _ (Nat.zero_le _)
        simp only [Control.cost, Loader.settling]
        omega
      case h_2 due pending =>
        apply within_goto _ (Nat.zero_le _)
        have none_beyond : machine.loader.dueBeyond machine.loader.due = 0 := by
          simp [Loader.dueBeyond]
        have all_beyond : machine.loader.dueBeyond [] = machine.loader.due.length := by
          simp [Loader.dueBeyond]
        have some_due : 0 < machine.loader.due.length := List.length_pos_iff.mpr pending
        simp only [Control.cost, Loader.settling, none_beyond, all_beyond, Loader.series,
          List.length_nil, Nat.zero_mul, Nat.mul_add]
        omega

theorem within_sweep (caller : Caller) (before : Nat) (errors : List LoadError)
    (names : List String) :
    Within machine caller.promised (machine.loader.series names + caller.cost machine.loader)
      (machine.sweep caller before errors names) := by
  cases names with
  | cons name rest =>
      apply within_push _ _ (Nat.le_refl _)
      simp only [Frame.cost, Control.cost, walkOf, Loader.series, List.length_cons, Nat.succ_mul]
      omega
  | nil =>
      simp only [Loader.series, List.length_nil, Nat.zero_mul, Nat.zero_add]
      cases caller with
      | outermost => exact within_goto _ (Nat.zero_le _) (Nat.lt_succ_self _)
      | program library action rest =>
          exact within_reply _ _ (Nat.le_refl _) (by simp [Caller.cost])

theorem within_resume (library : String) (names : List String) :
    Within machine promised (machine.loader.series names + 2) (machine.resume library names) := by
  cases names with
  | cons name rest =>
      have quiet := machine.loader.quiet_announce (.resumed name)
      apply Within.of_quiet quiet
      rw [← quiet.series]
      apply within_push _ _ (Nat.zero_le _)
      simp only [withLoader, Frame.cost, Control.cost, walkOf, Loader.series, List.length_cons,
        Nat.succ_mul]
      omega
  | nil => exact within_succeed .loaded (Nat.lt_add_left _ (Nat.lt_succ_self 1))

theorem within_receive (result : Except LoadError Outcome) (frame : Frame) :
    Within machine frame.promised (frame.cost machine.loader + 1) (machine.receive result frame) := by
  cases frame with
  | walking library dependency rest =>
      cases result with
      | error error =>
          apply within_reject
          simp only [Frame.cost]
          split <;> omega
      | ok outcome =>
          simp only [receive, Frame.cost]
          split
          case isTrue =>
            apply within_goto _ (Nat.zero_le _)
            have narrower := machine.loader.reach_le (library :: walkOf machine.frames)
            simp only [Control.cost]
            omega
          case isFalse => exact within_postpone library dependency (Nat.lt_succ_self 1)
  | requesting caller name =>
      cases caller with
      | outermost =>
          exact within_goto _ (Nat.zero_le _) (Nat.lt_succ_of_lt (Nat.lt_succ_self _))
      | program library action rest =>
          exact within_reply _ _ (Nat.le_refl _) (by simp [Frame.cost, Caller.cost])
  | sweeping caller before rest errors => exact within_goto _ (Nat.le_refl _) (Nat.lt_succ_self _)
  | resuming library rest =>
      have quiet := machine.loader.quiet_orphan result
      apply Within.of_quiet quiet
      apply within_goto _ (Nat.zero_le _)
      simp only [withLoader, Control.cost, Frame.cost, quiet.series]
      omega
  | settling verdict rest =>
      have quiet := machine.loader.quiet_orphan result
      apply Within.of_quiet quiet
      apply within_goto _ (Nat.zero_le _)
      exact Nat.lt_succ_of_le (quiet.settling rest)

def measure (machine : Machine) : Nat × Nat := (machine.promised, machine.cost)

theorem Within.lower {whole next : Machine} (within : Within machine promised cost next)
    (promise : whole.promised = machine.base + promised)
    (spend : whole.cost = machine.frameCost + cost) :
    Prod.Lex (· < ·) (· < ·) next.measure whole.measure := by
  unfold Within at within
  rw [← promise, ← spend] at within
  rcases within with less | ⟨noMore, less⟩
  · exact .left _ _ less
  · rcases Nat.lt_or_eq_of_le noMore with fewer | equal
    · exact .left _ _ fewer
    · unfold measure
      rw [equal]
      exact .right _ less

theorem lower_of_step? {next : Machine} (step : machine.step? = some next) :
    Prod.Lex (· < ·) (· < ·) next.measure machine.measure := by
  obtain ⟨loader, frames, control⟩ := machine
  cases control with
  | drive name => cases step; exact (within_drive name).lower rfl rfl
  | walk library dependencies => cases step; exact (within_walk library dependencies).lower rfl rfl
  | perform library actions =>
      cases actions with
      | nil => cases step; exact (within_finishTarget library Nat.zero_lt_one).lower rfl rfl
      | cons action rest =>
          cases step
          refine (within_perform (.program library action rest) action).lower ?_ rfl
          simp only [Machine.promised, base, Control.promised, Caller.promised, Target.weightOf]
          omega
  | resume library waiting => cases step; exact (within_resume library waiting).lower rfl rfl
  | sweep caller before names errors =>
      cases step; exact (within_sweep caller before errors names).lower rfl rfl
  | settle verdict due => cases step; exact (within_settle verdict due).lower rfl rfl
  | done answer => cases step
  | answered result =>
      cases frames with
      | nil => cases step
      | cons frame frames =>
          cases step
          have within : Within ⟨loader, frames, .answered result⟩ _ _ _ :=
            within_receive result frame
          apply within.lower
          · simp only [Machine.promised, base, promisedBy, Control.promised]
            omega
          · simp only [Machine.cost, frameCost, costOf, Control.cost]
            omega

end Machine

end DemandLoad
