import DemandLoad.Machine

namespace DemandLoad

namespace Machine

variable (machine : Machine)

@[simp] theorem frames_goto (control : Control) : (machine.goto control).frames = machine.frames := rfl

@[simp] theorem frames_withLoader (loader : Loader) :
    (machine.withLoader loader).frames = machine.frames := rfl

@[simp] theorem frames_push (frame : Frame) (control : Control) :
    (machine.push frame control).frames = frame :: machine.frames := rfl

@[simp] theorem frames_succeed (outcome : Outcome) :
    (machine.succeed outcome).frames = machine.frames := rfl

@[simp] theorem frames_reject (name : String) (error : LoadError) :
    (machine.reject name error).frames = machine.frames := rfl

@[simp] theorem frames_postpone (name blocker : String) :
    (machine.postpone name blocker).frames = machine.frames := rfl

@[simp] theorem frames_postponeUnknown (name : String) :
    (machine.postponeUnknown name).frames = machine.frames := rfl

@[simp] theorem frames_failTarget (library cause : String) :
    (machine.failTarget library cause).frames = machine.frames := rfl

@[simp] theorem frames_conclude (verdict : Verdict) :
    (machine.conclude verdict).frames = machine.frames := rfl

theorem frames_unlessBegun (name : String) (whenLoaded : Outcome) (next : Machine)
    (same : next.frames = machine.frames) :
    (machine.unlessBegun name whenLoaded next).frames = machine.frames := by
  unfold unlessBegun
  split
  · exact same
  · rfl
  · split <;> rfl

@[simp] theorem frames_drive (name : String) : (machine.drive name).frames = machine.frames := by
  unfold drive
  apply frames_unlessBegun
  split
  · unfold beginWalk; split <;> rfl
  · rfl

@[simp] theorem frames_runTarget (name : String) (target : Option Target) :
    (machine.runTarget name target).frames = machine.frames := by
  unfold runTarget; split <;> rfl

@[simp] theorem frames_load (name : String) : (machine.load name).frames = machine.frames := by
  apply frames_unlessBegun
  split
  · rfl
  · rfl
  · exact frames_runTarget _ _ _

@[simp] theorem frames_finishTarget (library : String) :
    (machine.finishTarget library).frames = machine.frames := by
  unfold finishTarget; split <;> rfl

@[simp] theorem frames_reply (caller : Caller) (answer : Answer) :
    (machine.reply caller answer).frames = machine.frames := by
  unfold reply
  split
  · rfl
  · simp only
    split <;> rfl

theorem frames_walk (library : String) (dependencies : List String) :
    (machine.walk library dependencies).frames = machine.frames ∨
      ∃ frame, (machine.walk library dependencies).frames = frame :: machine.frames := by
  cases dependencies with
  | nil => exact .inl (frames_load machine library)
  | cons dependency rest =>
      simp only [walk]
      split
      · exact .inl rfl
      · split <;> exact .inl rfl
      · exact .inr ⟨_, rfl⟩

theorem frames_perform (caller : Caller) (action : Action) :
    (machine.perform caller action).frames = machine.frames ∨
      ∃ name, (machine.perform caller action).frames = .requesting caller name :: machine.frames := by
  cases action with
  | request name strict => exact .inr ⟨name, rfl⟩
  | register => exact .inl (frames_reply _ _ _)
  | requestAll => exact .inl rfl
  | fail => exact .inl (frames_reply _ _ _)
  | query => exact .inl (frames_reply _ _ _)

end Machine

def Frame.IsBottom : Frame → Prop
  | .requesting .outermost _ | .sweeping .outermost .. | .settling .. => True
  | _ => False

def Control.IsBottom : Control → Prop
  | .sweep .outermost .. | .settle .. | .done _ => True
  | _ => False

/-- The frame of the outermost request is at the bottom of the stack, or about to be pushed. -/
structure Machine.Grounded (machine : Machine) : Prop where
  control : machine.frames = [] → machine.control.IsBottom
  frames : ∀ bottom, machine.frames.getLast? = some bottom → bottom.IsBottom

namespace Machine.Grounded

variable {machine next : Machine}

theorem of_same (grounded : Grounded machine) (busy : machine.frames ≠ [])
    (same : next.frames = machine.frames) : Grounded next :=
  ⟨fun empty => absurd (same ▸ empty) busy, same ▸ grounded.frames⟩

theorem of_push (grounded : Grounded machine) {frame : Frame}
    (pushed : next.frames = frame :: machine.frames)
    (rooted : machine.frames = [] → frame.IsBottom) : Grounded next := by
  refine ⟨by simp [pushed], ?_⟩
  intro bottom last
  rw [pushed, List.getLast?_cons] at last
  cases below : machine.frames.getLast? with
  | none =>
      simp only [below, Option.getD_none, Option.some.injEq] at last
      exact last ▸ rooted (List.getLast?_eq_none_iff.mp below)
  | some lowest =>
      simp only [below, Option.getD_some, Option.some.injEq] at last
      exact last ▸ grounded.frames lowest below

theorem of_control (grounded : Grounded machine) (same : next.frames = machine.frames)
    (served : next.control.IsBottom) : Grounded next :=
  ⟨fun _ => served, same ▸ grounded.frames⟩

theorem busy (grounded : Grounded machine) (idle : ¬ machine.control.IsBottom) :
    machine.frames ≠ [] :=
  fun empty => idle (grounded.control empty)

theorem receive {loader : Loader} {frame : Frame} {frames : List Frame}
    {result : Except LoadError Outcome}
    (grounded : Grounded ⟨loader, frame :: frames, .answered result⟩) :
    Grounded (Machine.receive ⟨loader, frames, .answered result⟩ result frame) := by
  have below : ∀ bottom, frames.getLast? = some bottom → bottom.IsBottom := by
    intro bottom last
    exact grounded.frames bottom (by rw [List.getLast?_cons, last]; rfl)
  have only : frames = [] → frame.IsBottom := by
    rintro rfl
    exact grounded.frames frame rfl
  have kept : ∀ next : Machine, next.frames = frames → ¬ frame.IsBottom → Grounded next := by
    intro next same inner
    exact ⟨fun empty => absurd (only (same ▸ empty)) inner, same ▸ below⟩
  have served : ∀ next : Machine, next.frames = frames → next.control.IsBottom → Grounded next :=
    fun next same bottom => ⟨fun _ => bottom, same ▸ below⟩
  cases frame with
  | walking library dependency rest =>
      refine kept _ ?_ id
      unfold Machine.receive
      cases result with
      | error => rfl
      | ok => simp only; split <;> rfl
  | requesting caller name =>
      cases caller with
      | outermost => exact served _ rfl trivial
      | program => exact kept _ (frames_reply _ _ _) id
  | sweeping caller before rest errors =>
      cases caller with
      | outermost => exact served _ rfl trivial
      | program => exact kept _ rfl id
  | resuming => exact kept _ rfl id
  | settling => exact served _ rfl trivial

theorem step (grounded : Grounded machine) (step : machine.step? = some next) : Grounded next := by
  obtain ⟨loader, frames, control⟩ := machine
  cases control with
  | drive name => cases step; exact grounded.of_same (grounded.busy id) (frames_drive _ _)
  | walk library dependencies =>
      cases step
      rcases frames_walk ⟨loader, frames, .walk library dependencies⟩ library dependencies with
        same | ⟨frame, pushed⟩
      · exact grounded.of_same (grounded.busy id) same
      · exact grounded.of_push pushed (fun empty => absurd empty (grounded.busy id))
  | perform library actions =>
      cases actions with
      | nil => cases step; exact grounded.of_same (grounded.busy id) (frames_finishTarget _ _)
      | cons action rest =>
          cases step
          rcases frames_perform ⟨loader, frames, .perform library (action :: rest)⟩
            (.program library action rest) action with same | ⟨name, pushed⟩
          · exact grounded.of_same (grounded.busy id) same
          · exact grounded.of_push pushed (fun empty => absurd empty (grounded.busy id))
  | resume library waiting =>
      cases step
      cases waiting with
      | nil => exact grounded.of_same (grounded.busy id) rfl
      | cons name rest => exact grounded.of_push rfl (fun empty => absurd empty (grounded.busy id))
  | sweep caller before names errors =>
      cases step
      cases caller with
      | outermost =>
          cases names with
          | nil => exact grounded.of_control rfl trivial
          | cons name rest => exact grounded.of_push rfl (fun _ => trivial)
      | program =>
          cases names with
          | nil => exact grounded.of_same (grounded.busy id) (frames_reply _ _ _)
          | cons name rest =>
              exact grounded.of_push rfl (fun empty => absurd empty (grounded.busy id))
  | settle verdict due =>
      cases step
      cases due with
      | nil =>
          simp only [settle]
          split
          · exact grounded.of_control rfl trivial
          · exact grounded.of_control rfl trivial
      | cons name rest => exact grounded.of_push rfl (fun _ => trivial)
  | done answer => cases step
  | answered result =>
      cases frames with
      | nil => cases step
      | cons frame frames => cases step; exact grounded.receive

theorem start (loader : Loader) (action : Action) : Grounded (Machine.start loader action) := by
  cases action with
  | request name strict => exact ⟨by simp [Machine.start, perform], by
      intro bottom last
      cases last
      trivial⟩
  | register => exact ⟨fun _ => trivial, by simp [Machine.start, perform]⟩
  | requestAll => exact ⟨fun _ => trivial, by simp [Machine.start, perform]⟩
  | fail => exact ⟨fun _ => trivial, by simp [Machine.start, perform]⟩
  | query => exact ⟨fun _ => trivial, by simp [Machine.start, perform]⟩

theorem done (grounded : Grounded machine) (rest : machine.step? = none) :
    ∃ answer, machine.control = .done answer := by
  obtain ⟨loader, frames, control⟩ := machine
  cases control with
  | done answer => exact ⟨answer, rfl⟩
  | answered result =>
      cases frames with
      | nil => exact (grounded.control rfl).elim
      | cons frame frames => cases rest
  | perform library actions => cases actions <;> cases rest
  | drive | walk | resume | sweep | settle => cases rest

end Machine.Grounded

end DemandLoad
