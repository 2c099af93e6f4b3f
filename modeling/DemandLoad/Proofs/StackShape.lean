import DemandLoad.Proofs.PassRuns

namespace DemandLoad

def Caller.library? : Caller → Option String
  | .outermost => none
  | .program library _ _ => some library

def Frame.subject? : Frame → Option String
  | .walking library _ _ | .resuming library _ => some library
  | .requesting caller _ | .sweeping caller _ _ _ => caller.library?
  | .settling _ _ => none

def Control.subject? : Control → Option String
  | .drive name | .walk name _ | .perform name _ | .resume name _ => some name
  | .sweep caller _ _ _ => caller.library?
  | .settle _ _ | .answered _ | .done _ => none

def Frame.awaited? : Frame → Option String
  | .walking _ dependency _ => some dependency
  | .requesting _ name => some name
  | .sweeping _ _ _ _ | .resuming _ _ | .settling _ _ => none

def Control.inHand? : Control → Option Frame
  | .walk library (dependency :: rest) => some (.walking library dependency rest)
  | .perform library (.request name strict :: rest) =>
    some (.requesting (.program library (.request name strict) rest) name)
  | .resume library (_ :: rest) => some (.resuming library rest)
  | .sweep caller before (_ :: rest) errors => some (.sweeping caller before rest errors)
  | .settle verdict (_ :: rest) => some (.settling verdict rest)
  | _ => none

namespace Control

variable {control : Control} {library name : String} {rest : List String}

theorem walk_of_inHand? (inHand : control.inHand? = some (.walking library name rest)) :
    control = .walk library (name :: rest) := by
  unfold inHand? at inHand
  split at inHand <;> cases inHand
  rfl

theorem resume_of_inHand? (inHand : control.inHand? = some (.resuming library rest)) :
    ∃ waiting, control = .resume library waiting := by
  unfold inHand? at inHand
  split at inHand <;> cases inHand
  exact ⟨_, rfl⟩

theorem sweep_of_inHand? {caller : Caller} {before : Nat} {errors : List LoadError}
    (inHand : control.inHand? = some (.sweeping caller before rest errors)) :
    ∃ name, control = .sweep caller before (name :: rest) errors := by
  unfold inHand? at inHand
  split at inHand <;> cases inHand
  exact ⟨_, rfl⟩

theorem settle_of_inHand? {verdict : Verdict} (inHand : control.inHand? = some (.settling verdict rest)) :
    ∃ name, control = .settle verdict (name :: rest) := by
  unfold inHand? at inHand
  split at inHand <;> cases inHand
  exact ⟨_, rfl⟩

theorem inHand?_ne_outermost : control.inHand? ≠ some (.requesting .outermost name) := by
  intro inHand
  unfold inHand? at inHand
  split at inHand <;> cases inHand

end Control

def TopAwaits (property : String → Prop) : List Frame → Prop
  | [] => True
  | frame :: _ => ∀ awaited ∈ frame.awaited?, property awaited

theorem TopAwaits.imp {property weaker : String → Prop} {frames : List Frame}
    (awaits : TopAwaits property frames) (weaken : ∀ name, property name → weaker name) :
    TopAwaits weaker frames := by
  cases frames with
  | nil => trivial
  | cons frame frames => exact fun awaited known => weaken awaited (awaits awaited known)

theorem TopAwaits.of_eq {property : String → Prop} {frames : List Frame} {name : String}
    (awaits : TopAwaits (· = name) frames) (holds : property name) : TopAwaits property frames :=
  awaits.imp (by rintro _ rfl; exact holds)

def StackedFrames : List Frame → Prop
  | [] => True
  | frame :: frames =>
    (frame.IsBottom → frames = []) ∧ (∀ subject ∈ frame.subject?, TopAwaits (· = subject) frames) ∧ StackedFrames frames

structure Machine.Stacked (machine : Machine) : Prop where
  frames : StackedFrames machine.frames
  control : ∀ subject ∈ machine.control.subject?, TopAwaits (· = subject) machine.frames
  bottom : machine.control.IsBottom → machine.frames = []

namespace Machine

variable {machine next : Machine} {loader : Loader} {frames : List Frame} {name blocker : String}

/-- How a step changes the stack: it leaves it, pushes the frame that its control has in hand, or pops the frame
that an answer is for. -/
inductive Restacked (machine next : Machine) : Prop
  | kept (same : next.frames = machine.frames)
  | pushed (frame : Frame) (frames : next.frames = frame :: machine.frames)
      (inHand : machine.control.inHand? = some frame)
  | popped (frame : Frame) (frames : machine.frames = frame :: next.frames)
      (result : Except LoadError Outcome) (control : machine.control = .answered result)

theorem Step.restacked (step : Step machine next) : Restacked machine next := by
  cases step with
  | succeed reason => cases reason <;> exact .kept rfl
  | remember reason => cases reason <;> exact .kept rfl
  | reject reason =>
      cases reason
      case passedOn => exact .popped _ rfl _ rfl
      all_goals exact .kept rfl
  | postpone reason =>
      cases reason
      case dependencyWaits => exact .popped _ rfl _ rfl
      all_goals exact .kept rfl
  | advance reason =>
      cases reason
      case loadedNow => exact .popped _ rfl _ rfl
      case loadedBefore => exact .kept rfl
  | goOn reason =>
      cases reason
      case requested => exact .popped _ rfl _ rfl
      all_goals exact .kept rfl
  | fail reason =>
      cases reason
      case requested => exact .popped _ rfl _ rfl
      all_goals exact .kept rfl
  | descend | call | resumeNext | sweepNext | settleNext => exact .pushed _ rfl rfl
  | returned | sweptOne | resumedOne | settledOne => exact .popped _ rfl _ rfl
  | enter | begin | finish | declare | callAll | sweepEnd | settleRound | conclude => exact .kept rfl

theorem Step.frames_of_answered {frame : Frame} {result : Except LoadError Outcome}
    (step : Step ⟨loader, frame :: frames, .answered result⟩ next) : next.frames = frames := by
  cases step with
  | succeed reason => cases reason
  | remember reason => cases reason
  | reject reason => cases reason; rfl
  | postpone reason => cases reason; rfl
  | advance reason => cases reason; rfl
  | goOn reason => cases reason; rfl
  | fail reason => cases reason; rfl
  | returned | sweptOne | resumedOne | settledOne => rfl

theorem Step.mem_frames {frame : Frame} (step : Step machine next) (member : frame ∈ next.frames) :
    frame ∈ machine.frames ∨ machine.control.inHand? = some frame := by
  cases step.restacked with
  | kept same => exact .inl (same ▸ member)
  | pushed top frames inHand =>
      rw [frames] at member
      rcases List.mem_cons.mp member with rfl | below
      · exact .inr inHand
      · exact .inl below
  | popped top frames result control =>
      rw [frames]
      exact .inl (List.mem_cons_of_mem _ member)

theorem Step.suffix_frames {frame : Frame} (step : Step machine next)
    (standing : frame :: frames <:+ next.frames) :
    frame :: frames <:+ machine.frames ∨
      machine.control.inHand? = some frame ∧ frames = machine.frames := by
  cases step.restacked with
  | kept same => exact .inl (same ▸ standing)
  | pushed top pushed inHand =>
      rw [pushed] at standing
      rcases List.suffix_cons_iff.mp standing with same | below
      · cases same
        exact .inr ⟨inHand, rfl⟩
      · exact .inl below
  | popped top popped result control =>
      rw [popped]
      exact .inl (standing.trans (List.suffix_cons ..))

def Leaves (frames : List Frame) (name : String) : Prop := StackedFrames frames ∧ TopAwaits (· = name) frames

theorem Succeeds.leaves {outcome : Outcome} (stacked : machine.Stacked)
    (reason : Succeeds machine loader frames name outcome) : Leaves frames name := by
  cases reason <;> exact ⟨stacked.frames, stacked.control _ rfl⟩

theorem Rejects.leaves {error : LoadError} (stacked : machine.Stacked)
    (reason : Rejects machine loader frames name error) : Leaves frames name := by
  cases reason
  case passedOn => exact ⟨stacked.frames.2.2, stacked.frames.2.1 _ rfl⟩
  all_goals exact ⟨stacked.frames, stacked.control _ rfl⟩

theorem Postpones.leaves (stacked : machine.Stacked)
    (reason : Postpones machine loader frames name blocker) : Leaves frames name := by
  cases reason
  case dependencyWaits => exact ⟨stacked.frames.2.2, stacked.frames.2.1 _ rfl⟩
  all_goals exact ⟨stacked.frames, stacked.control _ rfl⟩

theorem Remembers.leaves (stacked : machine.Stacked)
    (reason : Remembers machine loader frames name) : Leaves frames name := by
  cases reason <;> exact ⟨stacked.frames, stacked.control _ rfl⟩

theorem Advances.leaves {dependency : String} {rest : List String} (stacked : machine.Stacked)
    (reason : Advances machine frames name dependency rest) : Leaves frames name := by
  cases reason
  case loadedBefore => exact ⟨stacked.frames, stacked.control _ rfl⟩
  case loadedNow => exact ⟨stacked.frames.2.2, stacked.frames.2.1 _ rfl⟩

theorem Answers.leaves {library : String} {action : Action} {rest : List Action} {answer : Answer}
    (stacked : machine.Stacked) (reason : Answers machine frames library action rest answer) :
    Leaves frames library := by
  cases reason
  case requested => exact ⟨stacked.frames.2.2, stacked.frames.2.1 _ rfl⟩
  all_goals exact ⟨stacked.frames, stacked.control _ rfl⟩

theorem Stacked.answered (stacked : StackedFrames frames) (result : Except LoadError Outcome) :
    Stacked ⟨loader, frames, .answered result⟩ :=
  ⟨stacked, by simp [Control.subject?], False.elim⟩

theorem Stacked.of_leaves {control : Control} (leaves : Leaves frames name)
    (subject : control.subject? = some name) (inner : ¬ control.IsBottom) :
    Stacked ⟨loader, frames, control⟩ := by
  refine ⟨leaves.1, ?_, fun bottom => absurd bottom inner⟩
  intro other same
  rw [subject] at same
  cases same
  exact leaves.2

theorem Stacked.push {frame : Frame} (stacked : StackedFrames (frame :: frames))
    (awaited : ∀ other ∈ frame.awaited?, other = name) :
    Stacked ⟨loader, frame :: frames, .drive name⟩ := by
  refine ⟨stacked, ?_, False.elim⟩
  intro subject same
  cases same
  exact awaited

theorem Stacked.sweeping {caller : Caller} {before : Nat} {names rest : List String}
    {errors more : List LoadError} (stacked : Stacked ⟨loader, frames, .sweep caller before names errors⟩) :
    StackedFrames (.sweeping caller before rest more :: frames) := by
  refine ⟨?_, stacked.control, stacked.frames⟩
  cases caller with
  | outermost => exact stacked.bottom
  | program => exact False.elim

theorem Stacked.step (stacked : machine.Stacked) (step : Step machine next) : next.Stacked := by
  cases step with
  | succeed reason => exact .answered (reason.leaves stacked).1 _
  | reject reason => exact .answered (reason.leaves stacked).1 _
  | postpone reason => exact .answered (reason.leaves stacked).1 _
  | remember reason => exact .answered (reason.leaves stacked).1 _
  | fail reason failing => exact .answered (reason.leaves stacked).1 _
  | advance reason => exact .of_leaves (reason.leaves stacked) rfl id
  | goOn reason sound => exact .of_leaves (reason.leaves stacked) rfl id
  | enter | begin | finish | declare =>
      exact .of_leaves ⟨stacked.frames, stacked.control _ rfl⟩ rfl id
  | callAll => exact .of_leaves ⟨stacked.frames, stacked.control _ rfl⟩ rfl id
  | descend => exact .push ⟨False.elim, stacked.control, stacked.frames⟩ (by simp [Frame.awaited?])
  | call => exact .push ⟨False.elim, stacked.control, stacked.frames⟩ (by simp [Frame.awaited?])
  | resumeNext => exact .push ⟨False.elim, stacked.control, stacked.frames⟩ (by simp [Frame.awaited?])
  | sweepNext => exact .push stacked.sweeping (by simp [Frame.awaited?])
  | settleNext =>
      exact .push ⟨fun _ => stacked.bottom trivial, by simp [Frame.subject?], stacked.frames⟩
        (by simp [Frame.awaited?])
  | sweepEnd | settleRound | conclude =>
      exact ⟨stacked.frames, by simp [Control.subject?, Machine.conclude, goto],
        fun _ => stacked.bottom trivial⟩
  | returned =>
      exact ⟨stacked.frames.2.2, by simp [Control.subject?], fun _ => stacked.frames.1 trivial⟩
  | @sweptOne _ _ caller =>
      refine ⟨stacked.frames.2.2, stacked.frames.2.1, ?_⟩
      cases caller with
      | outermost => exact stacked.frames.1
      | program => exact False.elim
  | resumedOne => exact ⟨stacked.frames.2.2, stacked.frames.2.1, False.elim⟩
  | settledOne =>
      exact ⟨stacked.frames.2.2, by simp [Control.subject?], fun _ => stacked.frames.1 trivial⟩

theorem Stacked.start (loader : Loader) (action : Action) : (Machine.start loader action).Stacked := by
  cases action with
  | request name strict =>
      exact .push ⟨fun _ => rfl, by simp [TopAwaits], trivial⟩ (by simp [Frame.awaited?])
  | register | requestAll | fail | query =>
      exact ⟨trivial, by simp [Machine.start, perform, reply, goto, withLoader, Control.subject?,
        Caller.library?], fun _ => rfl⟩

end Machine

end DemandLoad
