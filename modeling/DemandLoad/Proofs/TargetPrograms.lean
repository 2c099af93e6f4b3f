import DemandLoad.Proofs.ForwardProgress
import DemandLoad.Proofs.OutermostSweep

namespace DemandLoad

def Caller.program? : Caller → Option (String × List Action)
  | .outermost => none
  | .program library _ rest => some (library, rest)

def Frame.program? : Frame → Option (String × List Action)
  | .requesting caller _ | .sweeping caller _ _ _ => caller.program?
  | .walking _ _ _ | .resuming _ _ | .settling _ _ => none

def Control.program? : Control → Option (String × List Action)
  | .perform library actions => some (library, actions)
  | .sweep caller _ _ _ => caller.program?
  | _ => none

namespace Machine

variable {machine next : Machine} {loader : Loader} {frames : List Frame} {name library : String}
  {actions rest : List Action} {before : Nat} {names : List String} {errors : List LoadError}

/-- The target of `library` runs, and has still to perform `actions`. -/
def Performs (machine : Machine) (library : String) (actions : List Action) : Prop :=
  machine.control.program? = some (library, actions) ∨
    ∃ frame ∈ machine.frames, frame.program? = some (library, actions)

theorem Performs.of_inHand {frame : Frame} (inHand : machine.control.inHand? = some frame)
    (program : frame.program? = some (library, actions)) :
    machine.Performs library actions ∨ ∃ action, machine.Performs library (action :: actions) := by
  unfold Control.inHand? at inHand
  split at inHand <;> cases inHand
  case h_2 control =>
    cases program
    exact .inr ⟨_, .inl (by rw [control]; rfl)⟩
  case h_4 control => exact .inl (.inl (by rw [control]; exact program))
  all_goals cases program

theorem Answers.performs {action : Action} {answer : Answer}
    (reason : Answers machine frames library action rest answer) :
    machine.Performs library rest ∨ machine.Performs library (action :: rest) := by
  cases reason with
  | told => exact .inr (.inl rfl)
  | failing => exact .inr (.inl rfl)
  | swept => exact .inl (.inl rfl)
  | requested => exact .inl (.inr ⟨_, List.mem_cons_self .., rfl⟩)

theorem Step.performs (step : Step machine next) (performs : next.Performs library actions) :
    (machine.Performs library actions ∨ ∃ action, machine.Performs library (action :: actions)) ∨
      machine.Starts next library ∧ ∃ record, machine.loader.registry.lookup? library = some record ∧
        actions = Target.actions record.target := by
  rcases performs with control | ⟨frame, member, program⟩
  · cases step with
    | goOn reason =>
        cases control
        exact .inl (reason.performs.imp_right fun earlier => ⟨_, earlier⟩)
    | declare | callAll =>
        cases control
        exact .inl (.inr ⟨_, .inl rfl⟩)
    | sweptOne => exact .inl (.inl (.inr ⟨_, List.mem_cons_self .., control⟩))
    | begin idle taken =>
        cases control
        obtain ⟨record, known, row⟩ := Option.map_eq_some_iff.mp taken
        cases row
        exact .inr ⟨rfl, record, known, rfl⟩
    | _ => cases control
  · rcases step.mem_frames member with below | inHand
    · exact .inl (.inl (.inr ⟨frame, below, program⟩))
    · exact .inl (Performs.of_inHand inHand program)

theorem not_performs_start (loader : Loader) (action : Action) :
    ¬ (Machine.start loader action).Performs library actions := by
  rintro (control | ⟨frame, member, program⟩)
  · cases action <;> cases control
  · cases action with
    | request =>
        cases List.mem_singleton.mp member
        cases program
    | register | requestAll | fail | query => cases member

theorem Step.sweep_origin {caller : Caller} (step : Step machine next)
    (control : next.control = .sweep caller before names errors) :
    (∃ library action rest, caller = .program library action rest ∧
        machine.control = .perform library (action :: rest) ∧ next.frames = machine.frames ∧
        before = machine.loader.loaded.length) ∨
      ∃ earlier, machine.frames = .sweeping caller before names earlier :: next.frames := by
  cases step with
  | callAll => cases control; exact .inl ⟨_, _, _, rfl, rfl, rfl, rfl⟩
  | sweptOne => cases control; exact .inr ⟨_, rfl⟩
  | _ => cases control

end Machine

namespace Pass

variable {pass : Pass} {count : Nat} {library : String} {frames : List Frame} {before : Nat}
  {caller : Caller}

/-- `actions` are a suffix of the target that the library started with at that moment. -/
structure Origin (pass : Pass) (started count : Nat) (library : String) (actions : List Action) : Prop where
  earlier : started < count
  starts : (pass.state started).Starts (pass.state (started + 1)) library
  left : ∃ record, (pass.state started).loader.registry.lookup? library = some record ∧
    actions <:+ Target.actions record.target

theorem exists_origin {actions : List Action} (performs : (pass.state count).Performs library actions) :
    ∃ started, pass.Origin started count library actions := by
  induction count generalizing actions with
  | zero => exact absurd performs (Machine.not_performs_start _ _)
  | succ count ih =>
      -- Going back in time a program only gets longer, until its target starts.
      have later : ∀ {more}, actions <:+ more → (pass.state count).Performs library more →
          ∃ started, pass.Origin started (count + 1) library actions := by
        intro more suffix performed
        obtain ⟨started, earlier, starts, record, known, left⟩ := ih performed
        exact ⟨started, Nat.lt_succ_of_lt earlier, starts, record, known, suffix.trans left⟩
      rcases pass.state_cases count with same | step
      · exact later List.suffix_rfl (same ▸ performs)
      · rcases step.performs performs with (kept | ⟨action, longer⟩) | ⟨starts, record, known, rfl⟩
        · exact later List.suffix_rfl kept
        · exact later (List.suffix_cons ..) longer
        · exact ⟨count, Nat.lt_succ_self count, starts, record, known, List.suffix_rfl⟩

/-- The target of `library` performed `action` at `called`, and has not gone on with `rest` since. -/
structure Called (pass : Pass) (called count : Nat) (library : String) (action : Action)
    (rest : List Action) (frames : List Frame) : Prop where
  earlier : called < count
  control : (pass.state called).control = .perform library (action :: rest)
  below : (pass.state called).frames = frames
  standing : ∀ between, called ≤ between → between ≤ count → frames <:+ (pass.state between).frames

def MarkedFrom (pass : Pass) (count : Nat) (frames : List Frame) (before : Nat) : Caller → Prop
  | .outermost => before = pass.loader.loaded.length
  | .program library action rest => ∃ called, pass.Called called count library action rest frames ∧
      before = (pass.state called).loader.loaded.length

theorem MarkedFrom.later (marked : pass.MarkedFrom count frames before caller)
    (standing : frames <:+ (pass.state (count + 1)).frames) :
    pass.MarkedFrom (count + 1) frames before caller := by
  cases caller with
  | outermost => exact marked
  | program library action rest =>
      obtain ⟨called, ⟨earlier, control, below, stands⟩, mark⟩ := marked
      refine ⟨called, ⟨Nat.lt_succ_of_lt earlier, control, below, ?_⟩, mark⟩
      intro between after reached
      rcases Nat.le_succ_iff.mp reached with early | rfl
      · exact stands between after early
      · exact standing

/-- Every sweep records the length of the load order at its call. -/
structure Marked (pass : Pass) (count : Nat) : Prop where
  control : ∀ caller before names errors, (pass.state count).control = .sweep caller before names errors →
    pass.MarkedFrom count (pass.state count).frames before caller
  frames : ∀ caller before rest errors frames,
    .sweeping caller before rest errors :: frames <:+ (pass.state count).frames →
      pass.MarkedFrom count frames before caller
  verdict : ∀ before errors, (pass.state count).Holds (.sweep before errors) →
    before = pass.loader.loaded.length

theorem Marked.step (marked : pass.Marked count)
    (step : Machine.Step (pass.state count) (pass.state (count + 1))) : pass.Marked (count + 1) := by
  constructor
  · intro caller before names errors control
    rcases step.sweep_origin control with ⟨library, action, rest, rfl, performs, same, mark⟩ | ⟨earlier, top⟩
    · refine ⟨count, ⟨Nat.lt_succ_self count, performs, same.symm, ?_⟩, mark⟩
      intro between after reached
      rcases Nat.le_succ_iff.mp reached with early | rfl
      · obtain rfl := Nat.le_antisymm early after
        exact ⟨[], same⟩
      · exact List.suffix_rfl
    · have standing : .sweeping caller before names earlier :: (pass.state (count + 1)).frames <:+
          (pass.state count).frames := top ▸ List.suffix_rfl
      exact (marked.frames _ _ _ _ _ standing).later List.suffix_rfl
  · intro caller before rest errors frames standing
    have below : frames <:+ (pass.state (count + 1)).frames := (List.suffix_cons ..).trans standing
    rcases step.suffix_frames standing with old | ⟨inHand, rfl⟩
    · exact (marked.frames _ _ _ _ _ old).later below
    · obtain ⟨name, control⟩ := Control.sweep_of_inHand? inHand
      exact (marked.control _ _ _ _ control).later below
  · intro before errors holds
    rcases step.holds_sweep holds with held | control
    · exact marked.verdict before errors held
    · exact marked.control _ _ _ _ control

theorem Marked.rest (marked : pass.Marked count) (same : pass.state (count + 1) = pass.state count) :
    pass.Marked (count + 1) := by
  constructor
  · intro caller before names errors control
    rw [same] at control
    have marks := marked.control caller before names errors control
    rw [← same] at marks
    exact marks.later List.suffix_rfl
  · intro caller before rest errors frames standing
    have below : frames <:+ (pass.state (count + 1)).frames := (List.suffix_cons ..).trans standing
    rw [same] at standing
    exact (marked.frames _ _ _ _ _ standing).later below
  · rw [same]
    exact marked.verdict

theorem Marked.start (pass : Pass) : pass.Marked 0 := by
  obtain ⟨loader, reachable, action⟩ := pass
  constructor
  · intro caller before names errors control
    cases action <;> cases control
    rfl
  · intro caller before rest errors frames standing
    cases action with
    | request name strict =>
        rcases List.suffix_cons_iff.mp standing with same | below
        · cases same
        · cases List.suffix_nil.mp below
    | register | requestAll | fail | query => cases List.suffix_nil.mp standing
  · intro before errors holds
    exact absurd holds (Machine.not_holds_start _ _)

theorem marked (pass : Pass) (count : Nat) : pass.Marked count := by
  induction count with
  | zero => exact .start pass
  | succ count ih =>
      rcases pass.state_cases count with same | step
      · exact ih.rest same
      · exact ih.step step

end Pass

namespace Session

variable {session : Session} {moment : Moment} {frames : List Frame} {before : Nat} {caller : Caller}

theorem length_of_marked (marked : (session.pass moment.index).MarkedFrom moment.count frames before caller) :
    before ≤ (session.state moment).loader.loaded.length := by
  cases caller with
  | outermost =>
      have mark : before = (session.loader moment.index).loaded.length := marked
      rw [mark]
      exact (session.extends_pass moment.index moment.count).loaded.length_le
  | program library action rest =>
      obtain ⟨called, call, mark⟩ := marked
      have order : (⟨moment.index, called⟩ : Moment) ≤ moment := .inr ⟨rfl, Nat.le_of_lt call.earlier⟩
      rw [mark]
      exact (extends_later order).loaded.length_le

theorem loadedSince_of_answers {library : String} {action : Action} {rest : List Action}
    {names : List String} {errors : List LoadError}
    (answers : Machine.Answers (session.state moment) frames library action rest (.swept names errors)) :
    ∃ called, (session.pass moment.index).Called called moment.count library action rest frames ∧
      (session.state ⟨moment.index, called⟩).loader.LoadedSince (session.state moment).loader names := by
  have marked := ((session.pass moment.index).marked moment.count).control
  change ∀ caller before names errors, (session.state moment).control = .sweep caller before names errors →
    (session.pass moment.index).MarkedFrom moment.count (session.state moment).frames before caller at marked
  have tallied := session.tallied moment
  have extended : ∀ called, called < moment.count →
      (session.state ⟨moment.index, called⟩).loader.Extends (session.state moment).loader :=
    fun called early => extends_later (.inr ⟨rfl, Nat.le_of_lt early⟩)
  generalize session.state moment = machine at answers marked tallied extended
  cases answers
  obtain ⟨called, call, rfl⟩ := marked _ _ _ _ rfl
  exact ⟨called, call, (extended called call.earlier).loadedSince (session.tallied _) tallied⟩

theorem loadedSince_of_sweep {index : Nat} {stem : String} {strict : Bool}
    (sweeps : session.actions index = .requestAll stem strict) :
    ∃ names errors, ((session.loader index).perform (session.actions index)).2 = .swept names errors ∧
      (session.loader index).LoadedSince (session.loader (index + 1)) names := by
  let pass := session.pass index
  have asked : pass.action = .requestAll stem strict := sweeps
  obtain ⟨moment, verdict, concludes, served⟩ := pass.exists_concluded (by rw [asked]; trivial)
  obtain ⟨before, errors, rfl⟩ := (asked ▸ served).exists_errors
  have mark : before = (session.loader index).loaded.length :=
    (pass.marked moment).verdict before errors concludes.holds
  subst mark
  have performed := Pass.perform_of_concludes concludes
  generalize concluded : (pass.state moment).conclude (.sweep _ errors) = final at performed
  have after : session.loader (index + 1) = final.loader := congrArg Prod.fst performed
  obtain ⟨told, answer⟩ : ∃ told, final.answer =
      .swept (final.loader.loaded.drop (session.loader index).loaded.length) told := by
    subst concluded
    exact ⟨_, rfl⟩
  have last : session.state ⟨index, moment + 1⟩ = final :=
    (Pass.state_of_step concludes.step?_eq).trans concluded
  have extended := session.extends_pass index (moment + 1)
  rw [last, ← after] at extended
  rw [← after] at answer
  exact ⟨_, told, (congrArg Prod.snd performed).trans answer,
    extended.loadedSince (session.tallied_loader index) (session.tallied_loader (index + 1))⟩

/-- Statuses advance one at a time, and not at all from one pass to the next; a failed library stays loading;
and the load order lists each loaded library once. -/
structure StatusesAdvance (session : Session) : Prop where
  extended : ∀ earlier later, earlier ≤ later →
    (session.state earlier).loader.Extends (session.state later).loader
  gradual : ∀ moment name, ((session.state moment.next).loader.status name).stage ≤
    ((session.state moment).loader.status name).stage + 1
  handedOn : session.TrackerHandedOn
  failed : ∀ moment name, (session.state moment).loader.isFailed name = true →
    (session.state moment).loader.status name = .loading
  tallied : ∀ moment, (session.state moment).loader.Tallied

/-- A target starts at most once for a name, with the record of an unloaded library, and only its actions are
performed for the name. -/
structure TargetsRunOnce (session : Session) : Prop where
  starts : ∀ moment name, session.Starts moment name →
    (session.state moment).loader.status name = .unloaded ∧
      (session.state moment.next).loader.status name = .loading ∧
      ∃ record, (session.state moment).loader.registry.lookup? name = some record ∧
        (session.state moment.next).control = .perform name (Target.actions record.target)
  once : ∀ earlier later name, session.Starts earlier name → session.Starts later name → earlier = later
  late : ∀ earlier later name, earlier ≤ later → (session.state earlier).loader.status name ≠ .unloaded →
    ¬ session.Starts later name
  performs : ∀ moment name actions, (session.state moment).Performs name actions →
    ∃ started, (session.pass moment.index).Origin started moment.count name actions

/-- A sweep, of a target or of the outermost caller, returns what was loaded since its call. -/
structure SweepsReturnLoaded (session : Session) : Prop where
  bounded : ∀ moment caller before names errors,
    (session.state moment).control = .sweep caller before names errors ∨
      (session.state moment).Holds (.sweep before errors) →
    before ≤ (session.state moment).loader.loaded.length
  returned : ∀ moment frames library action rest names errors,
    Machine.Answers (session.state moment) frames library action rest (.swept names errors) →
    ∃ called, (session.pass moment.index).Called called moment.count library action rest frames ∧
      (session.state ⟨moment.index, called⟩).loader.LoadedSince (session.state moment).loader names
  swept : ∀ index stem strict, session.actions index = .requestAll stem strict →
    ∃ names errors, ((session.loader index).perform (session.actions index)).2 = .swept names errors ∧
      (session.loader index).LoadedSince (session.loader (index + 1)) names

structure ForwardProgress (session : Session) : Prop where
  statuses : session.StatusesAdvance
  runs : session.TargetsRunOnce
  sweeps : session.SweepsReturnLoaded

theorem statusesAdvance (session : Session) : session.StatusesAdvance where
  extended _ _ order := extends_later order
  gradual moment name := by
    rcases session.state_cases moment with same | step
    · rw [same]
      exact Nat.le_succ _
    · exact (step.stage (session.sound moment).active name).2
  handedOn := session.trackerHandedOn
  failed moment name failed := (session.sound moment).active.loading_of_failed name failed
  tallied := session.tallied

theorem targetsRunOnce (session : Session) : session.TargetsRunOnce where
  starts moment name starts := by
    have active := (session.sound moment).active
    exact ⟨starts.idle, starts.begun, (starts.step.begins active starts.idle starts.begun).2⟩
  once _ _ _ first second := starts_once first second
  late _ _ _ order begun := not_starts_of_begun order begun
  performs _ _ _ performs := Pass.exists_origin performs

theorem sweepsReturnLoaded (session : Session) : session.SweepsReturnLoaded where
  bounded moment caller before names errors sweeps := by
    have marked := (session.pass moment.index).marked moment.count
    rcases sweeps with control | holds
    · exact length_of_marked (marked.control _ _ _ _ control)
    · have mark : (session.pass moment.index).MarkedFrom moment.count [] before .outermost :=
        marked.verdict _ _ holds
      exact length_of_marked mark
  returned _ _ _ _ _ _ _ answers := loadedSince_of_answers answers
  swept _ _ _ sweeps := loadedSince_of_sweep sweeps

/-- Over a whole session no library is run twice and no status moves back, whatever targets do. -/
theorem forwardProgress (session : Session) : session.ForwardProgress where
  statuses := session.statusesAdvance
  runs := session.targetsRunOnce
  sweeps := session.sweepsReturnLoaded

/-- The target of `a` declares `a` anew, with a target that fails, and sweeps. -/
def redeclared : Session := .ofList ⟨false⟩ false [
  .register "a" [] (.program [.register "a" ["b"] (.program [.fail "again"]), .register "b" [] .noop,
    .requestAll "" false]),
  .requestAll "" false]

theorem forwardProgress_redeclared : redeclared.Starts ⟨1, 2⟩ "a" ∧
    (∀ moment, redeclared.Starts moment "a" → moment = ⟨1, 2⟩) ∧
    ((redeclared.loader 1).perform (redeclared.actions 1)).2 = .swept ["b", "a"] [] ∧
    (redeclared.loader 1).LoadedSince (redeclared.loader 2) ["b", "a"] := by
  have starts : redeclared.Starts ⟨1, 2⟩ "a" := by cbv
  have answer : ((redeclared.loader 1).perform (redeclared.actions 1)).2 = .swept ["b", "a"] [] := by cbv
  obtain ⟨names, errors, answered, since⟩ := (forwardProgress redeclared).sweeps.swept 1 "" false rfl
  cases answer.symm.trans answered
  exact ⟨starts, fun moment again => (forwardProgress redeclared).runs.once _ _ "a" again starts, answer, since⟩

end Session

end DemandLoad
