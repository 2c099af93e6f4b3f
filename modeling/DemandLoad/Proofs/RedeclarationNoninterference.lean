import DemandLoad.Proofs.LockstepSimulation
import DemandLoad.Proofs.SessionMoments
import DemandLoad.Proofs.UndeclaringPasses

/-!
What a library is declared with after its load has begun changes nothing: loaders that differ in the records of
such libraries give the same answers and events, but for those that show records and for the log of late
declarations.
-/

namespace DemandLoad

/-- Whether the answer shows the records of the registry, or the tables of the tracker in their order. -/
def Query.showsTables : Query → Bool
  | .lookup _ | .graph | .writeGraph _ | .inspect .registry | .inspect (.library _) | .inspect .tracker
  | .inspect .loader => true
  | .status _ | .loaded | .waiting | .queued _ | .names | .inspect .config => false

/-- The answer to the action, blank if it shows tables. -/
def Action.masked (action : Action) (answer : Answer) : Answer :=
  match action with
  | .query asked => if asked.showsTables then .nothing else answer
  | .register _ _ _ | .request _ _ | .requestAll _ _ | .fail _ => answer

/-- The event without what it shows of tables. The log entry of a late declaration is left out. -/
def Event.masked : Event → Option Event
  | .logged (.redeclaredLoading _ _ _) | .logged (.redeclaredLoaded _ _ _) => none
  | .performed library action answer => some (.performed library action (action.masked answer))
  | event => some event

def StepReport.masked (action : Action) (report : StepReport) : StepReport :=
  { report with answer := action.masked report.answer, events := report.events.filterMap Event.masked }

namespace Loader

/-- The loaders differ only in their journals, in the records of libraries that are not unloaded, and in the
order of the tables of their trackers. -/
structure Alike (one other : Loader) : Prop extends Similar one other, SameOutlets one other

/-- From `one` and `other`, two loaders have come to `left` and `right`, which are alike again and have
announced the same. -/
structure SameChange (one other left right : Loader) : Prop where
  alike : left.Alike right
  tables : other.tracker = one.tracker → right.tracker = left.tracker
  told : (other.since right).filterMap Event.masked = (one.since left).filterMap Event.masked

def maskedReports (loader : Loader) (actions : List Action) : List StepReport :=
  List.zipWith StepReport.masked actions (loader.performAll actions).2

section Alike

variable {one other left right : Loader}

theorem Similar.answer {query : Query} (similar : one.Similar other) (plain : query.showsTables = false)
    (config : other.config = one.config) : other.answer query = one.answer query := by
  cases query with
  | status name => exact congrArg₂ Reply.status (similar.status name) (similar.isFailed name)
  | loaded => exact congrArg Reply.list similar.loaded
  | waiting => exact congrArg Reply.count similar.tracker.waitingCount
  | queued name => exact congrArg Reply.list (similar.tracker.queue name)
  | names => exact congrArg Reply.names similar.names
  | lookup | graph | writeGraph => cases plain
  | inspect subject =>
      cases subject with
      | registry | library | tracker | loader => cases plain
      | config => simp only [Loader.answer, inspect?, config]

theorem Alike.masked_answer (alike : one.Alike other) (query : Query) :
    (Action.query query).masked (.told (other.answer query)) =
      (Action.query query).masked (.told (one.answer query)) := by
  cases plain : query.showsTables with
  | true => simp only [Action.masked, plain, if_true]
  | false => simp only [Action.masked, plain, alike.answer plain alike.config]

theorem Alike.abreast (alike : one.Alike other) :
    one.Abreast Event.masked (other.tracker = one.tracker) (one.sights Event.masked) (other.sights Event.masked)
      other where
  toSimilar := alike.toSimilar
  tables := id
  announces transition := by rw [alike.announcement_eq]
  declares := by
    refine .inr fun entry late => ?_
    cases entry with
    | redeclaredLoading | redeclaredLoaded => rfl
    | announced | targetMissing | targetFailed | neverDeclared => cases late
  seen := ⟨[], (List.append_nil _).symm, (List.append_nil _).symm⟩

theorem Alike.sameChange (alike : one.Alike other) (grows : one.Grows left) (grows_too : other.Grows right)
    (abreast : left.Abreast Event.masked (other.tracker = one.tracker) (one.sights Event.masked)
      (other.sights Event.masked) right) : SameChange one other left right where
  tables := abreast.tables
  alike := ⟨abreast.toSimilar, grows.symm.trans (alike.toSameOutlets.trans grows_too.toSameOutlets)⟩
  told := by
    obtain ⟨news, first, second⟩ := abreast.seen
    rw [grows.sights_eq, List.append_cancel_left_eq] at first
    rw [grows_too.sights_eq, List.append_cancel_left_eq] at second
    exact second.trans first.symm

theorem alike_declare {loader : Loader} {name : String} (known : loader.registry.contains name = true)
    (begun : loader.status name ≠ .unloaded) (dependencies : List String) (target : Target) :
    loader.Alike (loader.declare name dependencies target) := by
  rw [declare_eq]
  refine ⟨⟨?_, ?_, .refl _, rfl, rfl, rfl⟩, ⟨rfl, rfl⟩⟩
  · rw [Registry.names_insert]
    exact if_pos ((Registry.contains_iff ..).mp known)
  · intro another idle
    rw [Registry.lookup?_insert]
    refine if_neg ?_
    rintro rfl
    exact begun idle

end Alike

end Loader

namespace Pass

variable {one other : Pass} {ordered : Prop} {first second : Nat}

theorem alike_of_similar (outlets : one.loader.SameOutlets other.loader)
    (similar : (one.state first).loader.Similar (other.state second).loader) :
    (one.state first).loader.Alike (other.state second).loader :=
  ⟨similar, (one.grows_since_start first).symm.trans
    (outlets.trans (other.grows_since_start second).toSameOutlets)⟩

theorem asksAlike_of_outlets (outlets : one.loader.SameOutlets other.loader)
    (footing ground : Footing Event) : AsksAlike Event.masked ordered footing ground one other := by
  intro moment later abreast library query rest control
  have alike := alike_of_similar outlets abreast.loaders.toSimilar
  exact congrArg (fun answer => some (Event.performed library (.query query) answer)) (alike.masked_answer query)

end Pass

namespace Loader

variable {one other : Loader}

theorem Alike.perform (alike : one.Alike other) (reachable : one.Reachable) (reachable_too : other.Reachable)
    (action : Action) : SameChange one other (one.perform action).1 (other.perform action).1 ∧
      action.masked (other.perform action).2 = action.masked (one.perform action).2 := by
  let left : Pass := ⟨one, reachable, action⟩
  let right : Pass := ⟨other, reachable_too, action⟩
  by_cases asked : ∃ query, action = .query query
  · obtain ⟨query, rfl⟩ := asked
    have told : ∀ pass : Pass, pass.action = .query query →
        pass.loader.perform pass.action = (pass.loader, .told (pass.loader.answer query)) := by
      rintro ⟨loader, reachable, _⟩ ⟨⟩
      exact @Pass.perform_of_done _ 0 _ rfl
    rw [told left rfl, told right rfl]
    exact ⟨alike.sameChange (.refl one) (.refl other) alike.abreast, alike.masked_answer query⟩
  · have begun : (left.state 0).Abreast Event.masked (other.tracker = one.tracker)
        ⟨one.sights Event.masked, []⟩ ⟨other.sights Event.masked, []⟩ (right.state 0) :=
      .start alike.abreast action fun query asks => absurd ⟨query, asks⟩ asked
    obtain ⟨abreast, answers⟩ := Pass.abreast_perform (Pass.asksAlike_of_outlets alike.toSameOutlets _ _) begun
    exact ⟨alike.sameChange (reachable.grows action) (reachable_too.grows action) abreast,
      congrArg action.masked answers⟩

theorem Similar.failedNames (similar : one.Similar other) : other.failedNames = one.failedNames := by
  rw [Loader.failedNames, similar.names, funext similar.isFailed, Loader.failedNames]

theorem Alike.performAll (alike : one.Alike other) (reachable : one.Reachable) (reachable_too : other.Reachable)
    (actions : List Action) : (one.performAll actions).1.Alike (other.performAll actions).1 ∧
      other.maskedReports actions = one.maskedReports actions := by
  induction actions generalizing one other with
  | nil => exact ⟨alike, rfl⟩
  | cons action actions ih =>
      obtain ⟨change, answers⟩ := alike.perform reachable reachable_too action
      obtain ⟨last, reports⟩ := ih change.alike (reachable.perform action) (reachable_too.perform action)
      refine ⟨last, ?_⟩
      have first : StepReport.masked action
            (other.reportStep (other.perform action).1 (other.perform action).2) =
          StepReport.masked action (one.reportStep (one.perform action).1 (one.perform action).2) := by
        simp only [StepReport.masked, reportStep, answers, change.alike.loaded, change.alike.failedNames,
          change.alike.tracker.waitingCount]
        exact congrArg (fun events => StepReport.mk _ events _ _ _) change.told
      exact congrArg₂ List.cons first reports

end Loader

namespace Machine

def Replies (machine : Machine) (loader : Loader) (frames : List Frame) (library : String) (action : Action)
    (rest : List Action) (answer : Answer) : Prop :=
  machine.step? = some (reply ⟨loader, frames, machine.control⟩ (.program library action rest) answer)

section Replies

variable {machine : Machine} {library : String} {rest : List Action}

theorem Answers.replies {frames : List Frame} {action : Action} {answer : Answer}
    (reason : Answers machine frames library action rest answer) :
    machine.Replies machine.loader frames library action rest answer := reason.step?_eq

theorem replies_declare {name : String} {dependencies : List String} {target : Target}
    (performs : machine.control = .perform library (.register name dependencies target :: rest)) :
    machine.Replies (machine.loader.declare name dependencies target) machine.frames library
      (.register name dependencies target) rest .nothing := by
  rw [Replies, step?, performs]
  rfl

theorem replies_fail {message : String} (performs : machine.control = .perform library (.fail message :: rest)) :
    machine.Replies machine.loader machine.frames library (.fail message) rest .nothing := by
  rw [Replies, step?, performs]
  rfl

theorem replies_query {query : Query} (performs : machine.control = .perform library (.query query :: rest)) :
    machine.Replies machine.loader machine.frames library (.query query) rest
      (.told (machine.loader.answer query)) := by
  rw [Replies, step?, performs]
  rfl

end Replies

end Machine

namespace Pass

variable {one other : Pass} {ordered : Prop} {first second : Nat} {past further : List Event} {loader wide : Loader}
  {frames others : List Frame}

theorem abreast_request {top bottom : Frame} {name : String}
    (asks : ∀ footing ground, AsksAlike Event.masked ordered footing ground one other)
    (walk : walkOf (top :: frames) = []) (walk_too : walkOf (bottom :: others) = [])
    (abreast : loader.Abreast Event.masked ordered past further wide)
    (driven : one.state first = ⟨loader, top :: frames, .drive name⟩)
    (driven_too : other.state second = ⟨wide, bottom :: others, .drive name⟩) :
    ∃ count result left right, one.state (first + count) = ⟨left, top :: frames, .answered result⟩ ∧
      other.state (second + count) = ⟨right, bottom :: others, .answered result⟩ ∧
        left.Abreast Event.masked ordered past further right := by
  obtain ⟨last, result, returns⟩ := @exists_returns one first name (by rw [driven])
  obtain ⟨count, rfl⟩ := Nat.exists_eq_add_of_le (Nat.le_of_lt returns.later)
  have started : (one.state first).Abreast Event.masked ordered ⟨past, top :: frames⟩ ⟨further, bottom :: others⟩
      (other.state second) := by
    rw [driven, driven_too]
    exact ⟨abreast, .refl _ _, rfl⟩
  obtain ⟨returns_too, final⟩ :=
    returns.abreast (asks _ _) (walk_too.trans walk.symm) (by rw [driven]) started
  exact ⟨count, result, _, _, returns.state_eq (by rw [driven]), returns_too.state_eq (by rw [driven_too]),
    final.loaders⟩

theorem abreast_sweep {caller user : Caller} {before : Nat} {names : List String} {errors : List LoadError}
    (asks : ∀ footing ground, AsksAlike Event.masked ordered footing ground one other)
    (abreast : loader.Abreast Event.masked ordered past further wide)
    (sweeps : one.state first = ⟨loader, frames, .sweep caller before names errors⟩)
    (sweeps_too : other.state second = ⟨wide, others, .sweep user before names errors⟩) :
    ∃ count gathered left right, one.state (first + count) = ⟨left, frames, .sweep caller before [] gathered⟩ ∧
      other.state (second + count) = ⟨right, others, .sweep user before [] gathered⟩ ∧
        left.Abreast Event.masked ordered past further right := by
  induction names generalizing first second loader wide errors with
  | nil => exact ⟨0, errors, loader, wide, sweeps, sweeps_too, abreast⟩
  | cons name rest ih =>
      have driven : one.state (first + 1) = ⟨loader, .sweeping caller before rest errors :: frames, .drive name⟩ :=
        state_of_step (by rw [sweeps]; rfl)
      have driven_too : other.state (second + 1) =
          ⟨wide, .sweeping user before rest errors :: others, .drive name⟩ :=
        state_of_step (by rw [sweeps_too]; rfl)
      obtain ⟨count, result, left, right, answered, answered_too, after⟩ :=
        abreast_request asks rfl rfl abreast driven driven_too
      have swept : one.state (first + 1 + count + 1) =
          ⟨left, frames, .sweep caller before rest (errors ++ Machine.errorOf result)⟩ :=
        state_of_step (by rw [answered]; rfl)
      have swept_too : other.state (second + 1 + count + 1) =
          ⟨right, others, .sweep user before rest (errors ++ Machine.errorOf result)⟩ :=
        state_of_step (by rw [answered_too]; rfl)
      obtain ⟨more, gathered, last, final, ended, ended_too, reached⟩ := ih after swept swept_too
      refine ⟨1 + count + 1 + more, gathered, last, final, ?_, ?_, reached⟩
      · rwa [← Nat.add_assoc, ← Nat.add_assoc, ← Nat.add_assoc]
      · rwa [← Nat.add_assoc, ← Nat.add_assoc, ← Nat.add_assoc]

theorem state_after_call {pass : Pass} {moment : Nat} {library name : String} {strict : Bool}
    {rest : List Action} (performs : (pass.state moment).control = .perform library (.request name strict :: rest)) :
    pass.state (moment + 1) = ⟨(pass.state moment).loader,
      .requesting (.program library (.request name strict) rest) name :: (pass.state moment).frames, .drive name⟩ :=
  state_of_step (by rw [Machine.step?, performs]; rfl)

theorem state_after_callAll {pass : Pass} {moment : Nat} {library stem : String} {strict : Bool}
    {rest : List Action}
    (performs : (pass.state moment).control = .perform library (.requestAll stem strict :: rest)) :
    pass.state (moment + 1) = ⟨(pass.state moment).loader, (pass.state moment).frames,
      .sweep (.program library (.requestAll stem strict) rest) (pass.state moment).loader.loaded.length
        (Machine.swept (pass.state moment).loader stem) []⟩ :=
  state_of_step (by rw [Machine.step?, performs]; rfl)

theorem outlets_of_alike (alike : (one.state first).loader.Alike (other.state second).loader) :
    one.loader.SameOutlets other.loader :=
  (one.grows_since_start first).toSameOutlets.trans
    (alike.toSameOutlets.trans (other.grows_since_start second).symm)

theorem sameChange_of_abreast {count : Nat} {left right : Machine}
    (alike : (one.state first).loader.Alike (other.state second).loader)
    (reached : one.state (first + count) = left) (reached_too : other.state (second + count) = right)
    (abreast : left.loader.Abreast Event.masked
      ((other.state second).loader.tracker = (one.state first).loader.tracker)
      ((one.state first).loader.sights Event.masked) ((other.state second).loader.sights Event.masked)
      right.loader) :
    (one.state first).loader.SameChange (other.state second).loader left.loader right.loader := by
  cases reached
  cases reached_too
  exact alike.sameChange (one.grows (Nat.le_add_right ..)) (other.grows (Nat.le_add_right ..)) abreast

/-- The action that a program performs at the one moment, and a program of the other pass at the other, is
answered after as many steps. The answers and events are the same when masked, and the loaders are alike
again. -/
def RepliesAlike (one other : Pass) (first second : Nat) (library user : String) (action : Action)
    (rest more : List Action) : Prop :=
  ∃ count left right answer reply,
    (one.state (first + count)).Replies left (one.state first).frames library action rest answer ∧
    (other.state (second + count)).Replies right (other.state second).frames user action more reply ∧
    (one.state first).loader.SameChange (other.state second).loader left right ∧
    action.masked reply = action.masked answer

section Replies

variable {library user : String} {rest more : List Action}
  (alike : (one.state first).loader.Alike (other.state second).loader)
include alike

theorem repliesAlike_request {name : String} {strict : Bool}
    (performs : (one.state first).control = .perform library (.request name strict :: rest))
    (performs_too : (other.state second).control = .perform user (.request name strict :: more)) :
    one.RepliesAlike other first second library user (.request name strict) rest more := by
  obtain ⟨count, result, left, right, answered, answered_too, abreast⟩ :=
    abreast_request (asksAlike_of_outlets (outlets_of_alike alike)) rfl rfl alike.abreast
      (state_after_call performs) (state_after_call performs_too)
  rw [Nat.add_assoc] at answered answered_too
  refine ⟨1 + count, left, right, .requested result [], .requested result [], ?_, ?_,
    sameChange_of_abreast alike answered answered_too abreast, rfl⟩
  · rw [answered]
    exact Machine.Answers.requested.replies
  · rw [answered_too]
    exact Machine.Answers.requested.replies

theorem repliesAlike_requestAll {stem : String} {strict : Bool}
    (performs : (one.state first).control = .perform library (.requestAll stem strict :: rest))
    (performs_too : (other.state second).control = .perform user (.requestAll stem strict :: more)) :
    one.RepliesAlike other first second library user (.requestAll stem strict) rest more := by
  let before := (one.state first).loader.loaded.length
  have called := state_after_callAll performs_too
  rw [alike.loaded, alike.swept] at called
  obtain ⟨count, gathered, left, right, ended, ended_too, abreast⟩ :=
    abreast_sweep (asksAlike_of_outlets (outlets_of_alike alike)) alike.abreast (state_after_callAll performs) called
  rw [Nat.add_assoc] at ended ended_too
  refine ⟨1 + count, left, right, .swept (left.loaded.drop before) gathered,
    .swept (right.loaded.drop before) gathered, ?_, ?_, sameChange_of_abreast alike ended ended_too abreast, ?_⟩
  · rw [ended]
    exact Machine.Answers.swept.replies
  · rw [ended_too]
    exact Machine.Answers.swept.replies
  · rw [abreast.loaded]

theorem repliesAlike {action : Action}
    (performs : (one.state first).control = .perform library (action :: rest))
    (performs_too : (other.state second).control = .perform user (action :: more)) :
    one.RepliesAlike other first second library user action rest more := by
  cases action with
  | register name dependencies target =>
      exact ⟨0, _, _, _, _, Machine.replies_declare performs, Machine.replies_declare performs_too,
        alike.sameChange (Loader.grows_declare ..) (Loader.grows_declare ..) (alike.abreast.declare ..), rfl⟩
  | fail message =>
      exact ⟨0, _, _, _, _, Machine.replies_fail performs, Machine.replies_fail performs_too,
        alike.sameChange (.refl _) (.refl _) alike.abreast, rfl⟩
  | query query =>
      exact ⟨0, _, _, _, _, Machine.replies_query performs, Machine.replies_query performs_too,
        alike.sameChange (.refl _) (.refl _) alike.abreast, alike.masked_answer query⟩
  | request name strict => exact repliesAlike_request alike performs performs_too
  | requestAll stem strict => exact repliesAlike_requestAll alike performs performs_too

theorem sameChange_later (frames : (other.state second).frames = (one.state first).frames)
    (control : (other.state second).control = (one.state first).control) (count : Nat) :
    (other.state (second + count)).frames = (one.state (first + count)).frames ∧
      (other.state (second + count)).control = (one.state (first + count)).control ∧
      (one.state first).loader.SameChange (other.state second).loader (one.state (first + count)).loader
        (other.state (second + count)).loader := by
  have atop : Atop [] [] (one.state first).frames (other.state second).frames := by
    rw [frames]
    exact ⟨_, (List.append_nil _).symm, (List.append_nil _).symm⟩
  have later := abreast_always (asksAlike_of_outlets (outlets_of_alike alike) _ _)
    ⟨alike.abreast, atop, control⟩ count
  exact ⟨later.frames.eq_of_same, later.control, sameChange_of_abreast alike rfl rfl later.loaders⟩

end Replies

end Pass

namespace Session

variable {one other : Session}

/-- On loaders that are alike, outermost actions give the same answers and events, and the loaders stay
alike. -/
structure CallersUndisturbed (one other : Session) : Prop where
  performed : ∀ index later, (one.loader index).Alike (other.loader later) → ∀ action,
    (one.loader index).SameChange (other.loader later) ((one.loader index).perform action).1
        ((other.loader later).perform action).1 ∧
      action.masked ((other.loader later).perform action).2 =
        action.masked ((one.loader index).perform action).2
  reported : ∀ index later, (one.loader index).Alike (other.loader later) → ∀ actions,
    ((one.loader index).performAll actions).1.Alike ((other.loader later).performAll actions).1 ∧
      (other.loader later).maskedReports actions = (one.loader index).maskedReports actions

/-- The same for the actions of programs, and for passes that go on from the same control and frames. -/
structure ProgramsUndisturbed (one other : Session) : Prop where
  nested : ∀ moment later library user action rest more,
    (one.state moment).control = .perform library (action :: rest) →
    (other.state later).control = .perform user (action :: more) →
    (one.state moment).loader.Alike (other.state later).loader →
      (one.pass moment.index).RepliesAlike (other.pass later.index) moment.count later.count library user action
        rest more
  onward : ∀ moment later, (other.state later).frames = (one.state moment).frames →
    (other.state later).control = (one.state moment).control →
    (one.state moment).loader.Alike (other.state later).loader → ∀ count,
      (other.state ⟨later.index, later.count + count⟩).frames =
        (one.state ⟨moment.index, moment.count + count⟩).frames ∧
      (other.state ⟨later.index, later.count + count⟩).control =
        (one.state ⟨moment.index, moment.count + count⟩).control ∧
      (one.state moment).loader.SameChange (other.state later).loader
        (one.state ⟨moment.index, moment.count + count⟩).loader
        (other.state ⟨later.index, later.count + count⟩).loader

/-- Declaring a library whose load has begun leaves the loader alike, and changes no later report. -/
structure LateDeclarationsUnseen (session : Session) : Prop where
  redeclared : ∀ moment name, (session.state moment).loader.status name ≠ .unloaded → ∀ dependencies target,
    (session.state moment).loader.Alike ((session.state moment).loader.declare name dependencies target)
  late : ∀ index name, (session.loader index).status name ≠ .unloaded → ∀ dependencies target actions,
    ((session.loader index).perform (.register name dependencies target)).1.maskedReports actions =
      (session.loader index).maskedReports actions

structure RedeclarationNoninterference (one other : Session) : Prop where
  callers : one.CallersUndisturbed other
  programs : one.ProgramsUndisturbed other
  declarations : one.LateDeclarationsUnseen

theorem alike_redeclared {moment : Moment} {name : String}
    (begun : (one.state moment).loader.status name ≠ .unloaded) (dependencies : List String) (target : Target) :
    (one.state moment).loader.Alike ((one.state moment).loader.declare name dependencies target) := by
  have known := (one.pass moment.index).known_of_begun (one.reachable moment.index).known begun
  exact Loader.alike_declare known begun dependencies target

theorem maskedReports_redeclared {index : Nat} {name : String}
    (begun : (one.loader index).status name ≠ .unloaded) (dependencies : List String) (target : Target)
    (actions : List Action) :
    ((one.loader index).perform (.register name dependencies target)).1.maskedReports actions =
      (one.loader index).maskedReports actions := by
  have reachable := one.reachable index
  let declares : Pass := ⟨one.loader index, reachable, .register name dependencies target⟩
  have declared : (one.loader index).perform (.register name dependencies target) =
      ((one.loader index).declare name dependencies target, .nothing) := @Pass.perform_of_done declares 0 _ rfl
  have later := reachable.perform (.register name dependencies target)
  rw [declared] at later ⊢
  exact ((Loader.alike_declare (reachable.known begun) begun dependencies target).performAll reachable later
    actions).2

theorem callersUndisturbed (one other : Session) : one.CallersUndisturbed other where
  performed index later alike := alike.perform (one.reachable index) (other.reachable later)
  reported index later alike := alike.performAll (one.reachable index) (other.reachable later)

theorem programsUndisturbed (one other : Session) : one.ProgramsUndisturbed other where
  nested _ _ _ _ _ _ _ performs performs_too alike := Pass.repliesAlike alike performs performs_too
  onward _ _ frames control alike count := Pass.sameChange_later alike frames control count

/-- What is declared for libraries whose load has begun influences no session, whatever its targets do. -/
theorem redeclarationNoninterference (one other : Session) : one.RedeclarationNoninterference other where
  callers := one.callersUndisturbed other
  programs := one.programsUndisturbed other
  declarations := ⟨fun _ _ begun => alike_redeclared begun, fun _ _ begun => maskedReports_redeclared begun⟩

/-- A library is loaded. Another one depends on it, and its program requests it and shows its record. -/
def settled : Session := .ofList ⟨true⟩ true [.register "a" [] .noop,
  .register "c" ["a"] (.program [.query (.lookup "a"), .request "a" true]), .request "a" false]

/-- Here the library is declared once more, with a target that fails. -/
def revised : Session := .ofList ⟨true⟩ true [.register "a" [] .noop,
  .register "c" ["a"] (.program [.query (.lookup "a"), .request "a" true]), .request "a" false,
  .register "a" ["b"] (.program [.fail "again"])]

theorem redeclarationNoninterference_revised : (settled.loader 3).Alike (revised.loader 4) ∧
    (settled.loader 3).answer (.lookup "a") = .record (some ([], false)) ∧
    (revised.loader 4).answer (.lookup "a") = .record (some (["b"], true)) ∧
    (revised.loader 4).maskedReports [.request "c" false] = (settled.loader 3).maskedReports [.request "c" false] ∧
    ((settled.loader 3).perform (.request "c" false)).2 = .requested (.ok .loaded) [] := by
  have declared : revised.loader 4 = (settled.loader 3).declare "a" ["b"] (.program [.fail "again"]) := by cbv
  have loaded : (settled.loader 3).status "a" = .loaded := by cbv
  have begun : (settled.loader 3).status "a" ≠ .unloaded := by
    rw [loaded]
    rintro ⟨⟩
  have alike : (settled.loader 3).Alike (revised.loader 4) := by
    rw [declared]
    exact (redeclarationNoninterference settled settled).declarations.redeclared ⟨3, 0⟩ "a" begun _ _
  exact ⟨alike, by cbv, by cbv, ((redeclarationNoninterference settled revised).callers.reported 3 4 alike _).2, by cbv⟩

end Session

end DemandLoad
