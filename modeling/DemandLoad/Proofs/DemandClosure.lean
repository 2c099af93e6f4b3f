import DemandLoad.Proofs.RequestReturns
import DemandLoad.Proofs.StepEvents
import DemandLoad.Proofs.TargetPrograms
import DemandLoad.Proofs.UnresolvedNames
import Mathlib.Data.List.Basic
import Mathlib.Tactic.Tauto

/-!
A set of names is closed if it has, with a library, everything that a declaration of the library may request. A
request for a member requests members only, and leaves everything else as it is.
-/

namespace DemandLoad

/-- What a library is declared with; `target` is absent once it has been started. -/
structure Declaration where
  name : String
  dependencies : List String
  target : Option Target

mutual

/-- The declarations that a target may make, and those that the targets declared by it may make. -/
def Target.declarations : Target → List Declaration
  | .noop => []
  | .program actions => Target.declarationsOf actions

def Target.declarationsOf : List Action → List Declaration
  | [] => []
  | action :: actions => Action.declarations action ++ Target.declarationsOf actions

def Action.declarations : Action → List Declaration
  | .register name dependencies target => ⟨name, dependencies, some target⟩ :: Target.declarations target
  | .request _ _ | .requestAll _ _ | .fail _ | .query _ => []

end

/-- The action requests members only. A sweep requests every name with its prefix. -/
def Action.AsksWithin (members : String → Prop) : Action → Prop
  | .request name _ => members name
  | .requestAll stem _ => ∀ name : String, stem.toList.isPrefixOf name.toList = true → members name
  | .register _ _ _ | .fail _ | .query _ => True

/-- If the library is a member, so are its dependencies and what its own program requests. -/
def Declaration.Closed (members : String → Prop) (declaration : Declaration) : Prop :=
  members declaration.name → (∀ dependency ∈ declaration.dependencies, members dependency) ∧
    ∀ action ∈ Target.actions declaration.target, action.AsksWithin members

namespace Loader

/-- The declaration is in the registry, or somewhere inside a target that is. -/
def Declares (loader : Loader) (declaration : Declaration) : Prop :=
  ∃ name record, loader.registry.lookup? name = some record ∧
    (declaration = ⟨name, record.dependencies, record.target⟩ ∨
      declaration ∈ Target.declarationsOf (Target.actions record.target))

/-- The members are closed under every declaration that a registered target may make. -/
def Closed (loader : Loader) (members : String → Prop) : Prop :=
  ∀ declaration, loader.Declares declaration → declaration.Closed members

end Loader

def Mark.names : Mark → List String
  | told (.deferred library blocker) | told (.abandoned library blocker) => [library, blocker]
  | told (.requested library) | told (.loading library) | told (.loaded library) | told (.resumed library)
  | told (.failed library) | acted library => [library]

def Frame.names : Frame → List String
  | .walking library dependency rest => library :: dependency :: rest
  | .requesting caller name => name :: caller.library?.toList
  | .sweeping caller _ rest _ => caller.library?.toList ++ rest
  | .resuming library rest => library :: rest
  | .settling _ rest => rest

def Control.names : Control → List String
  | .drive name => [name]
  | .walk name dependencies => name :: dependencies
  | .perform library _ => [library]
  | .resume library waiting => library :: waiting
  | .sweep caller _ names _ => caller.library?.toList ++ names
  | .settle _ due => due
  | .answered _ | .done _ => []

namespace Machine

variable {machine next : Machine} {loader : Loader} {frames : List Frame} {name blocker : String}

def names (machine : Machine) : List String := machine.control.names ++ machine.frames.flatMap Frame.names

theorem mem_names : name ∈ machine.names ↔
    name ∈ machine.control.names ∨ ∃ frame ∈ machine.frames, name ∈ frame.names := by
  simp only [names, List.mem_append, List.mem_flatMap]

theorem running_subset_names (machine : Machine) : machine.running ⊆ machine.names := by
  have control : machine.control.running ⊆ machine.control.names := by
    cases machine.control <;> simp [Control.running, Control.names]
  have frame : ∀ frame : Frame, frame.running ⊆ frame.names := by
    intro frame
    cases frame <;> simp [Frame.running, Frame.names]
  intro name member
  rw [mem_names]
  rcases List.mem_append.mp member with top | inside
  · exact .inl (control top)
  · obtain ⟨below, standing, member⟩ := List.mem_flatMap.mp inside
    exact .inr ⟨below, standing, frame below member⟩

inductive Arises (machine : Machine) : String → Prop
  | kept {name : String} (member : name ∈ machine.names) : Arises machine name
  | due {name : String} (unresolved : name ∈ machine.loader.unresolved) : Arises machine name
  | depends {library name : String} (control : machine.control = .drive library)
      (listed : name ∈ machine.loader.dependencies library) : Arises machine name
  | asked {library name : String} {strict : Bool} {rest : List Action}
      (control : machine.control = .perform library (.request name strict :: rest)) : Arises machine name
  | swept {library stem name : String} {strict : Bool} {rest : List Action}
      (control : machine.control = .perform library (.requestAll stem strict :: rest))
      (begins : stem.toList.isPrefixOf name.toList = true) : Arises machine name
  | waited {blocker name : String} (queued : name ∈ machine.loader.tracker.queue blocker) : Arises machine name

theorem Arises.of_control (own : name ∈ machine.control.names) : machine.Arises name :=
  .kept (mem_names.mpr (.inl own))

theorem Arises.of_frame {frame : Frame} (standing : frame ∈ machine.frames) (inside : name ∈ frame.names) :
    machine.Arises name :=
  .kept (mem_names.mpr (.inr ⟨frame, standing, inside⟩))

theorem Arises.of_inHand {frame : Frame} (inHand : machine.control.inHand? = some frame)
    (member : name ∈ frame.names) : machine.Arises name := by
  unfold Control.inHand? at inHand
  split at inHand <;> cases inHand
  case h_2 library action strict rest control =>
    rcases List.mem_cons.mp member with rfl | own
    · exact .asked control
    · exact .of_control (control ▸ own)
  all_goals
    rename_i control
    apply Arises.of_control
    rw [control]
    simp only [Frame.names, Control.names, List.mem_cons, List.mem_append] at member ⊢
    tauto

theorem Step.arises_control (step : Step machine next) (member : name ∈ next.control.names) :
    machine.Arises name := by
  cases step with
  | enter =>
      rcases List.mem_cons.mp member with rfl | listed
      · exact .of_control (List.mem_cons_self ..)
      · exact .depends rfl listed
  | advance reason =>
      cases reason with
      | loadedBefore =>
          apply Arises.of_control
          simp only [Control.names, List.mem_cons] at member ⊢
          tauto
      | loadedNow =>
          apply Arises.of_frame (List.mem_cons_self ..)
          simp only [Control.names, Frame.names, List.mem_cons] at member ⊢
          tauto
  | descend =>
      cases List.mem_singleton.mp member
      exact .of_control (List.mem_cons_of_mem _ (List.mem_cons_self ..))
  | begin | declare =>
      cases List.mem_singleton.mp member
      exact .of_control (List.mem_cons_self ..)
  | @finish _ _ library _ waiting finished =>
      rcases List.mem_cons.mp member with rfl | taken
      · exact .of_control (List.mem_cons_self ..)
      · rw [(Tracker.finish_eq_ok finished).2.2.2] at taken
        exact .waited (List.mem_of_mem_filter taken)
  | goOn reason =>
      cases List.mem_singleton.mp member
      exact .kept (running_subset_names _ (reason.running ▸ List.mem_cons_self ..))
  | call =>
      cases List.mem_singleton.mp member
      exact .asked rfl
  | callAll =>
      rcases List.mem_append.mp member with own | swept
      · exact .of_control own
      · exact .swept rfl (List.mem_filter.mp swept).2
  | resumeNext =>
      cases List.mem_singleton.mp member
      exact .of_control (List.mem_cons_of_mem _ (List.mem_cons_self ..))
  | sweepNext =>
      cases List.mem_singleton.mp member
      exact .of_control (List.mem_append_right _ (List.mem_cons_self ..))
  | settleNext =>
      cases List.mem_singleton.mp member
      exact .of_control (List.mem_cons_self ..)
  | settleRound => exact .due (List.mem_of_mem_filter member)
  | sweptOne | settledOne => exact .of_frame (List.mem_cons_self ..) member
  | resumedOne => exact .of_frame (List.mem_cons_self ..) member
  | succeed | reject | postpone | remember | fail | conclude | sweepEnd | returned => cases member

theorem Step.arises (step : Step machine next) (member : name ∈ next.names) : machine.Arises name := by
  rcases mem_names.mp member with control | ⟨frame, standing, inside⟩
  · exact step.arises_control control
  · rcases step.mem_frames standing with below | inHand
    · exact .of_frame below inside
    · exact .of_inHand inHand inside

theorem Postpones.mem_names (reason : Postpones machine loader frames name blocker) :
    name ∈ machine.names ∧ blocker ∈ machine.names := by
  simp only [Machine.mem_names]
  cases reason with
  | itself | itselfMeanwhile => simp [Control.names]
  | dependencyLoading => simp [Control.names]
  | dependencyWaits => simp [Frame.names]

/-- Every name on the stack, unresolved or queued is a member, and the members stay closed. -/
structure Enclosed (members : String → Prop) (machine : Machine) : Prop where
  records : machine.loader.Closed members
  declares : ∀ library actions, machine.Performs library actions →
    ∀ declaration ∈ Target.declarationsOf actions, declaration.Closed members
  asks : ∀ library actions, machine.Performs library actions →
    ∀ action ∈ actions, action.AsksWithin members
  names : ∀ name ∈ machine.names, members name
  unresolved : ∀ name ∈ machine.loader.unresolved, members name
  queued : ∀ name blocker, name ∈ machine.loader.tracker.queue blocker → members name ∧ members blocker

variable {members : String → Prop}

theorem Enclosed.control (enclosed : machine.Enclosed members) (own : name ∈ machine.control.names) :
    members name :=
  enclosed.names name (mem_names.mpr (.inl own))

theorem Enclosed.runs {library : String} {below : List String} (enclosed : machine.Enclosed members)
    (running : machine.running = library :: below) : members library :=
  enclosed.names library (running_subset_names machine (running ▸ List.mem_cons_self ..))

theorem Enclosed.performing {library : String} {action : Action} {rest : List Action}
    (enclosed : machine.Enclosed members) (control : machine.control = .perform library (action :: rest)) :
    action.AsksWithin members ∧ ∀ declaration ∈ action.declarations, declaration.Closed members := by
  have performs : machine.Performs library (action :: rest) := .inl (by rw [control]; rfl)
  exact ⟨enclosed.asks _ _ performs _ (List.mem_cons_self ..),
    fun declaration member => enclosed.declares _ _ performs _ (List.mem_append_left _ member)⟩

theorem Enclosed.arises (enclosed : machine.Enclosed members) (arises : machine.Arises name) : members name := by
  cases arises with
  | kept member => exact enclosed.names name member
  | due unresolved => exact enclosed.unresolved name unresolved
  | @depends library _ control listed =>
      have driven : members library := enclosed.control (by simp [control, Control.names])
      rw [Loader.dependencies, Registry.dependencies?] at listed
      cases known : machine.loader.registry.lookup? library with
      | none =>
          rw [known] at listed
          cases listed
      | some record =>
          rw [known] at listed
          exact (enclosed.records _ ⟨library, record, known, .inl rfl⟩ driven).1 name listed
  | asked control => exact (enclosed.performing control).1
  | swept control begins => exact (enclosed.performing control).1 name begins
  | waited queued => exact (enclosed.queued name _ queued).1

theorem Enclosed.closed_step (enclosed : machine.Enclosed members) (step : Step machine next) :
    next.loader.Closed members := by
  rintro declaration ⟨name, record, known, source⟩
  cases step.recorded with
  | kept same => exact enclosed.records declaration ⟨name, record, same ▸ known, source⟩
  | taken other target control idle begun taken =>
      rw [lookup?_of_taken taken] at known
      split at known
      · -- The record has its dependencies still, and no target any more.
        obtain ⟨old, before, rfl⟩ := Option.map_eq_some_iff.mp known
        rcases source with rfl | inside
        · intro member
          have closed := enclosed.records _ ⟨_, old, before, .inl rfl⟩ (by simpa [*] using member)
          exact ⟨closed.1, fun action none_left => absurd none_left (List.not_mem_nil)⟩
        · cases inside
      · exact enclosed.records declaration ⟨name, record, known, source⟩
  | declared library other dependencies target rest control inserted =>
      rw [inserted, Registry.lookup?_insert] at known
      split at known
      case isTrue same =>
        cases known
        cases same
        have closed := (enclosed.performing control).2
        rcases source with rfl | inside
        · exact closed _ (List.mem_cons_self ..)
        · refine closed declaration (List.mem_cons_of_mem _ ?_)
          cases target with
          | noop => cases inside
          | program actions => exact inside
      case isFalse => exact enclosed.records declaration ⟨name, record, known, source⟩

theorem Enclosed.step (enclosed : machine.Enclosed members) (active : machine.Active) (recalls : Recalls machine next)
    (step : Step machine next) : next.Enclosed members where
  records := enclosed.closed_step step
  declares := by
    intro library actions performs declaration member
    rcases step.performs performs with (kept | ⟨first, longer⟩) | ⟨-, record, known, rfl⟩
    · exact enclosed.declares library actions kept declaration member
    · exact enclosed.declares library _ longer declaration (List.mem_append_right _ member)
    · exact enclosed.records declaration ⟨library, record, known, .inr member⟩
  asks := by
    intro library actions performs action member
    rcases step.performs performs with (kept | ⟨first, longer⟩) | ⟨starts, record, known, rfl⟩
    · exact enclosed.asks library actions kept action member
    · exact enclosed.asks library _ longer action (List.mem_cons_of_mem _ member)
    · obtain ⟨idle, begun⟩ := step.of_starts active starts
      have walked := (step.begins active idle begun).1
      have inside : members library := enclosed.control (by simp [walked, Control.names])
      exact (enclosed.records _ ⟨library, record, known, .inl rfl⟩ inside).2 action member
  names name member := enclosed.arises (step.arises member)
  unresolved := by
    intro name unresolved
    cases recalls with
    | kept same => exact enclosed.unresolved name (same ▸ unresolved)
    | forgotten other same =>
        rw [same] at unresolved
        exact enclosed.unresolved name (List.mem_of_mem_filter unresolved)
    | remembered other same unknown driven =>
        rw [same, Loader.mem_unresolved_remember] at unresolved
        rcases unresolved with old | rfl
        · exact enclosed.unresolved name old
        · have control := driven?_eq_some.mp driven
          exact enclosed.control (by simp [control, Control.names])
    | concluded verdict concludes =>
        rw [step.of_concludes concludes, unresolved_conclude] at unresolved
        cases unresolved
  queued := by
    intro name blocker queued
    rcases step.queued active queued with old | ⟨_, _, reason, -⟩
    · exact enclosed.queued name blocker old
    · obtain ⟨waiter, behind⟩ := reason.mem_names
      exact ⟨enclosed.names name waiter, enclosed.names blocker behind⟩

theorem Enclosed.aside {mark : Mark} (enclosed : machine.Enclosed members) (aside : machine.Aside mark)
    (inside : name ∈ mark.names) : members name := by
  cases aside with
  | requested control => exact enclosed.control (control ▸ inside)
  | deferred reason =>
      obtain ⟨_, _, reason⟩ := reason
      obtain ⟨waiter, behind⟩ := reason.mem_names
      rcases List.mem_pair.mp inside with rfl | rfl
      · exact enclosed.names _ waiter
      · exact enclosed.names _ behind
  | resumed control =>
      cases List.mem_singleton.mp inside
      rcases control with ⟨_, _, control⟩ | ⟨_, _, control⟩
      · exact enclosed.control (by simp [control, Control.names])
      · exact enclosed.control (by simp [control, Control.names])
  | abandoned queued =>
      rcases List.mem_pair.mp inside with rfl | rfl
      · exact (enclosed.queued _ _ queued).1
      · exact (enclosed.queued _ _ queued).2

theorem Enclosed.emits {news : List Mark} {mark : Mark} (enclosed : machine.Enclosed members)
    (emits : machine.Emits next news) (member : mark ∈ news) (inside : name ∈ mark.names) : members name := by
  cases emits with
  | still asides => exact enclosed.aside (asides mark member) inside
  | acts library apart running =>
      cases List.mem_singleton.mp member
      cases List.mem_singleton.mp inside
      exact enclosed.runs running
  | begins started target control running =>
      have about : mark.names = [started] := by
        rcases List.mem_cons.mp member with rfl | first
        · rfl
        · rw [Loader.eq_of_mem_startMarks first]
          rfl
      rw [about] at inside
      cases List.mem_singleton.mp inside
      exact enclosed.control (by simp [control, Control.names])
  | ends ending control ended running =>
      cases List.mem_singleton.mp member
      cases List.mem_singleton.mp inside
      exact enclosed.runs running
  | fails failing apart failed asides running =>
      rcases List.mem_cons.mp member with rfl | member
      · cases List.mem_singleton.mp inside
        exact enclosed.runs running
      rcases List.mem_cons.mp member with rfl | member
      · cases List.mem_singleton.mp inside
        exact enclosed.runs running
      · exact enclosed.aside (asides mark member) inside

theorem Enclosed.untouched (enclosed : machine.Enclosed members) (progress : Progress machine next)
    (outside : ¬ members name) : next.loader.status name = machine.loader.status name ∧
      next.loader.isFailed name = machine.loader.isFailed name := by
  have apart : ∀ {other}, members other → name ≠ other := by
    rintro other inside rfl
    exact outside inside
  cases progress with
  | still same => exact ⟨same.status name, same.isFailed name⟩
  | begun started control idle same =>
      have inside : members started := enclosed.control (by simp [control, Control.names])
      exact ⟨(same.status_begun name).trans (if_neg (apart inside)), same.isFailed name⟩
  | ended ending control same drained running =>
      exact ⟨(same.status_ended name).trans (if_neg (apart (enclosed.runs running))), same.isFailed name⟩
  | failed failing same running =>
      refine ⟨same.status name, Bool.eq_iff_iff.mpr (same.isFailed_failed name |>.trans ?_)⟩
      simp [apart (enclosed.runs running), Loader.isFailed]

end Machine

namespace Pass

variable {pass : Pass} {members : String → Prop} {name : String} {strict : Bool}

theorem enclosed (asks : pass.action = .request name strict) (inside : members name)
    (closed : pass.loader.Closed members) (count : Nat) : (pass.state count).Enclosed members := by
  induction count with
  | zero =>
      have bare : ∀ library actions, ¬ (pass.state 0).Performs library actions :=
        fun _ _ => Machine.not_performs_start _ _
      refine ⟨?_, fun _ _ performs => absurd performs (bare _ _), fun _ _ performs => absurd performs (bare _ _),
        ?_, ?_, ?_⟩
      · rw [state_zero asks]
        exact closed
      · intro other member
        rw [state_zero asks] at member
        have own : other = name := by
          simpa [Machine.names, Control.names, Frame.names, Caller.library?] using member
        exact own ▸ inside
      · simp [pass.unresolved_zero]
      · simp [pass.queue_zero]
  | succ count ih =>
      rcases pass.state_cases count with same | step
      · rw [same]
        exact ih
      · exact ih.step (pass.sound count).active
          (step.recalls (pass.due count) fun _ control => known_of_walk control) step

/-- The pass requests, queues, resumes, runs and changes members only. -/
structure KeepsTo (pass : Pass) (members : String → Prop) : Prop where
  requested : ∀ count name, (pass.state count).control = .drive name → members name
  queued : ∀ count name blocker, name ∈ (pass.state count).loader.tracker.queue blocker →
    members name ∧ members blocker
  resumed : ∀ count name, (∃ library rest, (pass.state count).control = .resume library (name :: rest)) ∨
    (∃ verdict rest, (pass.state count).control = .settle verdict (name :: rest)) → members name
  runs : ∀ count name, name ∈ (pass.state count).running → members name
  told : ∀ outlet count, ∀ mark ∈ (pass.state count).news outlet (pass.state (count + 1)),
    ∀ name ∈ mark.names, members name
  untouched : ∀ count name, ¬ members name →
    (pass.state count).loader.status name = pass.loader.status name ∧
      (pass.state count).loader.isFailed name = pass.loader.isFailed name
  afterwards : ∀ name, ¬ members name →
    (pass.loader.perform pass.action).1.status name = pass.loader.status name ∧
      (pass.loader.perform pass.action).1.isFailed name = pass.loader.isFailed name

/-- A request for a member of a closed set touches members of the set only. -/
theorem keepsTo_of_request (pass : Pass) (members : String → Prop) (name : String) (strict : Bool)
    (asks : pass.action = .request name strict) (inside : members name) (closed : pass.loader.Closed members) :
    pass.KeepsTo members := by
  have enclosed := pass.enclosed asks inside closed
  have untouched : ∀ count other, ¬ members other →
      (pass.state count).loader.status other = pass.loader.status other ∧
        (pass.state count).loader.isFailed other = pass.loader.isFailed other := by
    intro count other outside
    induction count with
    | zero =>
        rw [state_zero asks]
        exact ⟨rfl, rfl⟩
    | succ count ih =>
        rcases pass.state_cases count with same | step
        · rw [same]
          exact ih
        · obtain ⟨status, failed⟩ :=
            (enclosed count).untouched (step.progress (pass.sound count).active) outside
          exact ⟨status.trans ih.1, failed.trans ih.2⟩
  constructor
  case requested => exact fun count other control => (enclosed count).control (by simp [control, Control.names])
  case queued => exact fun count => (enclosed count).queued
  case resumed =>
    rintro count other (⟨_, _, control⟩ | ⟨_, _, control⟩)
    · exact (enclosed count).control (by simp [control, Control.names])
    · exact (enclosed count).control (by simp [control, Control.names])
  case runs => exact fun count other runs => (enclosed count).names other (Machine.running_subset_names _ runs)
  case told =>
    intro outlet count mark told other about
    rcases pass.state_cases count with same | step
    · rw [same, Machine.news, List.drop_length] at told
      cases told
    · obtain ⟨news, adds, emits⟩ := step.publishes (pass.sound count).active outlet
      rw [Machine.news_eq adds] at told
      exact (enclosed count).emits emits ((pass.state count).loader.heard_subset outlet news told) about
  case untouched => exact untouched
  case afterwards =>
    intro other outside
    obtain ⟨last, answer, -, performed⟩ := pass.exists_done
    rw [performed]
    exact untouched last other outside

/-- `app.main` requests what begins with `app.`, and `island` is not needed by any of it. -/
def insular : Pass where
  loader := ((Loader.create ⟨true⟩ true).performAll [
    .register "base" [] (.program [.register "app.late" ["base"] .noop]),
    .register "app.main" ["base"] (.program [.requestAll "app." false]),
    .register "island" ["base"] (.program [.request "app.main" false])]).1
  reachable := (Loader.Reachable.create ..).performAll _
  action := .request "app.main" false

def insularMembers (name : String) : Prop := name = "base" ∨ "app.".toList.isPrefixOf name.toList = true

theorem closed_insular : insular.loader.Closed insularMembers := by
  rintro declaration ⟨name, record, known, source⟩
  have listed : name ∈ insular.loader.registry.names := by
    apply Classical.byContradiction
    intro absent
    cases known.symm.trans ((Registry.lookup?_eq_none _ _).mpr absent)
  have names : insular.loader.registry.names = ["base", "app.main", "island"] := by cbv
  rw [names, List.mem_cons, List.mem_pair] at listed
  rcases listed with rfl | rfl | rfl
  case inl =>
    have base : insular.loader.registry.lookup? "base" =
        some ⟨"base", some (.program [.register "app.late" ["base"] .noop]), []⟩ := by cbv
    cases base.symm.trans known
    rcases source with rfl | inside
    · simp [Declaration.Closed, Target.actions, Action.AsksWithin]
    · cases List.mem_singleton.mp inside
      simp [Declaration.Closed, Target.actions, insularMembers]
  case inr.inl =>
    have main : insular.loader.registry.lookup? "app.main" =
        some ⟨"app.main", some (.program [.requestAll "app." false]), ["base"]⟩ := by cbv
    cases main.symm.trans known
    rcases source with rfl | inside
    · simp [Declaration.Closed, Target.actions, Action.AsksWithin, insularMembers]
      tauto
    · cases inside
  case inr.inr =>
    have island : insular.loader.registry.lookup? "island" =
        some ⟨"island", some (.program [.request "app.main" false]), ["base"]⟩ := by cbv
    cases island.symm.trans known
    rcases source with rfl | inside
    · -- What `island` asks for does not matter, since it is no member.
      intro member
      simp [insularMembers] at member
    · cases inside

theorem keepsTo_of_request_insular : insular.action = .request "app.main" false ∧
    insularMembers "app.main" ∧ insular.loader.Closed insularMembers ∧
    (insular.loader.perform insular.action).1.loaded = ["base", "app.late", "app.main"] ∧
    (insular.loader.perform insular.action).1.status "island" = .unloaded := by
  have inside : insularMembers "app.main" := .inr (by decide)
  have keeps := keepsTo_of_request insular insularMembers "app.main" false rfl inside closed_insular
  have outside : ¬ insularMembers "island" := by simp [insularMembers]
  have idle : insular.loader.status "island" = .unloaded := by cbv
  exact ⟨rfl, inside, closed_insular, by cbv, (keeps.afterwards "island" outside).1.trans idle⟩

end Pass

end DemandLoad
