import DemandLoad.Proofs.DoomedLibraries
import DemandLoad.Proofs.PassObservations

namespace DemandLoad

theorem nodup_eraseDups (names : List String) : names.eraseDups.Nodup := by
  match names with
  | [] => exact .nil
  | name :: rest =>
      rw [List.eraseDups_cons]
      refine List.nodup_cons.mpr ⟨?_, nodup_eraseDups _⟩
      intro again
      have member := List.mem_filter.mp (List.mem_eraseDups.mp again)
      simp at member
termination_by names.length
decreasing_by exact Nat.lt_succ_of_le (List.length_filter_le _ _)

theorem eraseDups_concat (names : List String) (name : String) : (names ++ [name]).eraseDups =
    if name ∈ names then names.eraseDups else names.eraseDups ++ [name] := by
  rw [List.eraseDups_append]
  split
  case isTrue old => simp [List.removeAll, old]
  case isFalse new => simp [List.removeAll, new, List.eraseDups_cons]

namespace Loader

variable {loader : Loader} {name : String} {names : List String}

/-- The undeclared ones of the names. -/
def undeclared (loader : Loader) (names : List String) : List String :=
  names.filter fun name => !loader.registry.contains name

theorem mem_undeclared : name ∈ loader.undeclared names ↔
    name ∈ names ∧ loader.registry.contains name = false := by
  simp [undeclared]

theorem undeclared_append (more : List String) :
    loader.undeclared (names ++ more) = loader.undeclared names ++ loader.undeclared more :=
  List.filter_append ..

theorem undeclared_forget (known : loader.registry.contains name = true) :
    loader.undeclared (names.filter (· ≠ name)) = loader.undeclared names := by
  rw [undeclared, undeclared, List.filter_filter]
  apply List.filter_congr
  intro other _
  by_cases same : other = name
  · simp [same, known]
  · simp [same]

theorem undeclared_concat (known : loader.registry.contains name = true) :
    loader.undeclared (names ++ [name]).eraseDups = loader.undeclared names.eraseDups := by
  rw [eraseDups_concat]
  split
  · rfl
  · rw [undeclared_append]
    simp [undeclared, known]

theorem unresolved_remember (loader : Loader) (name : String) : (loader.remember name).unresolved =
    if name ∈ loader.unresolved then loader.unresolved else loader.unresolved ++ [name] := by
  unfold remember
  simp only [List.contains_iff_mem]
  split <;> rfl

theorem undeclared_remember (unknown : loader.registry.contains name = false)
    (same : loader.undeclared loader.unresolved = loader.undeclared names.eraseDups) :
    loader.undeclared (loader.remember name).unresolved = loader.undeclared (names ++ [name]).eraseDups := by
  have both : name ∈ loader.unresolved ↔ name ∈ names := by
    have either : name ∈ loader.undeclared loader.unresolved ↔ name ∈ loader.undeclared names.eraseDups := by
      rw [same]
    simpa [mem_undeclared, unknown] using either
  rw [eraseDups_concat, unresolved_remember]
  by_cases old : name ∈ names
  · rw [if_pos old, if_pos (both.mpr old), same]
  · rw [if_neg old, if_neg (fun known => old (both.mp known)), undeclared_append, undeclared_append, same]

end Loader

namespace Machine

variable {machine next : Machine} {loader : Loader} {frames : List Frame} {name blocker : String}

def driven? (machine : Machine) : Option String :=
  match machine.control with
  | .drive name => some name
  | _ => none

theorem driven?_eq_some : machine.driven? = some name ↔ machine.control = .drive name := by
  unfold driven?
  split
  case h_1 other control => simp [control]
  case h_2 apart => simpa using fun control => apart name control

structure Due (machine : Machine) : Prop where
  control : ∀ verdict due, machine.control = .settle verdict due →
    ∀ name ∈ due, machine.loader.registry.contains name = true
  frames : ∀ verdict rest, .settling verdict rest ∈ machine.frames →
    ∀ name ∈ rest, machine.loader.registry.contains name = true

theorem Due.step (due : machine.Due) (step : Step machine next) : next.Due := by
  constructor
  · intro verdict names control name member
    cases step with
    | settleRound => cases control; exact (List.mem_filter.mp member).2
    | sweepEnd | returned => cases control; cases member
    | settledOne =>
        cases control
        rw [Loader.registry_orphan]
        exact due.frames _ _ (List.mem_cons_self ..) name member
    | _ => cases control
  · intro verdict rest standing name member
    apply step.contains_mono
    rcases step.mem_frames standing with below | inHand
    · exact due.frames verdict rest below name member
    · obtain ⟨first, control⟩ := Control.settle_of_inHand? inHand
      exact due.control verdict _ control name (List.mem_cons_of_mem _ member)

theorem Due.start (loader : Loader) (action : Action) : (Machine.start loader action).Due := by
  constructor
  · intro verdict due control
    cases action <;> cases control
  · intro verdict rest member
    cases action with
    | request => cases List.mem_singleton.mp member
    | register | requestAll | fail | query => cases member

theorem unresolved_conclude (machine : Machine) (verdict : Verdict) :
    (machine.conclude verdict).loader.unresolved = [] :=
  Loader.unresolved_giveUpUnresolved _

/-- How a step changes the unresolved names. A name is added only when it is driven and undeclared. -/
inductive Recalls (machine next : Machine) : Prop
  | kept (same : next.loader.unresolved = machine.loader.unresolved)
      (begun : ∀ name ∈ machine.driven?, machine.loader.status name ≠ .unloaded)
  | forgotten (name : String) (same : next.loader.unresolved = machine.loader.unresolved.filter (· ≠ name))
      (known : machine.loader.registry.contains name = true) (driven : ∀ other ∈ machine.driven?, other = name)
  | remembered (name : String) (same : next.loader.unresolved = (machine.loader.remember name).unresolved)
      (unknown : machine.loader.registry.contains name = false) (driven : machine.driven? = some name)
  | concluded (verdict : Verdict) (concludes : machine.Concludes verdict)

theorem Recalls.of_quiet (same : next.loader.unresolved = machine.loader.unresolved)
    (quiet : machine.driven? = none) : Recalls machine next :=
  .kept same (by simp [quiet])

theorem Rejects.recalls {error : LoadError} (reason : Rejects machine loader frames name error) :
    Recalls machine ⟨loader.dropBehind name, frames, .answered (.error error)⟩ := by
  cases reason
  case failedBefore loading failed => exact .kept rfl (by simp [driven?, loading])
  case cycle idle known walking => exact .forgotten name rfl known (by simp [driven?])
  all_goals exact .of_quiet rfl rfl

theorem Postpones.recalls (reason : Postpones machine loader frames name blocker) :
    Recalls machine ⟨loader.defer name blocker, frames, .answered (.ok .deferred)⟩ := by
  cases reason
  case itself loading sound => exact .kept (by simp) (by simp [driven?, loading])
  all_goals exact .of_quiet (by simp) rfl

theorem Answers.driven_eq {library : String} {action : Action} {rest : List Action} {answer : Answer}
    (reason : Answers machine frames library action rest answer) : machine.driven? = none := by
  cases reason <;> rfl

theorem Step.recalls (due : machine.Due) (step : Step machine next)
    (walked : ∀ name, machine.control = .walk name [] → machine.loader.registry.contains name = true) :
    Recalls machine next := by
  cases step with
  | succeed reason =>
      cases reason
      case loadedBefore loaded => exact .kept rfl (by simp [driven?, loaded])
      all_goals exact .of_quiet rfl rfl
  | reject reason => exact reason.recalls
  | postpone reason => exact reason.recalls
  | @remember _ _ _ name reason =>
      cases reason with
      | undeclared idle unknown =>
          refine .remembered name ?_ unknown rfl
          rw [Loader.unresolved_remember, Loader.unresolved_remember, Loader.unresolved_announce]
      | vanished idle unknown =>
          -- Nothing is taken out of the registry while it is walked.
          have known := walked name rfl
          rw [Registry.contains_eq, unknown] at known
          cases known
  | enter idle known fresh => exact .forgotten _ rfl known (by simp [driven?])
  | settleNext => exact .forgotten _ rfl (due.control _ _ rfl _ (List.mem_cons_self ..)) (by simp [driven?])
  | conclude settled => exact .concluded _ ⟨rfl, settled⟩
  | goOn reason => exact .of_quiet rfl reason.driven_eq
  | fail reason =>
      refine .of_quiet ?_ reason.driven_eq
      rw [Loader.unresolved_dropBehind, Loader.unresolved_failTarget, Loader.unresolved_note]
  | declare => exact .of_quiet (by rw [Loader.unresolved_note, Loader.unresolved_declare]) rfl
  | begin =>
      refine .of_quiet ?_ rfl
      rw [Loader.unresolved_noteTarget]
      rfl
  | advance reason => cases reason <;> exact .of_quiet rfl rfl
  | resumedOne | settledOne => exact .of_quiet (by rw [Loader.unresolved_orphan]) rfl
  | finish | descend | call | callAll | resumeNext | sweepNext | sweepEnd | settleRound | returned | sweptOne =>
      exact .of_quiet rfl rfl

theorem Step.unresolved_before (step : Step machine next) (recalls : Recalls machine next)
    (unresolved : name ∈ next.loader.unresolved) :
    name ∈ machine.loader.unresolved ∨ machine.loader.registry.contains name = false := by
  cases recalls with
  | kept same => exact .inl (same ▸ unresolved)
  | forgotten other same =>
      rw [same] at unresolved
      exact .inl (List.mem_filter.mp unresolved).1
  | remembered other same unknown =>
      rw [same, Loader.mem_unresolved_remember] at unresolved
      rcases unresolved with old | rfl
      · exact .inl old
      · exact .inr unknown
  | concluded verdict concludes =>
      rw [step.of_concludes concludes, unresolved_conclude] at unresolved
      cases unresolved

theorem Step.undeclared_eq (step : Step machine next) (names : List String) :
    next.loader.undeclared (machine.loader.undeclared names) = next.loader.undeclared names := by
  rw [Loader.undeclared, Loader.undeclared, Loader.undeclared, List.filter_filter]
  apply List.filter_congr
  intro name _
  cases known : machine.loader.registry.contains name with
  | false => simp
  | true => simp [step.contains_mono known]

end Machine

namespace Pass

variable {pass : Pass} {name : String} {count : Nat}

theorem mem_collect {α : Type} {seen : Machine → Option α} {value : α} :
    value ∈ pass.collect seen count ↔ ∃ moment, moment < count ∧ seen (pass.state moment) = some value := by
  simp [collect]

theorem due (pass : Pass) (count : Nat) : (pass.state count).Due :=
  pass.induction (.start pass.loader pass.action) (fun _ _ due step => due.step step) count

/-- The names driven in the moments before `count`, with repetitions. -/
def asked (pass : Pass) (count : Nat) : List String := pass.collect Machine.driven? count

theorem mem_asked : name ∈ pass.asked count ↔
    ∃ moment, moment < count ∧ (pass.state moment).control = .drive name := by
  simp only [asked, mem_collect, Machine.driven?_eq_some]

theorem asked_mono {earlier : Nat} (order : earlier ≤ count) (asked : name ∈ pass.asked earlier) :
    name ∈ pass.asked count := by
  obtain ⟨moment, early, driven⟩ := mem_asked.mp asked
  exact mem_asked.mpr ⟨moment, Nat.lt_of_lt_of_le early order, driven⟩

theorem undeclared_step (founded : (pass.state count).loader.Founded)
    (step : Machine.Step (pass.state count) (pass.state (count + 1)))
    (unconcluded : ∀ verdict, ¬ (pass.state count).Concludes verdict)
    (same : (pass.state count).loader.undeclared (pass.state count).loader.unresolved =
      (pass.state count).loader.undeclared (pass.asked count).eraseDups) :
    (pass.state (count + 1)).loader.undeclared (pass.state (count + 1)).loader.unresolved =
      (pass.state (count + 1)).loader.undeclared (pass.asked (count + 1)).eraseDups := by
  have news : pass.asked (count + 1) = pass.asked count ++ (pass.state count).driven?.toList :=
    collect_succ ..
  -- A declaration may take names out of both lists, so they are compared by the old registry first.
  have same_next : (pass.state count).loader.undeclared (pass.state (count + 1)).loader.unresolved =
      (pass.state count).loader.undeclared (pass.asked (count + 1)).eraseDups := by
    cases step.recalls (pass.due count) (fun _ control => known_of_walk control) with
    | kept unmoved begun =>
        rw [unmoved, same, news]
        cases driven : (pass.state count).driven? with
        | none => rw [Option.toList_none, List.append_nil]
        | some name => exact (Loader.undeclared_concat (founded name (begun name driven)).1).symm
    | forgotten name moved known alone =>
        rw [moved, Loader.undeclared_forget known, same, news]
        cases driven : (pass.state count).driven? with
        | none => rw [Option.toList_none, List.append_nil]
        | some other => exact (Loader.undeclared_concat (alone other driven ▸ known)).symm
    | remembered name moved unknown driven =>
        rw [moved, news, driven]
        exact Loader.undeclared_remember unknown same
    | concluded verdict concludes => exact absurd concludes (unconcluded verdict)
  rw [← step.undeclared_eq, same_next, step.undeclared_eq]

/-- Until a pass concludes, the unresolved names are the undeclared ones that it has requested. -/
theorem DeclaresOnce.undeclared_eq (once : pass.DeclaresOnce) (founded : pass.loader.Founded) (count : Nat)
    (busy : ∀ answer, (pass.state count).control ≠ .done answer) :
    (pass.state count).loader.undeclared (pass.state count).loader.unresolved =
      (pass.state count).loader.undeclared (pass.asked count).eraseDups := by
  induction count with
  | zero =>
      rw [pass.unresolved_zero]
      rfl
  | succ count ih =>
      have step := step_of_busy (busy_before busy)
      refine undeclared_step (once.founded founded count) step ?_ (ih (busy_before busy))
      intro verdict concludes
      rw [step.of_concludes concludes] at busy
      exact busy _ rfl

theorem asked_of_captured {frames : List Frame} {moment : Nat}
    (captured : Captured pass moment count name frames) : name ∈ pass.asked count :=
  mem_asked.mpr ⟨moment, captured.earlier, captured.driven⟩

theorem asked_of_postpones {loader : Loader} {frames : List Frame} {blocker : String}
    (reason : Machine.Postpones (pass.state count) loader frames name blocker) :
    name ∈ pass.asked (count + 1) := by
  have driven : (pass.state count).control = .drive name → name ∈ pass.asked (count + 1) :=
    fun control => mem_asked.mpr ⟨count, Nat.lt_succ_self count, control⟩
  have walked : ∀ rest, (pass.state count).control = .walk name rest → name ∈ pass.asked (count + 1) := by
    intro rest control
    obtain ⟨moment, past, captured, -⟩ := (pass.traced count).control name rest control
    exact asked_mono (Nat.le_succ count) (asked_of_captured captured)
  have stood : ∀ dependency rest below, .walking name dependency rest :: below <:+ (pass.state count).frames →
      name ∈ pass.asked (count + 1) := by
    intro dependency rest below standing
    obtain ⟨moment, past, captured, -⟩ := (pass.traced count).frames name dependency rest below standing
    exact asked_mono (Nat.le_succ count) (asked_of_captured captured)
  generalize pass.state count = machine at reason driven walked stood
  cases reason with
  | itself => exact driven rfl
  | itselfMeanwhile => exact walked _ rfl
  | dependencyLoading => exact walked _ rfl
  | dependencyWaits => exact stood _ _ _ List.suffix_rfl

theorem asked_of_queued {blocker : String} (queued : name ∈ (pass.state count).loader.tracker.queue blocker) :
    name ∈ pass.asked count := by
  induction count with
  | zero =>
      rw [pass.queue_zero] at queued
      cases queued
  | succ count ih =>
      rcases pass.state_cases count with same | step
      · rw [same] at queued
        exact asked_mono (Nat.le_succ count) (ih queued)
      · rcases step.queued (pass.sound count).active queued with old | ⟨_, _, reason, -⟩
        · exact asked_mono (Nat.le_succ count) (ih old)
        · exact asked_of_postpones reason

end Pass

end DemandLoad
