import DemandLoad.Proofs.WalkDependencies
import Mathlib.Data.List.Find

namespace DemandLoad

namespace Loader

/-- The first dependency of a library that is not loaded. -/
def firstBlocker? (loader : Loader) (name : String) : Option String :=
  (loader.dependencies name).find? fun dependency => loader.status dependency ≠ .loaded

theorem firstBlocker?_eq_some {loader : Loader} {name blocker : String} :
    loader.firstBlocker? name = some blocker ↔ loader.status blocker ≠ .loaded ∧
      ∃ past rest, loader.dependencies name = past ++ blocker :: rest ∧
        ∀ dependency ∈ past, loader.status dependency = .loaded := by
  simp [firstBlocker?, List.find?_eq_some_iff_append]

/-- Every library that has begun to load is declared, and its dependencies are loaded. -/
def Founded (loader : Loader) : Prop :=
  ∀ name, loader.status name ≠ .unloaded → loader.registry.contains name = true ∧
    ∀ dependency ∈ loader.dependencies name, loader.status dependency = .loaded

theorem Founded.idle_of_blocker {loader : Loader} {name blocker : String} (founded : loader.Founded)
    (blocked : loader.firstBlocker? name = some blocker) : loader.status name = .unloaded := by
  obtain ⟨waits, past, rest, split, -⟩ := firstBlocker?_eq_some.mp blocked
  apply Classical.byContradiction
  intro begun
  exact waits ((founded name begun).2 blocker (by simp [split]))

theorem lookup?_declare (loader : Loader) (name other : String) (dependencies : List String)
    (target : Target) : (loader.declare name dependencies target).registry.lookup? other =
      if other = name then some (.declare name target dependencies) else loader.registry.lookup? other := by
  rw [registry_declare]
  exact Registry.lookup?_insert ..

theorem Founded.declare {loader : Loader} (founded : loader.Founded) (name : String)
    (dependencies : List String) (target : Target) (fresh : loader.registry.contains name = false) :
    (loader.declare name dependencies target).Founded := by
  intro other begun
  rw [status, tracker_declare] at begun
  obtain ⟨known, loaded⟩ := founded other begun
  have apart : other ≠ name := by
    rintro rfl
    rw [fresh] at known
    cases known
  have same := (lookup?_declare loader name other dependencies target).trans (if_neg apart)
  constructor
  · rw [Registry.contains_eq, same]
    exact known
  · intro dependency member
    rw [Loader.dependencies, Registry.dependencies?, same] at member
    rw [status, tracker_declare]
    exact loaded dependency member

end Loader

namespace Machine

variable {machine next : Machine} {name library : String}

theorem Step.contains_mono (step : Step machine next)
    (known : machine.loader.registry.contains name = true) :
    next.loader.registry.contains name = true := by
  rw [Registry.contains_eq] at known ⊢
  cases step.recorded with
  | kept same => rwa [same]
  | taken other target control idle begun taken =>
      rw [lookup?_of_taken taken]
      split
      case isTrue same => rwa [Option.isSome_map, ← same]
      case isFalse => exact known
  | declared library other dependencies target rest control inserted =>
      rw [inserted, Registry.lookup?_insert]
      split
      · rfl
      · exact known

theorem Step.dependencies_eq (step : Step machine next) (quiet : ¬ machine.Declares name) :
    next.loader.dependencies name = machine.loader.dependencies name := by
  rw [Loader.dependencies, step.dependencies?_eq quiet, Loader.dependencies]

theorem Step.known_of_entered {rest : List String} (step : Step machine next)
    (driven : machine.control = .drive name) (walked : next.control = .walk name rest) :
    machine.loader.registry.contains name = true := by
  cases step with
  | enter idle known => cases driven; exact known
  | advance reason => cases reason <;> cases driven
  | _ => cases walked

theorem Step.idle_of_entered {rest : List String} (step : Step machine next)
    (driven : machine.control = .drive name) (walked : next.control = .walk name rest) :
    machine.loader.status name = .unloaded := by
  cases step with
  | enter idle known => cases driven; exact idle
  | advance reason => cases reason <;> cases driven
  | _ => cases walked

theorem Step.begun_of_idle (active : machine.Active) (step : Step machine next)
    (idle : machine.loader.status name = .unloaded) (begun : next.loader.status name ≠ .unloaded) :
    next.loader.status name = .loading := by
  cases step.progress active with
  | still same running => exact absurd ((same.status name).trans idle) begun
  | failed failing same running => exact absurd ((same.status name).trans idle) begun
  | begun started control _ same running =>
      have status := same.status_begun name
      split at status
      · exact status
      · exact absurd (status.trans idle) begun
  | ended ending control same drained running =>
      have status := same.status_ended name
      split at status
      case isTrue same =>
        have busy := (active.mem_running ending).mp (running ▸ List.mem_cons_self ..)
        rw [← same, idle] at busy
        cases busy.1
      case isFalse => exact absurd (status.trans idle) begun

theorem Step.founded (active : machine.Active) (step : Step machine next)
    (founded : machine.loader.Founded)
    (fresh : ∀ name, machine.Declares name → machine.loader.registry.contains name = false)
    (walked : ∀ name, machine.control = .walk name [] →
      ∀ dependency ∈ machine.loader.dependencies name, machine.loader.status dependency = .loaded) :
    next.loader.Founded := by
  intro name begun
  have before : machine.loader.registry.contains name = true ∧
      ∀ dependency ∈ machine.loader.dependencies name, machine.loader.status dependency = .loaded := by
    by_cases idle : machine.loader.status name = .unloaded
    · have loading := step.begun_of_idle active idle begun
      obtain ⟨control, record, known, -⟩ := step.begins active idle loading
      exact ⟨by rw [Registry.contains_eq, known]; rfl, walked name control⟩
    · exact founded name idle
  obtain ⟨known, loaded⟩ := before
  have quiet : ¬ machine.Declares name := by
    intro declares
    rw [fresh name declares] at known
    cases known
  refine ⟨step.contains_mono known, ?_⟩
  intro dependency member
  rw [step.dependencies_eq quiet] at member
  exact step.loaded_mono active (loaded dependency member)

end Machine

namespace Pass

variable {pass : Pass}

/-- No declaration in the pass is for a name that is declared already. -/
def DeclaresOnce (pass : Pass) : Prop :=
  (∀ name dependencies target, pass.action = .register name dependencies target →
    pass.loader.registry.contains name = false) ∧
  ∀ moment name, (pass.state moment).Declares name →
    (pass.state moment).loader.registry.contains name = false

def declaresOnceUpTo (pass : Pass) (last : Nat) : Bool :=
  (List.range (last + 1)).all fun moment => (pass.state moment).declared?.all fun name =>
    !(pass.state moment).loader.registry.contains name

theorem DeclaresOnce.of_rest (last : Nat) (rest : (pass.state last).step? = none)
    (outer : ∀ name dependencies target, pass.action = .register name dependencies target →
      pass.loader.registry.contains name = false)
    (checked : pass.declaresOnceUpTo last = true) : pass.DeclaresOnce := by
  refine ⟨outer, always_of_rest (motive := fun machine => ∀ name, machine.Declares name →
    machine.loader.registry.contains name = false) rest ?_⟩
  intro moment early name declares
  have fresh := List.all_eq_true.mp checked moment (List.mem_range.mpr (Nat.lt_succ_of_le early))
  rw [show (pass.state moment).declared? = some name from declares] at fresh
  simpa using fresh

theorem DeclaresOnce.of_register {name : String} {dependencies : List String} {target : Target}
    (declares : pass.action = .register name dependencies target)
    (fresh : pass.loader.registry.contains name = false) : pass.DeclaresOnce := by
  obtain ⟨loader, reachable, action⟩ := pass
  cases declares
  refine .of_rest 0 rfl ?_ rfl
  rintro other others taken ⟨⟩
  exact fresh

theorem DeclaresOnce.of_query {query : Query} (asks : pass.action = .query query) : pass.DeclaresOnce := by
  obtain ⟨loader, reachable, action⟩ := pass
  cases asks
  refine .of_rest 0 rfl ?_ rfl
  rintro name dependencies target ⟨⟩

theorem DeclaresOnce.quiet {name : String} {moment : Nat} (once : pass.DeclaresOnce)
    (known : (pass.state moment).loader.registry.contains name = true) :
    ¬ (pass.state moment).Declares name := by
  intro declares
  rw [once.2 moment name declares] at known
  cases known

theorem contains_mono {name : String} {earlier later : Nat} (order : earlier ≤ later)
    (known : (pass.state earlier).loader.registry.contains name = true) :
    (pass.state later).loader.registry.contains name = true := by
  induction order with
  | refl => exact known
  | @step later order ih =>
      rcases pass.state_cases later with same | step
      · rw [same]
        exact ih
      · exact step.contains_mono ih

theorem loaded_mono {name : String} {earlier later : Nat} (order : earlier ≤ later)
    (loaded : (pass.state earlier).loader.status name = .loaded) :
    (pass.state later).loader.status name = .loaded := by
  induction order with
  | refl => exact loaded
  | @step later order ih =>
      rcases pass.state_cases later with same | step
      · rw [same]
        exact ih
      · exact step.loaded_mono (pass.sound later).active ih

theorem failed_mono {name : String} {earlier later : Nat} (order : earlier ≤ later)
    (failed : (pass.state earlier).loader.isFailed name = true) :
    (pass.state later).loader.isFailed name = true := by
  induction order with
  | refl => exact failed
  | @step later order ih =>
      rcases pass.state_cases later with same | step
      · rw [same]
        exact ih
      · exact step.failed_mono (pass.sound later).active ih

theorem DeclaresOnce.dependencies_eq {name : String} {earlier later : Nat} (once : pass.DeclaresOnce)
    (order : earlier ≤ later) (known : (pass.state earlier).loader.registry.contains name = true) :
    (pass.state later).loader.dependencies name = (pass.state earlier).loader.dependencies name := by
  induction order with
  | refl => rfl
  | @step later order ih =>
      rcases pass.state_cases later with same | step
      · rw [same]
        exact ih
      · exact (step.dependencies_eq (once.quiet (contains_mono order known))).trans ih

theorem Captured.step {name : String} {frames : List Frame} {moment count : Nat}
    (captured : Captured pass moment count name frames) :
    Machine.Step (pass.state moment) (pass.state (moment + 1)) := by
  rcases pass.state_cases moment with same | step
  · have walks := captured.walked
    rw [same, captured.driven] at walks
    cases walks
  · exact step

theorem Captured.known {name : String} {frames : List Frame} {moment count : Nat}
    (captured : Captured pass moment count name frames) :
    (pass.state moment).loader.registry.contains name = true :=
  captured.step.known_of_entered captured.driven captured.walked

theorem Captured.idle {name : String} {frames : List Frame} {moment count : Nat}
    (captured : Captured pass moment count name frames) :
    (pass.state moment).loader.status name = .unloaded :=
  captured.step.idle_of_entered captured.driven captured.walked

theorem known_of_walk {name : String} {rest : List String} {count : Nat}
    (control : (pass.state count).control = .walk name rest) :
    (pass.state count).loader.registry.contains name = true := by
  obtain ⟨moment, past, captured, -, -⟩ := (pass.traced count).control name rest control
  exact contains_mono (Nat.le_of_lt captured.earlier) captured.known

theorem DeclaresOnce.split {name : String} {rest : List String} {frames : List Frame} {count : Nat}
    (once : pass.DeclaresOnce) (walked : Walked pass count frames name rest) :
    ∃ past, (pass.state count).loader.dependencies name = past ++ rest ∧
      ∀ dependency ∈ past, (pass.state count).loader.status dependency = .loaded := by
  obtain ⟨moment, past, captured, split, loaded⟩ := walked
  have same := once.dependencies_eq (Nat.le_of_lt captured.earlier) captured.known
  exact ⟨past, same.trans split, loaded⟩

theorem DeclaresOnce.founded_start (once : pass.DeclaresOnce) (founded : pass.loader.Founded) :
    (pass.state 0).loader.Founded := by
  obtain ⟨loader, reachable, action⟩ := pass
  cases action with
  | register name dependencies target =>
      exact founded.declare name dependencies target (once.1 name dependencies target rfl)
  | request | requestAll | fail | query => exact founded

theorem DeclaresOnce.founded (once : pass.DeclaresOnce) (founded : pass.loader.Founded) (count : Nat) :
    (pass.state count).loader.Founded := by
  induction count with
  | zero => exact once.founded_start founded
  | succ count ih =>
      rcases pass.state_cases count with same | step
      · rw [same]
        exact ih
      · refine step.founded (pass.sound count).active ih (once.2 count) ?_
        intro name control
        obtain ⟨past, split, loaded⟩ := once.split ((pass.traced count).control name [] control)
        rw [split, List.append_nil]
        exact loaded

end Pass

/-- The loaders of sessions that declare no library twice. -/
inductive Loader.WriteOnce : Loader → Prop
  | create (config : Config) (observed : Bool) : WriteOnce (.create config observed)
  | perform (pass : Pass) (before : WriteOnce pass.loader) (once : pass.DeclaresOnce) :
      WriteOnce (pass.loader.perform pass.action).1

theorem Loader.WriteOnce.reachable {loader : Loader} (once : loader.WriteOnce) : loader.Reachable := by
  cases once with
  | create config observed => exact .create config observed
  | perform pass before once => exact pass.reachable.perform pass.action

theorem Loader.WriteOnce.register {loader : Loader} (once : loader.WriteOnce) (name : String)
    (dependencies : List String) (target : Target) (fresh : loader.registry.contains name = false) :
    (loader.perform (.register name dependencies target)).1.WriteOnce :=
  .perform ⟨loader, once.reachable, .register name dependencies target⟩ once (.of_register rfl fresh)

theorem Loader.WriteOnce.founded {loader : Loader} (once : loader.WriteOnce) : loader.Founded := by
  induction once with
  | create config observed => exact fun name begun => absurd rfl begun
  | perform pass before once ih => exact pass.perform_of_always (once.founded ih)

end DemandLoad
