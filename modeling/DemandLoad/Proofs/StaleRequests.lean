import DemandLoad.Proofs.ErrorsInFlight
import DemandLoad.Proofs.StepEvents
import Mathlib.Tactic.Tauto

/-!
Requests that wait although their library is loaded. A walk uses the dependencies declared when it began, and a
request stays queued whatever is declared later.
-/

namespace DemandLoad

namespace Pass

variable {pass : Pass} {library blocker : String} {moment count earlier later : Nat}

/-- A declaration of the pass, for a declared and unloaded library, changes whether the blocker is among its
dependencies. -/
def Shifted (pass : Pass) (count : Nat) (library blocker : String) : Prop :=
  ∃ moment, moment < count ∧ (pass.state moment).Declares library ∧
    (pass.state moment).loader.registry.contains library = true ∧
    (pass.state moment).loader.status library = .unloaded ∧
    (blocker ∈ (pass.state moment).loader.dependencies library ↔
      blocker ∉ (pass.state (moment + 1)).loader.dependencies library)

theorem declared_between (order : earlier ≤ later)
    (changed : ¬ (blocker ∈ (pass.state earlier).loader.dependencies library ↔
      blocker ∈ (pass.state later).loader.dependencies library)) :
    ∃ moment, earlier ≤ moment ∧ moment < later ∧ (pass.state moment).Declares library ∧
      (blocker ∈ (pass.state moment).loader.dependencies library ↔
        blocker ∉ (pass.state (moment + 1)).loader.dependencies library) := by
  induction order with
  | refl => exact absurd Iff.rfl changed
  | @step later order ih =>
      by_cases same : blocker ∈ (pass.state earlier).loader.dependencies library ↔
          blocker ∈ (pass.state later).loader.dependencies library
      · -- The change comes with the last step.
        have flips : blocker ∈ (pass.state later).loader.dependencies library ↔
            blocker ∉ (pass.state (later + 1)).loader.dependencies library := by
          rw [same] at changed
          tauto
        refine ⟨later, order, Nat.lt_succ_self later, ?_, flips⟩
        apply Classical.byContradiction
        intro quiet
        have kept : (pass.state (later + 1)).loader.dependencies library =
            (pass.state later).loader.dependencies library := by
          rcases pass.state_cases later with rest | step
          · rw [rest]
          · exact step.dependencies_eq quiet
        rw [kept] at flips
        tauto
      · obtain ⟨moment, after, before, declares, flips⟩ := ih same
        exact ⟨moment, after, Nat.lt_succ_of_lt before, declares, flips⟩

theorem exists_begins (order : earlier ≤ later)
    (idle : (pass.state earlier).loader.status library = .unloaded)
    (begun : (pass.state later).loader.status library ≠ .unloaded) :
    ∃ moment, earlier ≤ moment ∧ moment < later ∧ pass.Begins moment library := by
  induction order with
  | refl => exact absurd idle begun
  | @step later order ih =>
      by_cases waits : (pass.state later).loader.status library = .unloaded
      · refine ⟨later, order, Nat.lt_succ_self later, waits, ?_⟩
        rcases pass.state_cases later with same | step
        · exact absurd (same ▸ waits) begun
        · exact step.begun_of_idle (pass.sound later).active waits begun
      · obtain ⟨moment, after, before, begins⟩ := ih waits
        exact ⟨moment, after, Nat.lt_succ_of_lt before, begins⟩

theorem captured_of_queued (queued : library ∈ (pass.state count).loader.tracker.queue blocker) :
    library = blocker ∨ ∃ moment last frames, last < count ∧ Captured pass moment last library frames ∧
      blocker ∈ (pass.state moment).loader.dependencies library := by
  induction count with
  | zero =>
      rw [pass.queue_zero] at queued
      cases queued
  | succ count ih =>
      have onward : library ∈ (pass.state count).loader.tracker.queue blocker →
          library = blocker ∨ ∃ moment last frames, last < count + 1 ∧
            Captured pass moment last library frames ∧
            blocker ∈ (pass.state moment).loader.dependencies library := by
        intro old
        refine (ih old).imp_right ?_
        rintro ⟨moment, last, frames, early, captured, listed⟩
        exact ⟨moment, last, frames, Nat.lt_succ_of_lt early, captured, listed⟩
      rcases pass.state_cases count with same | step
      · exact onward (same ▸ queued)
      · rcases step.queued (pass.sound count).active queued with old | ⟨_, _, reason, -⟩
        · exact onward old
        · refine (walked_of_postpones reason).imp_right ?_
          rintro ⟨rest, frames, moment, past, captured, split, -⟩
          exact ⟨moment, count, frames, Nat.lt_succ_self count, captured, by simp [split]⟩

theorem shifted_of_queued (queued : library ∈ (pass.state count).loader.tracker.queue blocker)
    (loaded : (pass.state count).loader.status library = .loaded) : pass.Shifted count library blocker := by
  have waits : (pass.state count).loader.status blocker ≠ .loaded :=
    fun done => (pass.sound count).not_queued done queued
  rcases captured_of_queued queued with rfl | ⟨first, last, frames, early, captured, listed⟩
  · exact absurd loaded waits
  have idle := captured.idle
  obtain ⟨start, after, before, begins⟩ := exists_begins
    (Nat.le_of_lt (Nat.lt_trans captured.earlier early)) idle (by simp [loaded])
  -- The walk that led to the load had the blocker not among its dependencies, for it would be loaded.
  have walked := (begins.step.begins (pass.sound start).active begins.1 begins.2).1
  obtain ⟨second, past, other, split, found⟩ := (pass.traced start).control library [] walked
  rw [List.append_nil] at split
  have unlisted : blocker ∉ (pass.state second).loader.dependencies library := by
    intro member
    rw [split] at member
    exact waits (loaded_mono (Nat.le_of_lt before) (found blocker member))
  have declared : ∀ {one two}, one ≤ two → two ≤ start →
      (pass.state one).loader.registry.contains library = true →
      ¬ (blocker ∈ (pass.state one).loader.dependencies library ↔
        blocker ∈ (pass.state two).loader.dependencies library) → pass.Shifted count library blocker := by
    intro one two order within known changed
    obtain ⟨moment, later, sooner, declares, flips⟩ := declared_between order changed
    have begun : moment ≤ start := Nat.le_trans (Nat.le_of_lt sooner) within
    exact ⟨moment, Nat.lt_of_le_of_lt begun before, declares, contains_mono later known,
      idle_before begun begins.1, flips⟩
  rcases Nat.le_total first second with order | order
  · exact declared order (Nat.le_of_lt other.earlier) captured.known (by tauto)
  · exact declared order after other.known (by tauto)

theorem queued_of_stalled {verdict : Verdict} {first : String} {others stalled : List String}
    (requests : pass.action.Requests) (concludes : (pass.state moment).Concludes verdict)
    (reported : .unknown first others stalled ∈ (pass.loader.perform pass.action).2.allErrors)
    (member : library ∈ stalled) :
    ∃ blocker, library ∈ (pass.state moment).loader.tracker.queue blocker := by
  have plain := (pass.accounted requests moment (by simp [concludes.control])).plain concludes
  rw [perform_of_concludes concludes] at reported
  have given : .unknown first others stalled ∈ (pass.state moment).loader.takeErrors.1.giveUpUnresolved.2 := by
    rcases Machine.mem_verdictAnswer reported with kept | given
    · cases plain _ (List.mem_append.mpr kept)
    · exact given
  have told := (pass.state moment).loader.takeErrors.1.undeclared?_giveUpUnresolved
  rw [Option.mem_def.mp given] at told
  have same : stalled = (pass.state moment).loader.takeErrors.1.stalled := by
    split at told
    · cases told
    · exact congrArg (fun report => report.2) (List.cons.inj told).1
  rw [same] at member
  obtain ⟨waiter, dropped, rfl⟩ := List.mem_map.mp member
  exact ⟨waiter.blocker, Tracker.queued_of_drop dropped⟩

/-- A loaded library is abandoned, or reported as stalled, only if the pass declared it anew before its load,
and changed by that whether it depends on what it waited for. -/
theorem shifted_of_stale (pass : Pass) (requests : pass.action.Requests) (library : String) :
    (∀ outlet count blocker,
      .told (.abandoned library blocker) ∈ (pass.state count).news outlet (pass.state (count + 1)) →
        (pass.state count).loader.status library = .loaded → pass.Shifted count library blocker) ∧
    ∀ first others stalled,
      .unknown first others stalled ∈ (pass.loader.perform pass.action).2.allErrors → library ∈ stalled →
        (pass.loader.perform pass.action).1.status library = .loaded →
          ∃ count blocker, pass.Shifted count library blocker := by
  constructor
  · intro outlet count blocker told loaded
    rcases pass.state_cases count with same | step
    · rw [same, Machine.news, List.drop_length] at told
      cases told
    · exact shifted_of_queued (step.queued_of_abandoned (pass.sound count).active told) loaded
  · intro first others stalled reported member loaded
    obtain ⟨moment, verdict, concludes, -⟩ := pass.exists_concluded requests
    obtain ⟨blocker, queued⟩ := queued_of_stalled requests concludes reported member
    have same := Machine.status_conclude (pass.state moment) verdict library
    rw [perform_of_concludes concludes] at loaded
    exact ⟨moment, blocker, shifted_of_queued queued (same.symm.trans loaded)⟩

/-- The target of `base` declares `app` anew, without the undeclared dependency, and loads it. -/
def outrun : Pass where
  loader := ((Loader.create ⟨true⟩ true).performAll [
    .register "base" [] (.program [.register "app" [] (.program []), .request "app" false]),
    .register "app" ["base", "ghost"] (.program [])]).1
  reachable := (Loader.Reachable.create ..).performAll _
  action := .request "app" false

theorem stalled_outrun :
    .unknown "ghost" [] ["app"] ∈ (outrun.loader.perform outrun.action).2.allErrors ∧
      (outrun.loader.perform outrun.action).1.status "app" = .loaded := by
  have answer : (outrun.loader.perform outrun.action).2 =
      .requested (.ok .loaded) [.unknown "ghost" [] ["app"]] := by cbv
  refine ⟨?_, by cbv⟩
  rw [answer]
  exact List.mem_cons_self ..

theorem shifted_of_stale_outrun : outrun.action.Requests ∧
    .unknown "ghost" [] ["app"] ∈ (outrun.loader.perform outrun.action).2.allErrors ∧
    (outrun.loader.perform outrun.action).1.status "app" = .loaded ∧
    ∃ count blocker, outrun.Shifted count "app" blocker := by
  obtain ⟨reported, loaded⟩ := stalled_outrun
  exact ⟨trivial, reported, loaded,
    (shifted_of_stale outrun trivial "app").2 _ _ _ reported (List.mem_cons_self ..) loaded⟩

/-- A loaded library may be reported as stalled. -/
theorem loaded_and_stalled :
    ¬ ∀ (pass : Pass) (library : String), pass.action.Requests →
      (∀ outlet count blocker,
        .told (.abandoned library blocker) ∈ (pass.state count).news outlet (pass.state (count + 1)) →
          (pass.state count).loader.status library ≠ .loaded) ∧
      ∀ first others stalled,
        .unknown first others stalled ∈ (pass.loader.perform pass.action).2.allErrors → library ∈ stalled →
          (pass.loader.perform pass.action).1.status library ≠ .loaded := by
  intro always
  obtain ⟨reported, loaded⟩ := stalled_outrun
  exact (always outrun "app" trivial).2 _ _ _ reported (List.mem_cons_self ..) loaded

end Pass

end DemandLoad
