import DemandLoad.Proofs.WriteOnceSessions
import Mathlib.Data.List.GetD

namespace DemandLoad

/-- A session of finitely many actions is one that goes on with queries. -/
structure Session where
  config : Config
  observed : Bool
  actions : Nat → Action

/-- So many steps into the pass of the outermost action at `index`. -/
structure Moment where
  index : Nat
  count : Nat
  deriving DecidableEq

namespace Moment

variable {first second : Moment}

def next (moment : Moment) : Moment := ⟨moment.index, moment.count + 1⟩

instance : LE Moment where
  le earlier later := earlier.index < later.index ∨ earlier.index = later.index ∧ earlier.count ≤ later.count

theorem le_iff : first ≤ second ↔
    first.index < second.index ∨ first.index = second.index ∧ first.count ≤ second.count := Iff.rfl

theorem le_refl (moment : Moment) : moment ≤ moment := .inr ⟨rfl, Nat.le_refl _⟩

theorem le_total (first second : Moment) : first ≤ second ∨ second ≤ first := by
  simp only [le_iff]
  omega

theorem next_le (order : first ≤ second) (apart : first ≠ second) : first.next ≤ second := by
  obtain ⟨index, count⟩ := first
  obtain ⟨other, later⟩ := second
  have differ : ¬ (index = other ∧ count = later) := by
    rintro ⟨rfl, rfl⟩
    exact apart rfl
  simp only [le_iff, next] at *
  omega

end Moment

namespace Session

variable (session : Session)

def loader : Nat → Loader
  | 0 => .create session.config session.observed
  | index + 1 => ((loader index).perform (session.actions index)).1

theorem reachable (index : Nat) : (session.loader index).Reachable := by
  induction index with
  | zero => exact .create session.config session.observed
  | succ index ih => exact ih.perform (session.actions index)

def pass (index : Nat) : Pass := ⟨session.loader index, session.reachable index, session.actions index⟩

def state (moment : Moment) : Machine := (session.pass moment.index).state moment.count

def ofList (config : Config) (observed : Bool) (actions : List Action) : Session :=
  ⟨config, observed, fun index => actions.getD index (.query .names)⟩

variable {session : Session}

theorem loader_succ (session : Session) (index : Nat) :
    ∃ count, session.loader (index + 1) = (session.state ⟨index, count⟩).loader := by
  obtain ⟨last, answer, -, performed⟩ := (session.pass index).exists_done
  exact ⟨last, congrArg Prod.fst performed⟩

theorem sound (moment : Moment) : (session.state moment).Sound := (session.pass moment.index).sound moment.count

theorem state_cases (moment : Moment) : session.state moment.next = session.state moment ∨
    Machine.Step (session.state moment) (session.state moment.next) :=
  (session.pass moment.index).state_cases moment.count

/-- What every step keeps, and the start of every pass, holds at all later moments. -/
theorem carried {motive : Loader → Prop}
    (within : ∀ moment, motive (session.state moment).loader → motive (session.state moment.next).loader)
    (across : ∀ index, motive (session.loader index) → motive (session.state ⟨index, 0⟩).loader)
    {earlier later : Moment} (order : earlier ≤ later) (holds : motive (session.state earlier).loader) :
    motive (session.state later).loader := by
  have onward : ∀ index {count more : Nat}, count ≤ more → motive (session.state ⟨index, count⟩).loader →
      motive (session.state ⟨index, more⟩).loader := by
    intro index count more order holds
    induction order with
    | refl => exact holds
    | step _ ih => exact within _ ih
  -- The pass of an index ends in the loader that the next one starts from.
  have closing : ∀ index count, motive (session.state ⟨index, count⟩).loader →
      motive (session.loader (index + 1)) := by
    intro index count holds
    obtain ⟨last, answer, control, performed⟩ := (session.pass index).exists_done
    have final := onward index (Nat.le_max_left count last) holds
    have same : session.state ⟨index, max count last⟩ = (session.pass index).state last :=
      Pass.state_of_done control (Nat.le_max_right count last)
    rw [same] at final
    change motive ((session.pass index).loader.perform (session.pass index).action).1
    rwa [performed]
  obtain ⟨index, count⟩ := earlier
  obtain ⟨other, more⟩ := later
  rcases Moment.le_iff.mp order with before | ⟨rfl, within⟩
  · -- To the end of the first pass, from pass to pass, and on from the start of the last.
    have opening : motive (session.loader other) := by
      have reached : index + 1 ≤ other := before
      clear before order
      induction reached with
      | refl => exact closing index count holds
      | step _ ih => exact closing _ 0 (across _ ih)
    exact onward other (Nat.zero_le more) (across other opening)
  · exact onward _ within holds

/-- No declaration of the session is for a name that is declared already. -/
def DeclaresOnce (session : Session) : Prop := ∀ index, (session.pass index).DeclaresOnce

theorem DeclaresOnce.writeOnce (once : session.DeclaresOnce) (index : Nat) :
    (session.loader index).WriteOnce := by
  induction index with
  | zero => exact .create session.config session.observed
  | succ index ih => exact .perform (session.pass index) ih (once index)

theorem DeclaresOnce.ofList {config : Config} {observed : Bool} {actions : List Action}
    (early : ∀ index, index < actions.length → ((Session.ofList config observed actions).pass index).DeclaresOnce) :
    (Session.ofList config observed actions).DeclaresOnce := by
  intro index
  rcases Nat.lt_or_ge index actions.length with within | beyond
  · exact early index within
  · exact .of_query (List.getD_eq_default _ _ beyond)

end Session

namespace Loader

theorem performAll_concat (loader : Loader) (actions : List Action) (action : Action) :
    (loader.performAll (actions ++ [action])).1 = ((loader.performAll actions).1.perform action).1 := by
  induction actions generalizing loader with
  | nil => rfl
  | cons first actions ih => exact ih (loader.perform first).1

end Loader

/-- The session of a list comes to the loader that the list leads to. -/
theorem Session.loader_ofList (config : Config) (observed : Bool) (actions : List Action) :
    (ofList config observed actions).loader actions.length =
      ((Loader.create config observed).performAll actions).1 := by
  have upTo : ∀ index, index ≤ actions.length → (ofList config observed actions).loader index =
      ((Loader.create config observed).performAll (actions.take index)).1 := by
    intro index within
    induction index with
    | zero => rfl
    | succ index ih =>
        have known : index < actions.length := within
        have asked : (ofList config observed actions).actions index = actions[index] :=
          List.getD_eq_getElem _ _ known
        rw [List.take_succ_eq_append_getElem known, Loader.performAll_concat, ← ih (Nat.le_of_lt known),
          Session.loader, asked]
  rw [upTo _ (Nat.le_refl _), List.take_length]

end DemandLoad
