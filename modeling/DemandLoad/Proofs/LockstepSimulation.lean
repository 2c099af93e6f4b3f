import DemandLoad.Proofs.LateRecordEquivalence
import DemandLoad.Proofs.RequestReturns

/-!
Two runs in lockstep. The machines have the same control and, above a fixed part, the same stack, and their
loaders are related; then each step of the one is a step of the other.
-/

namespace DemandLoad

/-- The events seen before, and the frames below. -/
structure Footing (α : Type) where
  past : List α
  base : List Frame

def Atop (base ground frames others : List Frame) : Prop :=
  ∃ above, frames = above ++ base ∧ others = above ++ ground

namespace Atop

variable {base ground frames others : List Frame} {frame : Frame}

theorem refl (base ground : List Frame) : Atop base ground base ground := ⟨[], rfl, rfl⟩

theorem push (atop : Atop base ground frames others) (frame : Frame) :
    Atop base ground (frame :: frames) (frame :: others) := by
  obtain ⟨above, rfl, rfl⟩ := atop
  exact ⟨frame :: above, rfl, rfl⟩

theorem pop (atop : Atop base ground (frame :: frames) others) (apart : frame :: frames ≠ base) :
    ∃ below, others = frame :: below ∧ Atop base ground frames below := by
  obtain ⟨above, split, rfl⟩ := atop
  cases above with
  | nil => exact absurd split apart
  | cons top above =>
      obtain ⟨rfl, rfl⟩ := List.cons.inj split
      exact ⟨above ++ ground, rfl, above, rfl, rfl⟩

theorem bare_iff (atop : Atop base ground frames others) : frames = base ↔ others = ground := by
  obtain ⟨above, rfl, rfl⟩ := atop
  rw [List.append_left_eq_self, List.append_left_eq_self]

theorem walkOf_eq (atop : Atop base ground frames others) (same : walkOf ground = walkOf base) :
    walkOf others = walkOf frames := by
  obtain ⟨above, rfl, rfl⟩ := atop
  induction above with
  | nil => exact same
  | cons frame above ih => cases frame <;> simp [walkOf, ih]

theorem eq_of_same (atop : Atop base base frames others) : others = frames := by
  obtain ⟨above, rfl, rfl⟩ := atop
  rfl

end Atop

namespace Machine

variable {α : Type} {see : Event → Option α} {ordered : Prop} {footing ground : Footing α}
  {one other next : Machine} {loader : Loader} {frames : List Frame} {name blocker : String}

/-- The machines have the same control and the same frames above their footings, and their loaders are
related. -/
structure Abreast (see : Event → Option α) (ordered : Prop) (footing ground : Footing α) (one other : Machine) :
    Prop where
  loaders : one.loader.Abreast see ordered footing.past ground.past other.loader
  frames : Atop footing.base ground.base one.frames other.frames
  control : other.control = one.control

def Accompanies (see : Event → Option α) (ordered : Prop) (footing ground : Footing α) (other next : Machine) :
    Prop :=
  ∃ later, Step other later ∧ next.Abreast see ordered footing ground later

theorem Abreast.start {past further : List α} {first second : Loader}
    (abreast : first.Abreast see ordered past further second) (action : Action)
    (asked : ∀ query, action = .query query → second.answer query = first.answer query) :
    (Machine.start first action).Abreast see ordered ⟨past, []⟩ ⟨further, []⟩ (Machine.start second action) := by
  cases action with
  | register name dependencies target => exact ⟨abreast.declare name dependencies target, .refl [] [], rfl⟩
  | request name strict => exact ⟨abreast, .push (.refl [] []) _, rfl⟩
  | requestAll stem strict =>
      refine ⟨abreast, .refl [] [], ?_⟩
      have swept : Machine.swept second stem = Machine.swept first stem := abreast.swept stem
      have loaded : second.loaded = first.loaded := abreast.loaded
      change Control.sweep _ _ _ _ = Control.sweep _ _ _ _
      rw [swept, loaded]
  | fail message => exact ⟨abreast, .refl [] [], rfl⟩
  | query query =>
      exact ⟨abreast, .refl [] [], congrArg (fun reply => Control.done (.told reply)) (asked query rfl)⟩

section Step

variable (abreast : one.Abreast see ordered footing ground other)
include abreast

theorem Abreast.succeed {outcome : Outcome} (reason : Succeeds one loader frames name outcome) :
    Accompanies see ordered footing ground other ⟨loader, frames, .answered (.ok outcome)⟩ := by
  obtain ⟨wide, others, control⟩ := other
  obtain ⟨loaders, atop, rfl⟩ := abreast
  cases reason with
  | loadedBefore loaded =>
      exact ⟨_, .succeed (.loadedBefore ((loaders.status _).trans loaded)), loaders.announce _, atop, rfl⟩
  | loadedMeanwhile loaded =>
      exact ⟨_, .succeed (.loadedMeanwhile ((loaders.status _).trans loaded)), loaders, atop, rfl⟩
  | resumedAll => exact ⟨_, .succeed .resumedAll, loaders, atop, rfl⟩

theorem Abreast.remember (reason : Remembers one loader frames name) :
    Accompanies see ordered footing ground other ⟨loader.remember name, frames, .answered (.ok .deferred)⟩ := by
  obtain ⟨wide, others, control⟩ := other
  obtain ⟨loaders, atop, rfl⟩ := abreast
  cases reason with
  | undeclared idle unknown =>
      exact ⟨_, .remember (.undeclared ((loaders.status _).trans idle) ((loaders.contains _).trans unknown)),
        (loaders.announce _).remember _, atop, rfl⟩
  | vanished idle unknown =>
      exact ⟨_, .remember (.vanished ((loaders.status _).trans idle) ((loaders.records _ idle).trans unknown)),
        loaders.remember _, atop, rfl⟩

theorem Abreast.conclude (verdict : Verdict) :
    (one.conclude verdict).Abreast see ordered footing ground (other.conclude verdict) := by
  obtain ⟨errors, taken⟩ := abreast.loaders.takeErrors
  obtain ⟨unknown, given⟩ := taken.giveUpUnresolved
  refine ⟨given, abreast.frames, ?_⟩
  have answers : verdictAnswer other.loader.takeErrors.1.giveUpUnresolved.1 other.loader.takeErrors.2
        other.loader.takeErrors.1.giveUpUnresolved.2 verdict =
      verdictAnswer one.loader.takeErrors.1.giveUpUnresolved.1 one.loader.takeErrors.2
        one.loader.takeErrors.1.giveUpUnresolved.2 verdict := by
    rw [errors, unknown]
    unfold verdictAnswer
    simp only [given.status, given.loaded]
  exact congrArg Control.done answers

variable (stands : ∀ result, one.control = .answered result → one.frames ≠ footing.base)
include stands

theorem Abreast.postpone (reason : Postpones one loader frames name blocker) :
    Accompanies see ordered footing ground other ⟨loader.defer name blocker, frames, .answered (.ok .deferred)⟩ := by
  obtain ⟨wide, others, control⟩ := other
  obtain ⟨loaders, atop, rfl⟩ := abreast
  cases reason with
  | itself loading sound =>
      exact ⟨_, .postpone (.itself ((loaders.status _).trans loading) ((loaders.isFailed _).trans sound)),
        (loaders.announce _).defer _ _, atop, rfl⟩
  | itselfMeanwhile loading sound =>
      exact ⟨_, .postpone (.itselfMeanwhile ((loaders.status _).trans loading) ((loaders.isFailed _).trans sound)),
        loaders.defer _ _, atop, rfl⟩
  | dependencyLoading loading sound =>
      exact ⟨_, .postpone (.dependencyLoading ((loaders.status _).trans loading) ((loaders.isFailed _).trans sound)),
        loaders.defer _ _, atop, rfl⟩
  | dependencyWaits waits =>
      obtain ⟨below, rfl, lower⟩ := atop.pop (stands _ rfl)
      refine ⟨_, .postpone (.dependencyWaits ?_), loaders.defer _ _, lower, rfl⟩
      rwa [loaders.status]

theorem Abreast.advance {dependency : String} {rest : List String}
    (reason : Advances one frames name dependency rest) :
    Accompanies see ordered footing ground other ⟨one.loader, frames, .walk name rest⟩ := by
  obtain ⟨wide, others, control⟩ := other
  obtain ⟨loaders, atop, rfl⟩ := abreast
  cases reason with
  | loadedBefore loaded =>
      exact ⟨_, .advance (.loadedBefore ((loaders.status _).trans loaded)), loaders, atop, rfl⟩
  | loadedNow loaded =>
      obtain ⟨below, rfl, lower⟩ := atop.pop (stands _ rfl)
      exact ⟨_, .advance (.loadedNow ((loaders.status _).trans loaded)), loaders, lower, rfl⟩

theorem Abreast.reject {error : LoadError} (walks : walkOf ground.base = walkOf footing.base)
    (reason : Rejects one loader frames name error) :
    Accompanies see ordered footing ground other ⟨loader.dropBehind name, frames, .answered (.error error)⟩ := by
  obtain ⟨wide, others, control⟩ := other
  obtain ⟨loaders, atop, rfl⟩ := abreast
  cases reason with
  | failedBefore loading failed =>
      exact ⟨_, .reject (.failedBefore ((loaders.status _).trans loading) ((loaders.isFailed _).trans failed)),
        (loaders.announce _).dropBehind _, atop, rfl⟩
  | cycle idle known walking =>
      have same := atop.walkOf_eq walks
      refine ⟨_, .reject (.cycle ((loaders.status _).trans idle) ((loaders.contains _).trans known) ?_),
        ((loaders.announce _).forget _).dropBehind _, atop, ?_⟩
      · rwa [same]
      · rw [same]
  | dependencyFailed loading failed =>
      exact ⟨_, .reject (.dependencyFailed ((loaders.status _).trans loading) ((loaders.isFailed _).trans failed)),
        loaders.dropBehind _, atop, rfl⟩
  | failedMeanwhile loading failed =>
      exact ⟨_, .reject (.failedMeanwhile ((loaders.status _).trans loading) ((loaders.isFailed _).trans failed)),
        loaders.dropBehind _, atop, rfl⟩
  | refused unfinished =>
      exact ⟨_, .reject (.refused (loaders.tracker.finish_error unfinished)), loaders.dropBehind _, atop, rfl⟩
  | passedOn =>
      obtain ⟨below, rfl, lower⟩ := atop.pop (stands _ rfl)
      exact ⟨_, .reject .passedOn, loaders.dropBehind _, lower, rfl⟩

variable (asks : ∀ library query rest, one.control = .perform library (.query query :: rest) →
  see (.performed library (.query query) (.told (other.loader.answer query))) =
    see (.performed library (.query query) (.told (one.loader.answer query))))
include asks

theorem Abreast.answers {library : String} {action : Action} {rest : List Action} {answer : Answer}
    (reason : Answers one frames library action rest answer) : ∃ others reply,
      Answers other others library action rest reply ∧ action.failure? reply = action.failure? answer ∧
        see (.performed library action reply) = see (.performed library action answer) ∧
          Atop footing.base ground.base frames others := by
  obtain ⟨wide, others, control⟩ := other
  obtain ⟨loaders, atop, rfl⟩ := abreast
  cases reason with
  | told => exact ⟨_, _, .told, rfl, asks _ _ _ rfl, atop⟩
  | failing => exact ⟨_, _, .failing, rfl, rfl, atop⟩
  | swept =>
      refine ⟨_, _, .swept, ?_, ?_, atop⟩
      · rw [loaders.loaded]
      · rw [loaders.loaded]
  | requested =>
      obtain ⟨below, rfl, lower⟩ := atop.pop (stands _ rfl)
      exact ⟨_, _, .requested, rfl, rfl, lower⟩

/-- Unless the one machine has an answer for the frame it stands on, the other takes the same step. -/
theorem Abreast.step (walks : walkOf ground.base = walkOf footing.base) (step : Step one next) :
    Accompanies see ordered footing ground other next := by
  obtain ⟨wide, others, control⟩ := other
  obtain ⟨loaders, atop, rfl⟩ := id abreast
  cases step with
  | succeed reason => exact abreast.succeed reason
  | reject reason => exact abreast.reject stands walks reason
  | postpone reason => exact abreast.postpone stands reason
  | remember reason => exact abreast.remember reason
  | advance reason => exact abreast.advance stands reason
  | goOn reason sound =>
      obtain ⟨others, reply, answers, consequence, same, atop⟩ := abreast.answers stands asks reason
      exact ⟨_, .goOn answers (consequence.trans sound), loaders.note same, atop, rfl⟩
  | fail reason failing =>
      obtain ⟨others, reply, answers, consequence, same, atop⟩ := abreast.answers stands asks reason
      obtain ⟨error, failed⟩ := (loaders.note same).failTarget _ _
      exact ⟨_, .fail answers (consequence.trans failing), failed.dropBehind _, atop,
        congrArg (fun told => Control.answered (.error told)) error⟩
  | enter idle known fresh =>
      refine ⟨_, .enter ((loaders.status _).trans idle) ((loaders.contains _).trans known) ?_,
        (loaders.announce _).forget _, atop, ?_⟩
      · rwa [atop.walkOf_eq walks]
      · rw [loaders.dependencies idle]
  | descend idle => exact ⟨_, .descend ((loaders.status _).trans idle), loaders, atop.push _, rfl⟩
  | begin idle taken =>
      obtain ⟨registry, found, begun⟩ := loaders.begin idle taken
      exact ⟨_, .begin ((loaders.status _).trans idle) found, begun, atop, rfl⟩
  | finish finished =>
      obtain ⟨later, finished_too, ended⟩ := loaders.endLoad finished
      exact ⟨_, .finish finished_too, ended, atop, rfl⟩
  | declare => exact ⟨_, .declare, (loaders.declare _ _ _).note rfl, atop, rfl⟩
  | call => exact ⟨_, .call, loaders, atop.push _, rfl⟩
  | callAll =>
      refine ⟨_, .callAll, loaders, atop, ?_⟩
      rw [loaders.loaded, loaders.swept]
  | resumeNext => exact ⟨_, .resumeNext, loaders.announce _, atop.push _, rfl⟩
  | sweepNext => exact ⟨_, .sweepNext, loaders, atop.push _, rfl⟩
  | sweepEnd => exact ⟨_, .sweepEnd, loaders, atop, rfl⟩
  | settleNext => exact ⟨_, .settleNext, (loaders.forget _).announce _, atop.push _, rfl⟩
  | settleRound pending =>
      refine ⟨_, .settleRound ?_, loaders, atop, ?_⟩
      · rwa [loaders.due]
      · rw [loaders.due]
  | conclude settled => exact ⟨_, .conclude (loaders.due.trans settled), abreast.conclude _⟩
  | returned =>
      obtain ⟨below, rfl, lower⟩ := atop.pop (stands _ rfl)
      exact ⟨_, .returned, loaders, lower, rfl⟩
  | sweptOne =>
      obtain ⟨below, rfl, lower⟩ := atop.pop (stands _ rfl)
      exact ⟨_, .sweptOne, loaders, lower, rfl⟩
  | resumedOne =>
      obtain ⟨below, rfl, lower⟩ := atop.pop (stands _ rfl)
      exact ⟨_, .resumedOne, loaders.orphan _, lower, rfl⟩
  | settledOne =>
      obtain ⟨below, rfl, lower⟩ := atop.pop (stands _ rfl)
      exact ⟨_, .settledOne, loaders.orphan _, lower, rfl⟩

end Step

end Machine

namespace Pass

variable {α : Type} {see : Event → Option α} {ordered : Prop} {footing ground : Footing α} {one other : Pass}
  {first second count : Nat} {name : String} {result : Except LoadError Outcome}

/-- Whenever the passes are related, the answers to the queries of a program look the same in both. -/
def AsksAlike (see : Event → Option α) (ordered : Prop) (footing ground : Footing α) (one other : Pass) : Prop :=
  ∀ moment later, (one.state moment).Abreast see ordered footing ground (other.state later) → ∀ library query rest,
    (one.state moment).control = .perform library (.query query :: rest) →
      see (.performed library (.query query) (.told ((other.state later).loader.answer query))) =
        see (.performed library (.query query) (.told ((one.state moment).loader.answer query)))

section Lockstep

variable (asks : AsksAlike see ordered footing ground one other) (walks : walkOf ground.base = walkOf footing.base)
include asks walks

theorem abreast_later (abreast : (one.state first).Abreast see ordered footing ground (other.state second))
    (stands : ∀ between, between < count → ∀ result, (one.state (first + between)).control = .answered result →
      (one.state (first + between)).frames ≠ footing.base) :
    (one.state (first + count)).Abreast see ordered footing ground (other.state (second + count)) := by
  induction count with
  | zero => exact abreast
  | succ count ih =>
      have before := ih fun between early => stands between (Nat.lt_succ_of_lt early)
      rw [← Nat.add_assoc, ← Nat.add_assoc]
      rcases one.done_or_step (first + count) with ⟨answer, done⟩ | step
      · have done_too : (other.state (second + count)).control = .done answer := before.control.trans done
        rwa [state_of_done done (Nat.le_succ _), state_of_done done_too (Nat.le_succ _)]
      · obtain ⟨later, follows, after⟩ :=
          before.step (stands count (Nat.lt_succ_self count)) (asks _ _ before) walks step
        rwa [state_of_step follows.step?_eq]

/-- A request that is driven in both passes returns after as many steps, with the same result. -/
theorem Returns.abreast (returns : one.Returns first (first + count) name result)
    (stand : (one.state first).frames = footing.base)
    (abreast : (one.state first).Abreast see ordered footing ground (other.state second)) :
    other.Returns second (second + count) name result ∧
      (one.state (first + count)).Abreast see ordered footing ground (other.state (second + count)) := by
  have stands : ∀ between, between < count → ∀ early,
      (one.state (first + between)).control = .answered early →
        (one.state (first + between)).frames ≠ footing.base := by
    intro between before early answered below
    rcases Nat.eq_zero_or_pos between with rfl | positive
    · cases returns.driven.symm.trans answered
    · exact returns.waiting _ (Nat.lt_add_of_pos_right positive) (Nat.add_lt_add_left before first)
        (below.trans stand.symm) early answered
  have along : ∀ between, between ≤ count →
      (one.state (first + between)).Abreast see ordered footing ground (other.state (second + between)) :=
    fun between upTo => abreast_later asks walks abreast fun early before =>
      stands early (Nat.lt_of_lt_of_le before upTo)
  have final := along count (Nat.le_refl count)
  have stand_too : (other.state second).frames = ground.base := abreast.frames.bare_iff.mp stand
  have later : 0 < count := Nat.pos_of_lt_add_right returns.later
  refine ⟨⟨Nat.lt_add_of_pos_right later, abreast.control.trans returns.driven,
    final.control.trans returns.answered, ?_, ?_⟩, final⟩
  · exact (final.frames.bare_iff.mp (returns.below.trans stand)).trans stand_too.symm
  · intro moment after before below early answered
    obtain ⟨between, rfl⟩ := Nat.exists_eq_add_of_le (Nat.le_of_lt after)
    have within : between < count := Nat.lt_of_add_lt_add_left before
    have alike := along between (Nat.le_of_lt within)
    exact stands between within early (alike.control.symm.trans answered)
      (alike.frames.bare_iff.mpr (below.trans stand_too))

end Lockstep

theorem frames_ne_nil {pass : Pass} {moment : Nat} (answered : (pass.state moment).control = .answered result) :
    (pass.state moment).frames ≠ [] := by
  intro bare
  rcases pass.done_or_step moment with ⟨answer, done⟩ | step
  · cases done.symm.trans answered
  · have stuck : (pass.state moment).step? = none := by rw [Machine.step?, answered, bare]
    cases stuck.symm.trans step.step?_eq

section Whole

variable {past further : List α} (asks : AsksAlike see ordered ⟨past, []⟩ ⟨further, []⟩ one other)
include asks

theorem abreast_always (abreast : (one.state first).Abreast see ordered ⟨past, []⟩ ⟨further, []⟩ (other.state second))
    (count : Nat) :
    (one.state (first + count)).Abreast see ordered ⟨past, []⟩ ⟨further, []⟩ (other.state (second + count)) :=
  abreast_later asks rfl abreast fun _ _ _ answered => frames_ne_nil answered

theorem abreast_perform (abreast : (one.state 0).Abreast see ordered ⟨past, []⟩ ⟨further, []⟩ (other.state 0)) :
    (one.loader.perform one.action).1.Abreast see ordered past further (other.loader.perform other.action).1 ∧
      (other.loader.perform other.action).2 = (one.loader.perform one.action).2 := by
  obtain ⟨last, answer, done, performed⟩ := one.exists_done
  have final := abreast_always asks abreast last
  rw [Nat.zero_add] at final
  have done_too : (other.state last).control = .done answer := final.control.trans done
  rw [performed, perform_of_done done_too]
  exact ⟨final.loaders, rfl⟩

end Whole

end Pass

end DemandLoad
