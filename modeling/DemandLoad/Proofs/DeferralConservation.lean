import DemandLoad.Proofs.DeferralMatching
import Mathlib.Logic.ExistsUnique

/-!
In a traced pass without repeated declarations every deferral behind another library is closed by exactly one
notice, and every closing notice closes exactly one deferral. A loaded library resumes its queue in the order of
the deferrals.
-/

namespace DemandLoad

namespace Machine

variable {machine next : Machine} {name blocker : String} {waiter : Waiter} {notice : Notice}

/-- What a notice of a step says about the queues before and after it. -/
inductive Means (machine next : Machine) : Notice → Prop
  | plain (transition : Transition) (plain : transition.Plain machine.drain?) :
      Means machine next ⟨transition, machine.drain?⟩
  | joined (waiter : Waiter) (new : waiter.library ∉ machine.loader.tracker.queue waiter.blocker)
      (queued : waiter.library ∈ next.loader.tracker.queue waiter.blocker)
      (reason : ∃ loader frames, Postpones machine loader frames waiter.library waiter.blocker) :
      Means machine next ⟨.deferred waiter.library waiter.blocker, machine.drain?⟩
  | dropped (waiter : Waiter) : Means machine next ⟨waiter.abandoned, machine.drain?⟩
  | loaded (name : String) (loading : machine.loader.status name = .loading)
      (ended : next.loader.status name = .loaded) : Means machine next ⟨.loaded name, machine.drain?⟩
  | resumed (library name : String) (drain : machine.drain? = some library)
      (waits : name ∈ machine.drains library) : Means machine next ⟨.resumed name, machine.drain?⟩

theorem Dealt.means {news : List Transition} {transition : Transition} (dealt : Dealt machine next news)
    (member : transition ∈ news) : Means machine next ⟨transition, machine.drain?⟩ := by
  cases dealt with
  | quiet plain => exact .plain transition (plain _ member)
  | loaded name loading ended =>
      cases List.mem_singleton.mp member
      exact .loaded name loading ended
  | resumed library name drain queue drains =>
      cases List.mem_singleton.mp member
      refine .resumed library name drain ?_
      rw [drains, if_pos rfl]
      exact List.mem_cons_self ..
  | dropped others roots plain =>
      rcases List.mem_append.mp member with other | dropped
      · exact .plain transition (plain _ other)
      · obtain ⟨waiter, -, rfl⟩ := List.mem_map.mp dropped
        exact .dropped waiter
  | joined name blocker plain reason queue =>
      rcases List.mem_append.mp member with other | joined
      · exact .plain transition (plain _ other)
      · rw [Tracker.new_defer] at joined
        split at joined
        case isFalse => cases joined
        case isTrue new =>
          cases List.mem_singleton.mp joined
          refine .joined ⟨name, blocker⟩ (of_decide_eq_true new) ?_ reason
          rw [queue, Tracker.mem_queue_defer]
          exact .inr ⟨rfl, rfl⟩

theorem notices_sublist {news : List Transition} (tells : machine.loader.Tells next.loader news) :
    (machine.notices next).Sublist (news.map (⟨·, machine.drain?⟩)) := by
  rw [notices, tells.transitions, List.drop_left]
  split
  · exact .refl _
  · exact List.nil_sublist _

theorem Step.means (active : machine.Active) (step : Step machine next) (told : notice ∈ machine.notices next) :
    Means machine next notice := by
  obtain ⟨news, tells, dealt⟩ := step.deals active
  obtain ⟨transition, member, rfl⟩ := List.mem_map.mp ((notices_sublist tells).subset told)
  exact dealt.means member

theorem Means.joined_of_defers (means : Means machine next notice) (defers : notice.Defers waiter) :
    waiter.library ∉ machine.loader.tracker.queue waiter.blocker ∧
      waiter.library ∈ next.loader.tracker.queue waiter.blocker ∧
        ∃ loader frames, Postpones machine loader frames waiter.library waiter.blocker := by
  cases means with
  | plain transition plain => exact absurd defers (Notice.not_defers_of_plain plain)
  | joined other new queued reason =>
      obtain ⟨library, blocker⟩ := waiter
      obtain ⟨told, -⟩ := defers
      cases told
      exact ⟨new, queued, reason⟩
  | dropped | loaded | resumed => cases defers.1

theorem Means.loaded_of_ends (means : Means machine next notice) (ends : notice.transition = .loaded name) :
    machine.loader.status name = .loading ∧ next.loader.status name = .loaded := by
  cases means with
  | plain transition plain =>
      change transition = _ at ends
      rw [ends] at plain
      exact absurd plain id
  | loaded other loading ended => cases ends; exact ⟨loading, ended⟩
  | joined | dropped | resumed => cases ends

theorem Means.drains_of_resumes (means : Means machine next notice) (resumes : notice.Resumes waiter) :
    waiter.library ∈ machine.drains waiter.blocker := by
  cases means with
  | plain transition plain => exact absurd (.inl resumes) (Notice.not_closes_of_plain plain)
  | resumed library other drain waits =>
      obtain ⟨told, drained⟩ := resumes
      cases told
      cases drained.symm.trans drain
      exact waits
  | joined | dropped | loaded => cases resumes.1

theorem Step.atMostOne {property : Notice → Prop} (active : machine.Active) (step : Step machine next)
    (rare : ∀ transition drain, property ⟨transition, drain⟩ →
      ¬ transition.Plain drain ∧ ∀ waiter : Waiter, transition ≠ waiter.abandoned) :
    AtMostOne property (machine.notices next) := by
  have plainly : ∀ {news : List Transition}, (∀ transition ∈ news, transition.Plain machine.drain?) →
      ∀ notice ∈ news.map (⟨·, machine.drain?⟩ : Transition → Notice), ¬ property notice := by
    intro news plain notice member holds
    obtain ⟨transition, inside, rfl⟩ := List.mem_map.mp member
    exact (rare _ _ holds).1 (plain transition inside)
  obtain ⟨news, tells, dealt⟩ := step.deals active
  refine List.Pairwise.sublist (notices_sublist tells) ?_
  cases dealt with
  | quiet plain => exact AtMostOne.of_none (plainly plain)
  | loaded | resumed => exact List.pairwise_singleton ..
  | dropped others roots plain =>
      rw [List.map_append]
      refine AtMostOne.of_none fun notice member holds => ?_
      rcases List.mem_append.mp member with other | dropped
      · exact plainly plain notice other holds
      · obtain ⟨transition, inside, rfl⟩ := List.mem_map.mp dropped
        obtain ⟨waiter, -, rfl⟩ := List.mem_map.mp inside
        exact (rare _ _ holds).2 waiter rfl
  | joined name blocker plain =>
      rw [List.map_append]
      refine List.pairwise_append.mpr ⟨AtMostOne.of_none (plainly plain), ?_, ?_⟩
      · split
        · exact List.pairwise_singleton ..
        · exact .nil
      · exact fun earlier member _ _ holds => absurd holds (plainly plain earlier member)

end Machine

namespace Pass

variable {pass : Pass} {blocker : String} {count : Nat} {notice : Notice} {waiter : Waiter}

theorem mem_notices_succ (member : notice ∈ pass.notices (count + 1)) : notice ∈ pass.notices count ∨
    Machine.Step (pass.state count) (pass.state (count + 1)) ∧
      Machine.Means (pass.state count) (pass.state (count + 1)) notice := by
  rcases pass.state_cases count with same | step
  · rw [notices_of_rest same] at member
    exact .inl member
  · rw [notices_succ] at member
    refine (List.mem_append.mp member).imp_right fun told => ⟨step, step.means (pass.sound count).active told⟩

theorem DeclaresOnce.queued_or_shut (once : pass.DeclaresOnce) (founded : pass.loader.Founded)
    (member : notice ∈ pass.notices count) (defers : notice.Defers waiter) :
    waiter.library ∈ (pass.state count).loader.tracker.queue waiter.blocker ∨
      (pass.state count).Shut waiter.blocker := by
  induction count with
  | zero => cases member
  | succ count ih =>
      rcases mem_notices_succ member with old | ⟨-, means⟩
      · rcases ih old with queued | shut
        · by_cases kept : waiter.library ∈ (pass.state (count + 1)).loader.tracker.queue waiter.blocker
          · exact .inl kept
          · exact .inr (once.shut_of_left founded queued kept)
        · exact .inr (once.shut_step founded shut)
      · exact .inl (means.joined_of_defers defers).2.1

theorem DeclaresOnce.deferred_once (once : pass.DeclaresOnce) (founded : pass.loader.Founded) (count : Nat)
    (waiter : Waiter) : AtMostOne (·.Defers waiter) (pass.notices count) := by
  induction count with
  | zero => exact .nil
  | succ count ih =>
      rcases pass.state_cases count with same | step
      · rwa [notices_of_rest same]
      · have active := (pass.sound count).active
        rw [notices_succ]
        refine List.pairwise_append.mpr ⟨ih, step.atMostOne active ?_, ?_⟩
        · intro transition drain defers
          refine ⟨fun plain => Notice.not_defers_of_plain plain defers, ?_⟩
          rintro dropped rfl
          cases defers.1
        · intro earlier old later new defers again
          obtain ⟨absent, -, _, _, reason⟩ := (step.means active new).joined_of_defers again
          rcases once.queued_or_shut founded old defers with queued | shut
          · exact absent queued
          · exact once.not_shut_of_postpones founded reason shut

theorem loaded_of_told {name : String} (member : notice ∈ pass.notices count)
    (ends : notice.transition = .loaded name) : (pass.state count).loader.status name = .loaded := by
  induction count with
  | zero => cases member
  | succ count ih =>
      rcases mem_notices_succ member with old | ⟨-, means⟩
      · rcases pass.state_cases count with same | step
        · rw [same]
          exact ih old
        · exact step.loaded_mono (pass.sound count).active (ih old)
      · exact (means.loaded_of_ends ends).2

theorem loaded_once (pass : Pass) (count : Nat) (name : String) :
    AtMostOne (·.transition = .loaded name) (pass.notices count) := by
  induction count with
  | zero => exact .nil
  | succ count ih =>
      rcases pass.state_cases count with same | step
      · rwa [notices_of_rest same]
      · have active := (pass.sound count).active
        rw [notices_succ]
        refine List.pairwise_append.mpr ⟨ih, step.atMostOne active ?_, ?_⟩
        · rintro transition drain rfl
          exact ⟨id, fun waiter same => by cases same⟩
        · intro earlier old later new ends again
          have loading := ((step.means active new).loaded_of_ends again).1
          cases loading.symm.trans (loaded_of_told old ends)

theorem told_of_drains {name : String} (traced : pass.loader.config.traced = true)
    (waits : name ∈ (pass.state count).drains blocker) :
    ∃ index, Told (pass.notices count) index (·.transition = .loaded blocker) := by
  induction count with
  | zero =>
      obtain ⟨loader, reachable, action⟩ := pass
      cases action <;> cases waits
  | succ count ih =>
      rcases pass.state_cases count with same | step
      · rw [notices_of_rest same]
        exact ih (same ▸ waits)
      · rw [notices_succ]
        have before : name ∈ (pass.state count).drains blocker → ∃ index,
            Told (pass.notices count ++ (pass.state count).notices (pass.state (count + 1))) index
              (·.transition = .loaded blocker) := by
          intro old
          obtain ⟨index, told⟩ := ih old
          exact ⟨index, told_append.mpr (.inl told)⟩
        obtain ⟨news, tells, dealt⟩ := step.deals (pass.sound count).active
        cases dealt with
        | quiet plain queue drains => exact before (drains ▸ waits)
        | joined waiter other plain reason queue drains => exact before (drains ▸ waits)
        | dropped others roots plain rooted queue drains => exact before (drains ▸ waits)
        | resumed library other drain queue drains =>
            exact before (drains blocker ▸ List.mem_append_right _ waits)
        | loaded ended loading loaded queue drains =>
            rw [drains] at waits
            split at waits
            case isFalse => exact before waits
            case isTrue same =>
              subst same
              rw [Machine.notices_eq tells (by rw [pass.config_eq, traced])]
              exact exists_told (List.mem_append_right _ (List.mem_singleton.mpr rfl)) rfl

theorem leads_of_resumes {closed : Nat} (traced : pass.loader.config.traced = true)
    (told : Told (pass.notices count) closed (·.Resumes waiter)) : ∃ ended,
    Leads (pass.notices count) (·.transition = .loaded waiter.blocker) (·.Resumes waiter) ended closed := by
  induction count with
  | zero => exact absurd told.lt (Nat.not_lt_zero closed)
  | succ count ih =>
      rcases pass.state_cases count with same | step
      · rw [notices_of_rest same] at told ⊢
        exact ih told
      · rw [notices_succ] at told ⊢
        rcases told_append.mp told with old | ⟨late, new⟩
        · obtain ⟨ended, order, first, second⟩ := ih old
          exact ⟨ended, order, told_append.mpr (.inl first), told⟩
        · obtain ⟨notice, member, resumes⟩ := new.mem
          have waits := (step.means (pass.sound count).active member).drains_of_resumes resumes
          obtain ⟨ended, first⟩ := told_of_drains traced waits
          exact ⟨ended, Nat.lt_of_lt_of_le first.lt late, told_append.mpr (.inl first), told⟩

end Pass

/-- Every deferral is closed once, every closing notice closes one deferral, and what a loaded library resumes
is resumed after the load, in the order of the deferrals. -/
structure Conserved (notices : List Notice) : Prop where
  closed : ∀ waiter opened, Told notices opened (·.Defers waiter) →
    ∃! closed, Leads notices (·.Defers waiter) (·.Closes waiter) opened closed
  deferred : ∀ waiter closed, Told notices closed (·.Closes waiter) →
    ∃! opened, Leads notices (·.Defers waiter) (·.Closes waiter) opened closed
  drained : ∀ waiter closed, Told notices closed (·.Resumes waiter) →
    ∃! ended, Leads notices (·.transition = .loaded waiter.blocker) (·.Resumes waiter) ended closed
  ordered : ∀ first second : Waiter, first.blocker = second.blocker → ∀ opened closed later again,
    Leads notices (·.Defers first) (·.Resumes first) opened closed →
      Leads notices (·.Defers second) (·.Resumes second) later again → closed < again → opened < later

theorem Pass.DeclaresOnce.conserved {pass : Pass} {last : Nat} {answer : Answer} (once : pass.DeclaresOnce)
    (founded : pass.loader.Founded) (traced : pass.loader.config.traced = true)
    (control : (pass.state last).control = .done answer) : Conserved (pass.notices last) := by
  have deferred := once.deferred_once founded last
  have kept : ∀ blocker, Kept blocker (pass.notices last) [] := by
    intro blocker
    rw [← line_of_done control blocker]
    exact (once.replays founded traced last blocker).kept fun name => deferred ⟨name, blocker⟩
  constructor
  · intro waiter opened told
    have closing : ∃ closed, Leads (pass.notices last) (·.Defers waiter) (·.Closes waiter) opened closed := by
      apply Classical.byContradiction
      intro unclosed
      -- Whoever is not out of the line at the end would still be in it.
      have waiting : Waits (pass.notices last) waiter opened := ⟨told, fun closed leads => unclosed ⟨closed, leads⟩⟩
      cases ((kept waiter.blocker).mem_iff waiter.library).mpr ⟨opened, waiting⟩
    obtain ⟨closed, leads⟩ := closing
    exact ⟨closed, leads, fun again further => (kept waiter.blocker).closed waiter.library opened again closed further leads⟩
  · intro waiter closed told
    obtain ⟨opened, leads⟩ := (kept waiter.blocker).deferred waiter.library closed told
    exact ⟨opened, leads, fun again further => further.first.unique (deferred waiter) leads.first⟩
  · intro waiter closed told
    obtain ⟨ended, leads⟩ := leads_of_resumes traced told
    exact ⟨ended, leads, fun again further => further.first.unique (pass.loaded_once last _) leads.first⟩
  · rintro ⟨first, blocker⟩ ⟨second, _⟩ rfl opened closed later again
    exact (kept blocker).ordered first second opened closed later again

namespace Session

variable {session : Session}

theorem config_eq (session : Session) (index : Nat) : (session.loader index).config = session.config := by
  induction index with
  | zero => rfl
  | succ index ih =>
      obtain ⟨count, same⟩ := session.loader_succ index
      rw [same]
      exact ((session.pass index).config_eq count).trans ih

/-- Where no library is declared twice and transitions are traced, every pass conserves its deferrals. -/
theorem conserved_of_declaresOnce (session : Session) (once : session.DeclaresOnce)
    (traced : session.config.traced = true) (index : Nat) :
    ∃ last answer, (session.state ⟨index, last⟩).control = .done answer ∧
      (session.loader (index + 1)).transitions = (session.loader index).transitions ++
        ((session.pass index).notices last).map Notice.transition ∧
      Conserved ((session.pass index).notices last) := by
  obtain ⟨last, answer, control, performed⟩ := (session.pass index).exists_done
  have ends : session.loader (index + 1) = ((session.pass index).state last).loader :=
    congrArg Prod.fst performed
  refine ⟨last, answer, control, ?_, ?_⟩
  · rw [ends]
    exact (session.pass index).transitions_eq last
  · have told : (session.pass index).loader.config.traced = true := by
      rw [show (session.pass index).loader.config = session.config from session.config_eq index, traced]
    exact (once index).conserved (once.founded index) told control

theorem conserved_of_declaresOnce_gathered : gathered.DeclaresOnce ∧ gathered.config.traced = true ∧
    (gathered.loader 6).transitions.filter (·.library = "d") =
      [.requested "d", .deferred "d" "b", .resumed "d", .requested "d", .loading "d", .loaded "d", .requested "d"] ∧
    (gathered.loader 6).transitions.filter (·.library = "g") =
      [.requested "g", .deferred "g" "f", .abandoned "g" "f", .requested "g"] ∧
    ∃ last answer, (gathered.state ⟨5, last⟩).control = .done answer ∧
      (gathered.loader 6).transitions = (gathered.loader 5).transitions ++
        ((gathered.pass 5).notices last).map Notice.transition ∧
      Conserved ((gathered.pass 5).notices last) :=
  ⟨gathered_declaresOnce, rfl, by cbv, by cbv, conserved_of_declaresOnce gathered gathered_declaresOnce rfl 5⟩

end Session

end DemandLoad
