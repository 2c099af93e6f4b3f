import DemandLoad.Proofs.WaitingLines
import Mathlib.Data.List.Nodup

namespace DemandLoad

/-- The notice at the index has the property. -/
def Told (notices : List Notice) (index : Nat) (property : Notice → Prop) : Prop :=
  ∃ notice, notices[index]? = some notice ∧ property notice

/-- A notice of the one kind, and after it one of the other. -/
structure Leads (notices : List Notice) (opening closing : Notice → Prop) (opened closed : Nat) : Prop where
  order : opened < closed
  first : Told notices opened opening
  second : Told notices closed closing

/-- The request is deferred at the index, and no later notice closes the deferral. -/
def Waits (notices : List Notice) (waiter : Waiter) (opened : Nat) : Prop :=
  Told notices opened (·.Defers waiter) ∧ ∀ closed, ¬ Leads notices (·.Defers waiter) (·.Closes waiter) opened closed

section Concat

variable {notices more : List Notice} {notice : Notice} {property opening closing : Notice → Prop}
  {index opened closed : Nat} {waiter : Waiter}

theorem Told.lt (told : Told notices index property) : index < notices.length := by
  obtain ⟨notice, found, -⟩ := told
  exact (List.getElem?_eq_some_iff.mp found).1

theorem Told.mem (told : Told notices index property) : ∃ notice ∈ notices, property notice := by
  obtain ⟨notice, found, holds⟩ := told
  exact ⟨notice, List.mem_of_getElem? found, holds⟩

theorem exists_told (member : notice ∈ notices) (holds : property notice) :
    ∃ index, Told notices index property := by
  obtain ⟨index, found⟩ := List.getElem?_of_mem member
  exact ⟨index, notice, found, holds⟩

theorem told_append : Told (notices ++ more) index property ↔
    Told notices index property ∨ notices.length ≤ index ∧ Told more (index - notices.length) property := by
  rcases Nat.lt_or_ge index notices.length with within | beyond
  · simp only [Told, List.getElem?_append_left within]
    constructor
    · exact .inl
    · rintro (told | ⟨late, -⟩)
      · exact told
      · exact absurd within (Nat.not_lt.mpr late)
  · simp only [Told, List.getElem?_append_right beyond]
    constructor
    · exact fun told => .inr ⟨beyond, told⟩
    · rintro (⟨notice, found, -⟩ | ⟨-, told⟩)
      · exact absurd (List.getElem?_eq_some_iff.mp found).1 (Nat.not_lt.mpr beyond)
      · exact told

theorem told_concat : Told (notices ++ [notice]) index property ↔
    Told notices index property ∨ index = notices.length ∧ property notice := by
  rw [told_append]
  refine or_congr_right ?_
  constructor
  · rintro ⟨late, told⟩
    have first := told.lt
    have last : index - notices.length = 0 := Nat.lt_one_iff.mp first
    obtain ⟨other, found, holds⟩ := told
    rw [last] at found
    cases found
    exact ⟨by omega, holds⟩
  · rintro ⟨rfl, holds⟩
    exact ⟨Nat.le_refl _, notice, by simp, holds⟩

theorem leads_concat : Leads (notices ++ [notice]) opening closing opened closed ↔
    Leads notices opening closing opened closed ∨
      closed = notices.length ∧ closing notice ∧ Told notices opened opening := by
  constructor
  · rintro ⟨order, first, second⟩
    rcases told_concat.mp second with ended | ⟨rfl, closes⟩
    · rcases told_concat.mp first with began | ⟨rfl, -⟩
      · exact .inl ⟨order, began, ended⟩
      · exact absurd ended.lt (Nat.lt_asymm order)
    · rcases told_concat.mp first with began | ⟨rfl, -⟩
      · exact .inr ⟨rfl, closes, began⟩
      · exact absurd order (Nat.lt_irrefl _)
  · rintro (⟨order, first, second⟩ | ⟨rfl, closes, began⟩)
    · exact ⟨order, told_concat.mpr (.inl first), told_concat.mpr (.inl second)⟩
    · exact ⟨began.lt, told_concat.mpr (.inl began), told_concat.mpr (.inr ⟨rfl, closes⟩)⟩

theorem leads_concat_of_not (apart : ¬ closing notice) :
    Leads (notices ++ [notice]) opening closing opened closed ↔
      Leads notices opening closing opened closed := by
  rw [leads_concat]
  exact or_iff_left fun last => apart last.2.1

theorem waits_concat : Waits (notices ++ [notice]) waiter opened ↔
    Waits notices waiter opened ∧ ¬ notice.Closes waiter ∨ opened = notices.length ∧ notice.Defers waiter := by
  constructor
  · rintro ⟨deferred, unclosed⟩
    rcases told_concat.mp deferred with before | now
    · left
      refine ⟨⟨before, fun closed leads => unclosed closed (leads_concat.mpr (.inl leads))⟩, ?_⟩
      exact fun closes => unclosed _ (leads_concat.mpr (.inr ⟨rfl, closes, before⟩))
    · exact .inr now
  · rintro (⟨⟨before, unclosed⟩, further⟩ | ⟨rfl, defers⟩)
    · refine ⟨told_concat.mpr (.inl before), ?_⟩
      intro closed leads
      rcases leads_concat.mp leads with old | ⟨-, closes, -⟩
      · exact unclosed closed old
      · exact further closes
    · refine ⟨told_concat.mpr (.inr ⟨rfl, defers⟩), ?_⟩
      intro closed leads
      have within := leads.second.lt
      rw [List.length_append, List.length_singleton] at within
      exact absurd leads.order (Nat.not_lt.mpr (Nat.le_of_lt_succ within))

end Concat

namespace Notice

variable {notice : Notice} {first second blocker : String} {waiter other : Waiter}

theorem Closes.unique (closes : notice.Closes ⟨first, blocker⟩) (again : notice.Closes ⟨second, blocker⟩) :
    first = second := by
  rcases closes with ⟨told, -⟩ | told <;> rcases again with ⟨same, -⟩ | same <;>
    cases told.symm.trans same <;> rfl

theorem Defers.not_closes (defers : notice.Defers waiter) : ¬ notice.Closes other := by
  rintro (⟨told, -⟩ | told) <;> cases defers.1.symm.trans told

theorem Defers.unique (defers : notice.Defers ⟨first, blocker⟩) (again : notice.Defers ⟨second, blocker⟩) :
    first = second := by
  cases defers.1.symm.trans again.1
  rfl

end Notice

def AtMostOne (property : Notice → Prop) (notices : List Notice) : Prop :=
  notices.Pairwise fun earlier later => property earlier → ¬ property later

theorem AtMostOne.of_none {property : Notice → Prop} {notices : List Notice}
    (silent : ∀ notice ∈ notices, ¬ property notice) : AtMostOne property notices :=
  List.pairwise_of_forall_mem_list fun earlier member _ _ holds => absurd holds (silent earlier member)

theorem Told.unique {notices : List Notice} {property : Notice → Prop} {index again : Nat}
    (once : AtMostOne property notices) (told : Told notices index property)
    (retold : Told notices again property) : index = again := by
  obtain ⟨earlier, found, holds⟩ := told
  obtain ⟨later, refound, keeps⟩ := retold
  obtain ⟨within, rfl⟩ := List.getElem?_eq_some_iff.mp found
  obtain ⟨inside, rfl⟩ := List.getElem?_eq_some_iff.mp refound
  rcases Nat.lt_trichotomy index again with before | same | after
  · exact absurd keeps (List.pairwise_iff_getElem.mp once index again within inside before holds)
  · exact same
  · exact absurd holds (List.pairwise_iff_getElem.mp once again index inside within after keeps)

/-- The invariant that relates the notices so far to the queue of `blocker` and to what it has still to
resume. -/
structure Kept (blocker : String) (notices : List Notice) (line : List String) : Prop where
  nodup : line.Nodup
  mem_iff : ∀ name, name ∈ line ↔ ∃ opened, Waits notices ⟨name, blocker⟩ opened
  deferred : ∀ name closed, Told notices closed (·.Closes ⟨name, blocker⟩) →
    ∃ opened, Leads notices (·.Defers ⟨name, blocker⟩) (·.Closes ⟨name, blocker⟩) opened closed
  closed : ∀ name opened closed again,
    Leads notices (·.Defers ⟨name, blocker⟩) (·.Closes ⟨name, blocker⟩) opened closed →
      Leads notices (·.Defers ⟨name, blocker⟩) (·.Closes ⟨name, blocker⟩) opened again → closed = again
  line : line.Pairwise fun first second => ∀ opened later,
    Waits notices ⟨first, blocker⟩ opened → Waits notices ⟨second, blocker⟩ later → opened < later
  ahead : ∀ first second opened closed later,
    Leads notices (·.Defers ⟨first, blocker⟩) (·.Resumes ⟨first, blocker⟩) opened closed →
      Waits notices ⟨second, blocker⟩ later → opened < later
  ordered : ∀ first second opened closed later again,
    Leads notices (·.Defers ⟨first, blocker⟩) (·.Resumes ⟨first, blocker⟩) opened closed →
      Leads notices (·.Defers ⟨second, blocker⟩) (·.Resumes ⟨second, blocker⟩) later again →
        closed < again → opened < later

namespace Kept

variable {blocker name : String} {notices : List Notice} {notice : Notice} {line left : List String}

theorem nil (blocker : String) : Kept blocker [] [] := by
  have silent : ∀ {index : Nat} {property : Notice → Prop}, ¬ Told [] index property :=
    fun told => Nat.not_lt_zero _ told.lt
  refine ⟨.nil, ?_, fun _ _ told => absurd told silent, fun _ _ _ _ leads => absurd leads.first silent,
    .nil, fun _ _ _ _ _ leads => absurd leads.first silent, fun _ _ _ _ _ _ leads => absurd leads.first silent⟩
  intro name
  constructor
  · intro member
    cases member
  · rintro ⟨opened, told, -⟩
    exact absurd told silent

theorem passes (kept : Kept blocker notices line)
    (apart : ∀ name, ¬ notice.Defers ⟨name, blocker⟩ ∧ ¬ notice.Closes ⟨name, blocker⟩) :
    Kept blocker (notices ++ [notice]) line := by
  have waits : ∀ name opened, Waits (notices ++ [notice]) ⟨name, blocker⟩ opened ↔
      Waits notices ⟨name, blocker⟩ opened := by
    intro name opened
    simp [waits_concat, apart name]
  have closes : ∀ name opened closed,
      Leads (notices ++ [notice]) (·.Defers ⟨name, blocker⟩) (·.Closes ⟨name, blocker⟩) opened closed ↔
        Leads notices (·.Defers ⟨name, blocker⟩) (·.Closes ⟨name, blocker⟩) opened closed :=
    fun name opened closed => leads_concat_of_not (apart name).2
  have resumes : ∀ name opened closed,
      Leads (notices ++ [notice]) (·.Defers ⟨name, blocker⟩) (·.Resumes ⟨name, blocker⟩) opened closed ↔
        Leads notices (·.Defers ⟨name, blocker⟩) (·.Resumes ⟨name, blocker⟩) opened closed :=
    fun name opened closed => leads_concat_of_not fun resumes => (apart name).2 (.inl resumes)
  obtain ⟨nodup, mem_iff, deferred, closed, order, ahead, ordered⟩ := kept
  refine ⟨nodup, ?_, ?_, ?_, ?_, ?_, ?_⟩
  · simpa only [waits] using mem_iff
  · intro name ended told
    rcases told_concat.mp told with old | ⟨-, now⟩
    · simpa only [closes] using deferred name ended old
    · exact absurd now (apart name).2
  · simpa only [closes] using closed
  · simpa only [waits] using order
  · simpa only [waits, resumes] using ahead
  · simpa only [resumes] using ordered

theorem joins (kept : Kept blocker notices line) (defers : notice.Defers ⟨name, blocker⟩) (new : name ∉ line) :
    Kept blocker (notices ++ [notice]) (line ++ [name]) := by
  have waits : ∀ other opened, Waits (notices ++ [notice]) ⟨other, blocker⟩ opened ↔
      Waits notices ⟨other, blocker⟩ opened ∨ opened = notices.length ∧ other = name := by
    intro other opened
    rw [waits_concat]
    refine or_congr (and_iff_left defers.not_closes) (and_congr_right fun _ => ?_)
    exact ⟨fun again => again.unique defers, fun same => same ▸ defers⟩
  have closes : ∀ other opened closed,
      Leads (notices ++ [notice]) (·.Defers ⟨other, blocker⟩) (·.Closes ⟨other, blocker⟩) opened closed ↔
        Leads notices (·.Defers ⟨other, blocker⟩) (·.Closes ⟨other, blocker⟩) opened closed :=
    fun other opened closed => leads_concat_of_not defers.not_closes
  have resumes : ∀ other opened closed,
      Leads (notices ++ [notice]) (·.Defers ⟨other, blocker⟩) (·.Resumes ⟨other, blocker⟩) opened closed ↔
        Leads notices (·.Defers ⟨other, blocker⟩) (·.Resumes ⟨other, blocker⟩) opened closed :=
    fun other opened closed => leads_concat_of_not fun resumes => defers.not_closes (.inl resumes)
  refine ⟨?_, ?_, ?_, ?_, ?_, ?_, ?_⟩
  · rw [← List.concat_eq_append]
    exact kept.nodup.concat new
  · intro other
    simp only [List.mem_append, List.mem_singleton, waits, kept.mem_iff, exists_or, exists_and_right,
      exists_eq, true_and]
  · intro other ended told
    rcases told_concat.mp told with old | ⟨-, now⟩
    · simpa only [closes] using kept.deferred other ended old
    · exact absurd now defers.not_closes
  · simpa only [closes] using kept.closed
  · have old : ∀ other ∈ line, ∀ opened, Waits (notices ++ [notice]) ⟨other, blocker⟩ opened →
        Waits notices ⟨other, blocker⟩ opened := by
      intro other member opened waiting
      rcases (waits other opened).mp waiting with before | ⟨-, rfl⟩
      · exact before
      · exact absurd member new
    refine List.pairwise_append.mpr ⟨?_, List.pairwise_singleton .., ?_⟩
    · refine kept.line.imp_of_mem ?_
      intro first second within inside order opened later waiting further
      exact order opened later (old first within opened waiting) (old second inside later further)
    · intro first within second last opened later waiting further
      rw [List.mem_singleton.mp last] at further
      rcases (waits name later).mp further with before | ⟨rfl, -⟩
      · exact absurd ((kept.mem_iff name).mpr ⟨later, before⟩) new
      · exact (old first within opened waiting).1.lt
  · intro first second opened closed later leads waiting
    rw [resumes] at leads
    rcases (waits second later).mp waiting with before | ⟨rfl, -⟩
    · exact kept.ahead first second opened closed later leads before
    · exact leads.first.lt
  · simpa only [resumes] using kept.ordered

theorem closes (kept : Kept blocker notices line) (once : AtMostOne (·.Defers ⟨name, blocker⟩) notices)
    (closes : notice.Closes ⟨name, blocker⟩) (member : name ∈ line) (shorter : left.Sublist line)
    (others : ∀ other, other ∈ left ↔ other ∈ line ∧ other ≠ name)
    (head : notice.Resumes ⟨name, blocker⟩ → line = name :: left) :
    Kept blocker (notices ++ [notice]) left := by
  obtain ⟨since, waiting⟩ := (kept.mem_iff name).mp member
  have waits : ∀ other opened, Waits (notices ++ [notice]) ⟨other, blocker⟩ opened ↔
      Waits notices ⟨other, blocker⟩ opened ∧ other ≠ name := by
    intro other opened
    rw [waits_concat]
    constructor
    · rintro (⟨before, further⟩ | ⟨-, defers⟩)
      · exact ⟨before, fun same => further (same ▸ closes)⟩
      · exact absurd closes defers.not_closes
    · rintro ⟨before, apart⟩
      exact .inl ⟨before, fun again => apart (again.unique closes)⟩
  -- Whatever the notice closes was the deferral of the one who leaves.
  have since_eq : ∀ other opened, notice.Closes ⟨other, blocker⟩ →
      Told notices opened (·.Defers ⟨other, blocker⟩) → other = name ∧ opened = since := by
    intro other opened again deferred
    cases again.unique closes
    exact ⟨rfl, deferred.unique once waiting.1⟩
  refine ⟨kept.nodup.sublist shorter, ?_, ?_, ?_, ?_, ?_, ?_⟩
  · intro other
    simp only [others, kept.mem_iff, waits, exists_and_right]
  · intro other ended told
    rcases told_concat.mp told with old | ⟨rfl, now⟩
    · obtain ⟨opened, leads⟩ := kept.deferred other ended old
      exact ⟨opened, leads_concat.mpr (.inl leads)⟩
    · cases now.unique closes
      exact ⟨since, leads_concat.mpr (.inr ⟨rfl, now, waiting.1⟩)⟩
  · intro other opened closed again leads further
    rcases leads_concat.mp leads with old | ⟨rfl, now, deferred⟩ <;>
      rcases leads_concat.mp further with before | ⟨rfl, anew, redeferred⟩
    · exact kept.closed other opened closed again old before
    · obtain ⟨rfl, rfl⟩ := since_eq other opened anew redeferred
      exact absurd old (waiting.2 closed)
    · obtain ⟨rfl, rfl⟩ := since_eq other opened now deferred
      exact absurd before (waiting.2 again)
    · rfl
  · refine (kept.line.sublist shorter).imp ?_
    intro first second order opened later waiting further
    exact order opened later ((waits first opened).mp waiting).1 ((waits second later).mp further).1
  · intro first second opened closed later leads further
    obtain ⟨before, apart⟩ := (waits second later).mp further
    rcases leads_concat.mp leads with old | ⟨-, resumes, deferred⟩
    · exact kept.ahead first second opened closed later old before
    · obtain ⟨rfl, rfl⟩ := since_eq first opened (.inl resumes) deferred
      have order := kept.line
      rw [head resumes] at order
      have behind : second ∈ left := (others second).mpr ⟨(kept.mem_iff second).mpr ⟨later, before⟩, apart⟩
      exact (List.pairwise_cons.mp order).1 second behind opened later waiting before
  · intro first second opened closed later again leads further order
    rcases leads_concat.mp further with old | ⟨rfl, resumes, deferred⟩
    · rcases leads_concat.mp leads with before | ⟨rfl, -, -⟩
      · exact kept.ordered first second opened closed later again before old order
      · exact absurd old.second.lt (Nat.lt_asymm order)
    · obtain ⟨rfl, rfl⟩ := since_eq second later (.inl resumes) deferred
      rcases leads_concat.mp leads with before | ⟨rfl, -, -⟩
      · exact kept.ahead first second opened closed later before waiting
      · exact absurd order (Nat.lt_irrefl _)

end Kept

theorem Replays.kept {blocker : String} {notices : List Notice} {line : List String}
    (replays : Replays blocker [] notices line)
    (once : ∀ name, AtMostOne (·.Defers ⟨name, blocker⟩) notices) : Kept blocker notices line := by
  induction replays with
  | nil => exact .nil blocker
  | @concat notices notice line next replays serves ih =>
      have before := fun name => (List.pairwise_append.mp (once name)).1
      have kept := ih before
      cases serves with
      | passes silent => exact kept.passes silent
      | joins defers new => exact kept.joins defers new
      | @leaves _ name abandons waits =>
          refine kept.closes (before name) (.inr abandons) waits List.filter_sublist ?_ ?_
          · simp
          · rintro ⟨resumed, -⟩
            cases abandons.symm.trans resumed
      | @resumes _ name resumes =>
          refine kept.closes (before name) (.inl resumes) (List.mem_cons_self ..) (List.sublist_cons_self ..) ?_
            fun _ => rfl
          intro other
          obtain ⟨absent, -⟩ := List.nodup_cons.mp kept.nodup
          constructor
          · intro member
            exact ⟨List.mem_cons_of_mem _ member, fun same => absent (same ▸ member)⟩
          · rintro ⟨member, differs⟩
            exact (List.mem_cons.mp member).resolve_left differs

end DemandLoad
