import DemandLoad.Proofs.LoadableLibraries
import DemandLoad.Proofs.RestingLoaders

namespace DemandLoad

namespace Loader

/-- The state of a loader after requests for the names `asked`, told from the loader before them. -/
structure Covers (asked : String → Prop) (origin after : Loader) : Prop where
  contains : ∀ name, after.registry.contains name = origin.registry.contains name
  dependencies : ∀ name, after.dependencies name = origin.dependencies name
  lookup : ∀ name, after.status name = .unloaded →
    after.registry.lookup? name = origin.registry.lookup? name
  idle : ∀ name, after.status name = .unloaded → origin.status name = .unloaded
  founded : ∀ name, origin.status name = .unloaded → after.status name ≠ .unloaded →
    ∀ dependency ∈ origin.dependencies name, after.status dependency = .loaded
  loaded : ∀ name, after.status name = .loaded ↔
    origin.status name = .loaded ∨ origin.Loadable name ∧ origin.Attempted asked name
  failed : ∀ name, after.isFailed name = true ↔
    origin.isFailed name = true ∨ origin.Fails name ∧ origin.Attempted asked name

namespace Covers

variable {origin after final : Loader} {asked more : String → Prop} {name : String}

theorem refl (origin : Loader) : Covers (fun _ => False) origin origin := by
  have nothing : ∀ name, ¬ origin.Attempted (fun _ => False) name := by
    intro name attempted
    induction attempted with
    | asked asks => exact asks
    | next attempted idle split loadable ih => exact ih
  refine ⟨fun _ => rfl, fun _ => rfl, fun _ _ => rfl, fun _ => id, ?_, ?_, ?_⟩
  · intro name idle begun
    exact absurd idle begun
  · intro name
    simp [nothing]
  · intro name
    simp [nothing]

theorem of_matches (covers : origin.Covers asked after) (same : after.Matches final) :
    origin.Covers asked final := by
  refine ⟨?_, ?_, ?_, ?_, ?_, ?_, ?_⟩
  · intro name
    rw [same.registry, covers.contains]
  · intro name
    rw [same.dependencies, covers.dependencies]
  · intro name idle
    rw [same.status] at idle
    rw [same.registry, covers.lookup name idle]
  · intro name idle
    rw [same.status] at idle
    exact covers.idle name idle
  · intro name idle begun dependency member
    rw [same.status] at begun ⊢
    exact covers.founded name idle begun dependency member
  · intro name
    rw [same.status, covers.loaded]
  · intro name
    rw [same.isFailed, covers.failed]

variable (covers : origin.Covers asked after) (before : origin.Resting) (resting : after.Resting)
include covers before resting

theorem loadable_iff : after.Loadable name ↔ origin.Loadable name := by
  constructor
  · intro loadable
    induction loadable with
    | @loaded name loaded =>
        rcases (covers.loaded name).mp loaded with old | ⟨loadable, -⟩
        · exact .loaded old
        · exact loadable
    | @loads name record idle known succeeds dependencies ih =>
        rw [covers.lookup name idle] at known
        rw [covers.dependencies] at ih
        exact .loads (covers.idle name idle) known succeeds ih
  · intro loadable
    induction loadable with
    | @loaded name loaded => exact .loaded ((covers.loaded name).mpr (.inl loaded))
    | @loads name record idle known succeeds dependencies ih =>
        cases status : after.status name with
        | loaded => exact .loaded status
        | unloaded =>
            rw [← covers.lookup name status] at known
            rw [← covers.dependencies] at ih
            exact .loads status known succeeds ih
        | loading =>
            rcases (covers.failed name).mp ((resting.failed_iff name).mpr status) with old | ⟨fails, -⟩
            · cases idle.symm.trans ((before.failed_iff name).mp old)
            · exact absurd (.loads idle known succeeds dependencies) fails.not_loadable

theorem attempted_before (attempted : after.Attempted more name) : origin.Attempted more name := by
  induction attempted with
  | asked asks => exact .asked asks
  | next attempted idle split loadable ih =>
      rw [covers.dependencies] at split
      exact .next ih (covers.idle _ idle) split
        fun other member => (covers.loadable_iff before resting).mp (loadable other member)

theorem attempted_after (attempted : origin.Attempted more name) :
    after.Attempted more name ∨ after.status name = .loaded := by
  induction attempted with
  | asked asks => exact .inl (.asked asks)
  | @next name dependency past rest attempted idle split loadable ih =>
      by_cases begun : after.status name = .unloaded
      · have attempted := ih.resolve_right (by simp [begun])
        rw [← covers.dependencies] at split
        exact .inl (.next attempted begun split
          fun other member => (covers.loadable_iff before resting).mpr (loadable other member))
      · exact .inr (covers.founded name idle begun dependency (by simp [split]))

theorem fails_before (fails : after.Fails name) : origin.Fails name := by
  obtain ⟨idle, dependencies, record, known, failing⟩ := fails
  rw [covers.lookup name idle] at known
  rw [covers.dependencies] at dependencies
  exact ⟨covers.idle name idle,
    fun dependency member => (covers.loadable_iff before resting).mp (dependencies dependency member),
    record, known, failing⟩

theorem fails_after (fails : origin.Fails name) : after.Fails name ∨ after.isFailed name = true := by
  cases status : after.status name with
  | loaded =>
      rcases (covers.loaded name).mp status with old | ⟨loadable, -⟩
      · cases fails.idle.symm.trans old
      · exact absurd loadable fails.not_loadable
  | loading => exact .inr ((resting.failed_iff name).mpr status)
  | unloaded =>
      obtain ⟨-, dependencies, record, known, failing⟩ := fails
      rw [← covers.lookup name status] at known
      rw [← covers.dependencies] at dependencies
      exact .inl ⟨status,
        fun dependency member => (covers.loadable_iff before resting).mpr (dependencies dependency member),
        record, known, failing⟩

theorem trans (further : after.Covers more final) :
    origin.Covers (fun other => asked other ∨ more other) final where
  contains name := (further.contains name).trans (covers.contains name)
  dependencies name := (further.dependencies name).trans (covers.dependencies name)
  lookup name idle := (further.lookup name idle).trans (covers.lookup name (further.idle name idle))
  idle name idle := covers.idle name (further.idle name idle)
  founded name idle begun dependency member := by
    by_cases waits : after.status name = .unloaded
    · rw [← covers.dependencies] at member
      exact further.founded name waits begun dependency member
    · exact (further.loaded dependency).mpr (.inl (covers.founded name idle waits dependency member))
  loaded name := by
    rw [further.loaded, covers.loaded, attempted_or, covers.loadable_iff before resting]
    constructor
    · rintro ((old | ⟨loadable, attempted⟩) | ⟨loadable, attempted⟩)
      · exact .inl old
      · exact .inr ⟨loadable, .inl attempted⟩
      · exact .inr ⟨loadable, .inr (covers.attempted_before before resting attempted)⟩
    · rintro (old | ⟨loadable, attempted | attempted⟩)
      · exact .inl (.inl old)
      · exact .inl (.inr ⟨loadable, attempted⟩)
      · rcases covers.attempted_after before resting attempted with still | loaded
        · exact .inr ⟨loadable, still⟩
        · exact .inl ((covers.loaded name).mp loaded)
  failed name := by
    rw [further.failed, covers.failed, attempted_or]
    constructor
    · rintro ((old | ⟨fails, attempted⟩) | ⟨fails, attempted⟩)
      · exact .inl old
      · exact .inr ⟨fails, .inl attempted⟩
      · exact .inr ⟨covers.fails_before before resting fails,
          .inr (covers.attempted_before before resting attempted)⟩
    · rintro (old | ⟨fails, attempted | attempted⟩)
      · exact .inl (.inl old)
      · exact .inl (.inr ⟨fails, attempted⟩)
      · rcases covers.attempted_after before resting attempted with still | loaded
        · rcases covers.fails_after before resting fails with again | failed
          · exact .inr ⟨again, still⟩
          · exact .inl ((covers.failed name).mp failed)
        · rcases (covers.loaded name).mp loaded with old | ⟨loadable, -⟩
          · cases fails.idle.symm.trans old
          · exact absurd loadable fails.not_loadable

end Covers

end Loader

end DemandLoad
