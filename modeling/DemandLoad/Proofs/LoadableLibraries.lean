import DemandLoad.Proofs.WriteOnceSessions

namespace DemandLoad

/-- An action that neither declares nor requests anything. -/
def Action.Passive : Action → Prop
  | .fail _ | .query _ => True
  | .register _ _ _ | .request _ _ | .requestAll _ _ => False

def Target.Succeeds (target : Option Target) : Prop := ∀ message, .fail message ∉ Target.actions target

namespace Loader

/-- The library is loaded, or its target succeeds and its dependencies are loadable. -/
inductive Loadable (loader : Loader) : String → Prop
  | loaded {name : String} (loaded : loader.status name = .loaded) : Loadable loader name
  | loads {name : String} {record : Library Target} (idle : loader.status name = .unloaded)
      (known : loader.registry.lookup? name = some record) (succeeds : Target.Succeeds record.target)
      (dependencies : ∀ dependency ∈ loader.dependencies name, Loadable loader dependency) :
      Loadable loader name

/-- Requests for the names `asked` reach the library. -/
inductive Attempted (loader : Loader) (asked : String → Prop) : String → Prop
  | asked {name : String} (asks : asked name) : Attempted loader asked name
  | next {name dependency : String} {past rest : List String} (attempted : Attempted loader asked name)
      (idle : loader.status name = .unloaded) (split : loader.dependencies name = past ++ dependency :: rest)
      (loadable : ∀ other ∈ past, loader.Loadable other) : Attempted loader asked dependency

structure Fails (loader : Loader) (name : String) : Prop where
  idle : loader.status name = .unloaded
  dependencies : ∀ dependency ∈ loader.dependencies name, loader.Loadable dependency
  failing : ∃ record, loader.registry.lookup? name = some record ∧ ¬ Target.Succeeds record.target

variable {loader : Loader} {name : String} {asked more : String → Prop}

theorem Loadable.status_ne (loadable : loader.Loadable name) : loader.status name ≠ .loading := by
  cases loadable with
  | loaded loaded => simp [loaded]
  | loads idle => simp [idle]

theorem Loadable.dependencies_of_idle (loadable : loader.Loadable name)
    (idle : loader.status name = .unloaded) :
    ∀ dependency ∈ loader.dependencies name, loader.Loadable dependency := by
  cases loadable with
  | loaded loaded => cases loaded.symm.trans idle
  | loads _ known succeeds dependencies => exact dependencies

theorem Loadable.exists_record (loadable : loader.Loadable name) (idle : loader.status name = .unloaded) :
    ∃ record, loader.registry.lookup? name = some record ∧ Target.Succeeds record.target := by
  cases loadable with
  | loaded loaded => cases loaded.symm.trans idle
  | loads _ known succeeds => exact ⟨_, known, succeeds⟩

theorem Fails.not_loadable (fails : loader.Fails name) : ¬ loader.Loadable name := by
  intro loadable
  obtain ⟨record, known, failing⟩ := fails.failing
  obtain ⟨other, same, succeeds⟩ := loadable.exists_record fails.idle
  cases known.symm.trans same
  exact failing succeeds

theorem Attempted.mono (attempted : loader.Attempted asked name) (wider : ∀ other, asked other → more other) :
    loader.Attempted more name := by
  induction attempted with
  | asked asks => exact .asked (wider _ asks)
  | next _ idle split loadable ih => exact .next ih idle split loadable

theorem attempted_or : loader.Attempted (fun other => asked other ∨ more other) name ↔
    loader.Attempted asked name ∨ loader.Attempted more name := by
  constructor
  · intro attempted
    induction attempted with
    | asked asks => exact asks.imp .asked .asked
    | next _ idle split loadable ih =>
        exact ih.imp (fun first => .next first idle split loadable) fun second => .next second idle split loadable
  · rintro (first | second)
    · exact first.mono fun _ => .inl
    · exact second.mono fun _ => .inr

end Loader

end DemandLoad
