import DemandLoad.Library
import DemandLoad.Table

namespace DemandLoad

structure Registry (τ : Type) where
  libraries : Table (Library τ)
  deriving DecidableEq, Repr

namespace Registry

variable {τ : Type}

def empty : Registry τ := ⟨.empty⟩

def lookup? (registry : Registry τ) (name : String) : Option (Library τ) :=
  registry.libraries.get? name

def contains (registry : Registry τ) (name : String) : Bool := registry.libraries.contains name

def names (registry : Registry τ) : List String := registry.libraries.keys

def records (registry : Registry τ) : List (Library τ) := registry.libraries.values

def dependencies? (registry : Registry τ) (name : String) : Option (List String) :=
  (registry.lookup? name).map Library.dependencies

def insert (registry : Registry τ) (library : Library τ) : Registry τ :=
  ⟨registry.libraries.insert library.name library⟩

def clearTarget (library : Library τ) : Library τ := { library with target := none }

def takeTarget? (registry : Registry τ) (name : String) : Option (Option τ × Registry τ) :=
  (registry.lookup? name).map fun library =>
    (library.target, ⟨registry.libraries.insert name (clearTarget library)⟩)

theorem contains_iff (registry : Registry τ) (name : String) :
    registry.contains name = true ↔ name ∈ registry.names :=
  registry.libraries.contains_iff name

theorem lookup?_eq_none (registry : Registry τ) (name : String) :
    registry.lookup? name = none ↔ name ∉ registry.names :=
  registry.libraries.get?_eq_none name

theorem lookup?_insert (registry : Registry τ) (library : Library τ) (name : String) :
    (registry.insert library).lookup? name =
      if name = library.name then some library else registry.lookup? name :=
  registry.libraries.get?_insert library.name name library

theorem names_insert (registry : Registry τ) (library : Library τ) :
    (registry.insert library).names =
      if library.name ∈ registry.names then registry.names else registry.names ++ [library.name] :=
  registry.libraries.keys_insert library.name library

end Registry

end DemandLoad
