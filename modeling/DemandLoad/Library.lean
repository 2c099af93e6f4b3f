namespace DemandLoad

/-- The target is taken out of the record when loading begins, so that it runs at most once. -/
structure Library (τ : Type) where
  name : String
  target : Option τ
  dependencies : List String
  deriving DecidableEq, Repr

namespace Library

variable {τ : Type}

def declare (name : String) (target : τ) (dependencies : List String) : Library τ :=
  ⟨name, some target, dependencies⟩

end Library

end DemandLoad
