namespace PageRouter

/-- Callbacks with their registration ids, in the order of registration. No id is ever used again, so that removing
one registration leaves all others in place, even those of the same callback. -/
structure Registry (α : Type) where
  nextId : Nat := 0
  entries : List (Nat × α) := []
  deriving Repr

namespace Registry

variable {α : Type}

/-- Registers a callback under the next id. -/
def subscribe (registry : Registry α) (callback : α) : Registry α :=
  ⟨registry.nextId + 1, registry.entries ++ [(registry.nextId, callback)]⟩

/-- Removes the registration with an id, if it is still there. -/
def unsubscribe (registry : Registry α) (id : Nat) : Registry α :=
  { registry with entries := registry.entries.filter (·.1 ≠ id) }

def callbacks (registry : Registry α) : List α :=
  registry.entries.map (·.2)

def size (registry : Registry α) : Nat :=
  registry.entries.length

def isEmpty (registry : Registry α) : Bool :=
  registry.entries.isEmpty

end Registry

end PageRouter
