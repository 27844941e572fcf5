/-!
# Registries

A registry gives entries names.  An entry is added only under a name that is free, so
what a name stands for never changes.
-/

namespace RoutineGate

/-- Entries under distinct names, in order of registration. -/
structure Registry (Entry : Type) where
  entries : List (String × Entry) := []

namespace Registry

variable {Entry : Type}

/-- The registry without entries. -/
def empty : Registry Entry := {}

def get? (registry : Registry Entry) (name : String) : Option Entry :=
  registry.entries.lookup name

/-- Whether a name is taken. -/
def contains (registry : Registry Entry) (name : String) : Bool :=
  (registry.get? name).isSome

/-- The number of entries. -/
def size (registry : Registry Entry) : Nat :=
  registry.entries.length

/-- The names, sorted. -/
def names (registry : Registry Entry) : List String :=
  (registry.entries.map Prod.fst).mergeSort fun left right => left ≤ right

/-- Adds an entry at the end. -/
def add (registry : Registry Entry) (name : String) (entry : Entry) : Registry Entry :=
  ⟨registry.entries ++ [(name, entry)]⟩

/-- The registry of entries with distinct names, in order. -/
def ofList (entries : List (String × Entry)) : Registry Entry := ⟨entries⟩

@[simp] theorem get?_empty (name : String) :
    (empty : Registry Entry).get? name = none := rfl

@[simp] theorem size_add
    (registry : Registry Entry)
    (name : String)
    (entry : Entry) :
    (registry.add name entry).size = registry.size + 1 := by
  simp [size, add]

/-- An entry that is added under a free name is found under it. -/
theorem get?_add_self
    {registry : Registry Entry}
    {name : String}
    (free : registry.get? name = none)
    (entry : Entry) :
    (registry.add name entry).get? name = some entry := by
  simp only [get?, add, List.lookup_append] at *
  simp [free]

/-- Adding an entry leaves those under other names alone. -/
theorem get?_add_of_ne
    {name other : String}
    (different : other ≠ name)
    (registry : Registry Entry)
    (entry : Entry) :
    (registry.add name entry).get? other = registry.get? other := by
  have apart : (other == name) = false := by simpa using different
  simp [get?, add, List.lookup_append, List.lookup_cons, apart]

end Registry
end RoutineGate
